import ProxyWarden.Journal.Tail

/-!
# Where the blocks of a journal are read

The search through a journal from its end, with the places of its reads: a reader keeps the place
up to which the file is still to be read, goes back by one block, reads from there, and notes what
it has read. It stops at the start of the file or when enough lines are found.
-/
namespace ProxyWarden.Tail

/-- A block of a file, by the place where it starts. -/
structure Block where
  start : Nat
  length : Nat
deriving DecidableEq, Repr

namespace Block

/-- The block that is read next if the file is still to be read up to a place: it ends there, and
has the full size unless the file starts before. A size of zero counts as one. -/
def before (size pos : Nat) : Block := ⟨pos - min pos (max size 1), min pos (max size 1)⟩

def read (file : Bytes) (b : Block) : Bytes := (file.drop b.start).take b.length

end Block

/-- The error of the next read after `reads` of them. Cancellation is looked at first. -/
def Disturbance.error? (d : Disturbance) (reads : Nat) : Option TailError :=
  if d.cancelled reads then some .cancelled else (d.failure? reads).map .io

/-- A search and how far it has come: the place up to which the file is still to be read, and the
blocks that were read, the latest first. -/
structure Reader where
  search : Search
  pos : Nat
  reads : List Block
deriving DecidableEq, Repr

namespace Reader

/-- A reader at the end of a file that looks for so many lines. -/
def start (file : Bytes) (n : Nat) : Reader := ⟨⟨[], n, []⟩, file.length, []⟩

def isDone (r : Reader) : Bool := r.pos == 0 || r.search.missing == 0

def next (r : Reader) (file : Bytes) (size : Nat) : Reader :=
  let block := Block.before size r.pos
  { search := r.search.take (Bytes.pieces (block.read file)).reverse
    pos := block.start
    reads := block :: r.reads }

theorem pos_next_lt {r : Reader} (h : r.isDone = false) (file : Bytes) (size : Nat) :
    (r.next file size).pos < r.pos := by
  have hpos : r.pos ≠ 0 := by
    intro hzero
    simp [isDone, hzero] at h
  simp only [next, Block.before]
  omega

/-- Reads until nothing is left to do or something disturbs it. -/
def run (r : Reader) (file : Bytes) (size : Nat) (d : Disturbance) : Except TailError Unit × Reader :=
  if r.isDone then (.ok (), r)
  else
    match d.error? r.reads.length with
    | some e => (.error e, r)
    | none => (r.next file size).run file size d
termination_by r.pos
decreasing_by
  apply pos_next_lt
  rwa [Bool.eq_false_iff]

end Reader

/-- The last `n` lines of the file that hold a JSON value, and the blocks that were read for them,
the latest first. -/
def readLastLines (file : Bytes) (n size : Nat) (d : Disturbance) :
    Except TailError (List Bytes) × List Block :=
  if n = 0 then (.ok [], [])
  else
    let (result, r) := (Reader.start file n).run file size d
    (result.map fun _ => r.search.finish, r.reads)

end ProxyWarden.Tail

import ProxyWarden.Disk.Basic
import ProxyWarden.Json.Skip

/-!
# Reading a journal backwards

The newest lines are found by reading blocks from the end of the file and cutting each at its
newlines, from right to left. What stands before the first newline of a block belongs to a line
that starts in an earlier block and is carried over. Only lines that hold a JSON value count.
-/
namespace ProxyWarden

/-- Why reading a journal ended early. -/
inductive TailError where
  | cancelled
  | io (error : IoError)
deriving DecidableEq, Repr

def TailError.message : TailError → String
  | cancelled => "journal read cancelled"
  | io e => "failed to read journal: " ++ e.message

namespace Tail

def blockSize : Nat := 65536

/-- Cuts a list into pieces of `size`, the last one perhaps shorter; `fuel` is its length. -/
def chunksOnto (done : List Bytes) (size : Nat) : Nat → Bytes → List Bytes
  | 0, _ => done
  | fuel + 1, bs =>
    if bs.isEmpty then done
    else chunksOnto ((bs.take size).reverse :: done) size fuel (bs.drop size)

/-- The blocks of a file in the order in which they are read, the last of the file first. All but
the last one read have the full size. -/
def blocks (size : Nat) (bs : Bytes) : List Bytes :=
  (chunksOnto [] size bs.length bs.reverse).reverse

/-- What disturbs a read: after how many blocks it is cancelled, and which block fails. -/
structure Disturbance where
  cancelAfter : Option Nat
  failOn : Option (Nat × IoError)
deriving DecidableEq, Repr

def Disturbance.none : Disturbance := ⟨.none, .none⟩

def Disturbance.cancelled (d : Disturbance) (reads : Nat) : Bool :=
  match d.cancelAfter with
  | some k => k ≤ reads
  | .none => false

/-- The error of the next read after `reads` of them. -/
def Disturbance.failure? (d : Disturbance) (reads : Nat) : Option IoError :=
  match d.failOn with
  | some (k, e) => if k = reads + 1 then some e else .none
  | .none => .none

/-- The lines found so far in the order of the file, how many are still missing, and the end of
the line that goes on in the next block. -/
structure Search where
  found : List Bytes
  missing : Nat
  carry : Bytes
deriving DecidableEq, Repr

/-- Counts a line if it holds a JSON value, without the white space around it. -/
def Search.offer (s : Search) (line : Bytes) : Search :=
  let text := Bytes.trim line
  if !text.isEmpty && Json.isValue text then { s with found := text :: s.found, missing := s.missing - 1 }
  else s

/-- Takes the pieces of a block from right to left, until enough lines are found. -/
def Search.take (s : Search) : List Bytes → Search
  | [] => s
  | [p] => { s with carry := p ++ s.carry }
  | p :: ps =>
    let s' := { s with carry := [] }.offer (p ++ s.carry)
    if s'.missing = 0 then s' else s'.take ps

/-- Reads the remaining blocks after `reads` of them. -/
def Search.run (s : Search) (d : Disturbance) (reads : Nat) : List Bytes → Except TailError Search
  | [] => .ok s
  | b :: bs =>
    if s.missing = 0 then .ok s
    else if d.cancelled reads then .error .cancelled
    else
      match d.failure? reads with
      | some e => .error (.io e)
      | .none => (s.take (Bytes.pieces b).reverse).run d (reads + 1) bs

/-- The last line to look at is the first of the file, which has no newline before it. -/
def Search.finish (s : Search) : List Bytes :=
  if s.missing = 0 || s.carry.isEmpty then s.found else (s.offer s.carry).found

/-- The last `n` lines of the file that hold a JSON value. -/
def lastLines (bs : Bytes) (n size : Nat) (d : Disturbance) : Except TailError (List Bytes) :=
  if n = 0 then .ok []
  else ((⟨[], n, []⟩ : Search).run d 0 (blocks (max size 1) bs)).map Search.finish

end Tail

end ProxyWarden

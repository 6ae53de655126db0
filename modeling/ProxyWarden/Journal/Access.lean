import ProxyWarden.Journal.Record

/-!
# The access journal

Accepted connections are recorded one per line. The last of them are found from the end of the
file, all of them by a scan from its start; lines that are no record are passed over.
-/
namespace ProxyWarden

/-- What an operation on a journal leaves: its outcome, the journal and the disk. -/
structure Effect (σ : Type) where
  result : Except JournalError Unit
  journal : σ
  disk : Disk

structure AccessJournal where
  journal : Journal
deriving DecidableEq, Repr

namespace AccessJournal

def open? (path : Path) (d : Disk) : Except JournalError (AccessJournal × Disk) :=
  (Journal.open? path d).map fun r => (⟨r.1⟩, r.2)

def rotate (a : AccessJournal) (d : Disk) : Effect AccessJournal :=
  match a.journal.rotate d with
  | .error e => ⟨.error e, a, d⟩
  | .ok (j, d') => ⟨.ok (), ⟨j⟩, d'⟩

def record (a : AccessJournal) (c : Connection) (now : Nat) (d : Disk) : Effect AccessJournal :=
  match a.journal.append (c.toLine now) d with
  | .error e => ⟨.error e, a, d⟩
  | .ok (j, d') => ⟨.ok (), ⟨j⟩, d'⟩

/-- Records the connection that a line of the core describes, if it describes one. -/
def writeLine (a : AccessJournal) (line : String) (now : Nat) (d : Disk) : Effect AccessJournal :=
  match AccessLine.parse? line with
  | none => ⟨.ok (), a, d⟩
  | some c => a.record c now d

/-- The lines of a file that are not blank, as they stand. -/
def scanLines (text : Bytes) : List Bytes :=
  text.lines.filter fun l => !(Bytes.trim l).isEmpty

/-- Scans the whole file, unless there is anything to scan and the caller has given up. -/
def scan (text : Bytes) (cancelled : Bool) : Except TailError (List Bytes) :=
  if cancelled && !text.isEmpty then .error .cancelled else .ok (scanLines text)

/-- The last `n` lines that hold a JSON value, or every line that is not blank. -/
def lastLines (n : Int) (text : Bytes) (cancelled : Bool) : Except TailError (List Bytes) :=
  if 0 < n then
    Tail.lastLines text n.toNat Tail.blockSize ⟨if cancelled then some 0 else none, none⟩
  else scan text cancelled

/-- The last `n` connections, oldest first, or all of them if `n` is not positive. -/
def lastConnections (a : AccessJournal) (n : Int) (cancelled : Bool) (d : Disk) :
    Except JournalError (List Connection) :=
  match d.find a.journal.path with
  | .error e => .error (.open a.journal.path e)
  | .ok .directory => .error (.tail (if cancelled then .cancelled else .io OsError.isDirectory))
  | .ok .fullDevice => .ok []
  | .ok (.file number _) =>
    match lastLines n (d.content number) cancelled with
    | .error e => .error (.tail e)
    | .ok ls => .ok (ls.filterMap Connection.ofLine?)

end AccessJournal

end ProxyWarden

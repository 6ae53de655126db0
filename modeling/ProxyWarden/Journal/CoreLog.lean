import ProxyWarden.Journal.Access

/-!
# The core journal

What the core says of itself is recorded with its level. The last line of all is remembered, also
when it is no log line or could not be written.
-/
namespace ProxyWarden

structure CoreJournal where
  journal : Journal
  lastLine : String
deriving DecidableEq, Repr

namespace CoreJournal

def open? (path : Path) (d : Disk) : Except JournalError (CoreJournal × Disk) :=
  (Journal.open? path d).map fun r => (⟨r.1, ""⟩, r.2)

def rotate (c : CoreJournal) (d : Disk) : Effect CoreJournal :=
  match c.journal.rotate d with
  | .error e => ⟨.error e, c, d⟩
  | .ok (j, d') => ⟨.ok (), { c with journal := j }, d'⟩

/-- Remembers a line, and records it if it is a log line. -/
def writeLine (c : CoreJournal) (line : String) (now : Nat) (d : Disk) : Effect CoreJournal :=
  let seen := { c with lastLine := line }
  match CoreLine.parse? line with
  | none => ⟨.ok (), seen, d⟩
  | some e =>
    match c.journal.append (e.toLine now) d with
    | .error e => ⟨.error e, seen, d⟩
    | .ok (j, d') => ⟨.ok (), { seen with journal := j }, d'⟩

end CoreJournal

end ProxyWarden

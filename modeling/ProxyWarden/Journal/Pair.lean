import ProxyWarden.Dispatch.Output
import ProxyWarden.Journal.Access
import ProxyWarden.Journal.CoreLog

/-!
# Both journals

A line of the core goes to one of two journals, which are kept on one disk. Each can be rotated for
itself.
-/
namespace ProxyWarden

structure Journals where
  access : AccessJournal
  core : CoreJournal
deriving DecidableEq, Repr

namespace Journals

/-- Passes a line of the core to the journal where it belongs. -/
def forward (j : Journals) (line : String) (now : Nat) (d : Disk) : Effect Journals :=
  match Dispatch.Channel.ofLine line with
  | .access =>
    let e := j.access.writeLine line now d
    ⟨e.result, { j with access := e.journal }, e.disk⟩
  | .core =>
    let e := j.core.writeLine line now d
    ⟨e.result, { j with core := e.journal }, e.disk⟩

def rotateAccess (j : Journals) (d : Disk) : Effect Journals :=
  let e := j.access.rotate d
  ⟨e.result, { j with access := e.journal }, e.disk⟩

def rotateCore (j : Journals) (d : Disk) : Effect Journals :=
  let e := j.core.rotate d
  ⟨e.result, { j with core := e.journal }, e.disk⟩

/-- Rotates the access journal and then, if that went well, the core journal. -/
def rotate (j : Journals) (d : Disk) : Effect Journals :=
  let first := j.rotateAccess d
  match first.result with
  | .error _ => first
  | .ok _ => first.journal.rotateCore first.disk

end Journals

end ProxyWarden

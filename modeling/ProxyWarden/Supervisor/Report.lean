import ProxyWarden.Notice
import ProxyWarden.Supervisor.Step

/-!
# What the supervisor reports

A crash is reported when the run returns and again when the wait before the restart begins; so is a
load of the document that fails. A run that no longer counts is not reported.
-/
namespace ProxyWarden.Supervisor

/-- What is to be told about a turn of the supervisor. -/
def pollNotice? (s : Supervisor) (load : Except StoreError Document) : Option Notice :=
  if s.loads then
    match load with
    | .error e => some (.loadFailed e)
    | .ok _ => none
  else if s.phase = .idle ∧ s.cancelled = false ∧ s.queue = some .crash then
    some (.crashed (backoffSeconds s.crashes))
  else none

/-- What is to be told about the return of a run. -/
def finishNotice? (s : Supervisor) (attempt : Nat) : Except DispatchError Unit → Option Notice
  | .ok _ => none
  | .error e => if s.counts attempt then some (.runFailed e) else none

end ProxyWarden.Supervisor

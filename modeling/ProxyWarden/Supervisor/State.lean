import ProxyWarden.Dispatch.Run
import ProxyWarden.Word

/-!
# The state of the supervisor

The supervisor keeps one core running. Restarts are asked for through a queue with room for one
request: from outside at any time, and by the end of a failed run. Every attempt to restart has a
number, and so has the run that it starts, if it starts one. A restart after a crash waits for a
while that grows with the number of crashes. Times are in milliseconds.
-/
namespace ProxyWarden

inductive RestartKind where
  | manual
  | crash
deriving DecidableEq, Repr

inductive SupervisorError where
  | closed
deriving DecidableEq, Repr

def SupervisorError.message : SupervisorError → String
  | closed => "core manager closed"

namespace Supervisor

/-- The wait before a restart after so many crashes, in seconds. -/
def backoffSeconds (crashes : Nat) : Nat := 10 + 5 * crashes

def backoff (crashes : Nat) : Nat := backoffSeconds crashes * 1000

/-- Crashes are counted in a 32-bit word. -/
def maxCrashes : Nat := Word.values32 - 1

inductive Phase where
  /-- It waits for a request. -/
  | idle
  /-- It waits out the time after a crash, until a moment. -/
  | backingOff (due : Nat)
  /-- It has closed and waits for the runs to return. -/
  | draining
  | ended
  /-- Its work was broken off; runs that were started go on. -/
  | abandoned
deriving DecidableEq, Repr

structure CoreRun where
  /-- The number of the attempt that started it. -/
  attempt : Nat
  document : Document
  /-- It was told to stop. -/
  cancelled : Bool
  /-- How it returned, once it has. -/
  outcome : Option (Except DispatchError Unit)

namespace CoreRun

def returned (r : CoreRun) : Bool := r.outcome.isSome

/-- It still runs and was not told to stop. -/
def live (r : CoreRun) : Bool := !r.returned && !r.cancelled

end CoreRun

end Supervisor

structure Supervisor where
  now : Nat
  phase : Supervisor.Phase
  queue : Option RestartKind
  /-- The number of the latest attempt; zero before the first. -/
  attempt : Nat
  /-- The run that a shutdown or the next attempt has to stop. -/
  active : Option Nat
  /-- All runs that were started, the latest first. -/
  runs : List Supervisor.CoreRun
  working : Bool
  lastStart : Option Nat
  crashes : Nat
  /-- The whole program was told to stop. -/
  cancelled : Bool

/-- What is told about the core. -/
structure CoreStatus where
  working : Bool
  lastLine : String
  /-- The time since the last start, zero while the core does not work. -/
  uptime : Nat
deriving DecidableEq, Repr

namespace Supervisor

def start : Supervisor := {
  now := 0
  phase := .idle
  queue := none
  attempt := 0
  active := none
  runs := []
  working := false
  lastStart := none
  crashes := 0
  cancelled := false }

/-- Whether the supervisor has closed; the returns of runs no longer count. -/
def isClosed (s : Supervisor) : Bool :=
  match s.phase with
  | .draining => true
  | .ended => true
  | _ => false

def accepts (s : Supervisor) : Bool := !s.isClosed && s.phase != .abandoned

/-- Whether nothing more will come of the supervisor. -/
def isDone (s : Supervisor) : Bool := s.phase == .ended || s.phase == .abandoned

def uptime (s : Supervisor) : Nat :=
  match s.working, s.lastStart with
  | true, some t => s.now - t
  | _, _ => 0

def status (s : Supervisor) (lastLine : String) : CoreStatus := ⟨s.working, lastLine, s.uptime⟩

def run? (s : Supervisor) (attempt : Nat) : Option CoreRun :=
  s.runs.find? fun r => r.attempt == attempt

end Supervisor

end ProxyWarden

import ProxyWarden.Supervisor.State

/-!
# What the supervisor does

A supervisor and its runs take turns. `Supervisor.poll` is one turn of the supervisor itself: it
first looks whether it has to stop, then takes a request or ends a wait. `Supervisor.finish` is the
turn in which a run returns: only the run of the latest attempt counts, and only until the
supervisor closes. `Supervisor.step` gathers all that can happen, and `Supervisor.Reachable` are the
states that it leads to.
-/
namespace ProxyWarden.Supervisor

namespace CoreRun

/-- Tells a run to stop if it is the active one. -/
def stopIf (active : Option Nat) (r : CoreRun) : CoreRun :=
  if active = some r.attempt then { r with cancelled := true } else r

/-- Notes how a run returned if it is that of the attempt. -/
def noteIf (attempt : Nat) (result : Except DispatchError Unit) (r : CoreRun) : CoreRun :=
  if r.attempt = attempt then { r with outcome := some result } else r

section
variable (active : Option Nat) (attempt : Nat) (result : Except DispatchError Unit) (r : CoreRun)

@[simp] theorem attempt_stopIf : (r.stopIf active).attempt = r.attempt := by
  unfold stopIf; split <;> rfl

@[simp] theorem document_stopIf : (r.stopIf active).document = r.document := by
  unfold stopIf; split <;> rfl

@[simp] theorem outcome_stopIf : (r.stopIf active).outcome = r.outcome := by
  unfold stopIf; split <;> rfl

theorem cancelled_stopIf (h : r.cancelled = true) : (r.stopIf active).cancelled = true := by
  unfold stopIf
  split
  · rfl
  · exact h

@[simp] theorem attempt_noteIf : (r.noteIf attempt result).attempt = r.attempt := by
  unfold noteIf; split <;> rfl

@[simp] theorem document_noteIf : (r.noteIf attempt result).document = r.document := by
  unfold noteIf; split <;> rfl

@[simp] theorem cancelled_noteIf : (r.noteIf attempt result).cancelled = r.cancelled := by
  unfold noteIf; split <;> rfl

end

end CoreRun

/-- Asks for a restart; a request finds its place taken if one waits already. -/
def request (s : Supervisor) : Except SupervisorError Supervisor :=
  if s.accepts then .ok { s with queue := s.queue.or (some .manual) } else .error .closed

/-- Tells the whole program to stop. -/
def cancel (s : Supervisor) : Supervisor :=
  { s with cancelled := true, runs := s.runs.map fun r => { r with cancelled := true } }

/-- Tells the active run to stop and lets go of it. -/
def stopActive (s : Supervisor) : Supervisor :=
  { s with active := none, runs := s.runs.map (CoreRun.stopIf s.active) }

/-- Starts the run of the latest attempt. -/
def launch (s : Supervisor) (document : Document) : Supervisor :=
  { s with
    active := some s.attempt
    runs := ⟨s.attempt, document, s.cancelled, none⟩ :: s.runs
    working := true
    lastStart := some s.now }

/-- Attempts to restart the core with what the load of the document gives. -/
def restart (s : Supervisor) (kind : RestartKind) (load : Except StoreError Document) : Supervisor :=
  let s := { s.stopActive with
    attempt := s.attempt + 1
    crashes := if kind = RestartKind.manual then 0 else s.crashes }
  match load with
  | .error _ => { s with working := false }
  | .ok document => s.launch document

def close (s : Supervisor) : Supervisor := { s.stopActive with phase := .draining }

/-- One turn of the supervisor; `load` is what loading the document gives in this turn. -/
def poll (s : Supervisor) (load : Except StoreError Document) : Supervisor :=
  match s.phase with
  | .idle =>
    if s.cancelled then s.close
    else
      match s.queue with
      | none => s
      | some .manual => { s with queue := none }.restart .manual load
      | some .crash => { s with queue := none, phase := .backingOff (s.now + backoff s.crashes) }
  | .backingOff due =>
    if s.cancelled then s.close
    else if due ≤ s.now then { s with phase := .idle }.restart .crash load
    else s
  | .draining => if s.runs.all CoreRun.returned then { s with phase := .ended } else s
  | .ended => s
  | .abandoned => s

/-- Whether the supervisor loads the document in its next turn. -/
def loads (s : Supervisor) : Bool :=
  !s.cancelled &&
    match s.phase with
    | .idle => s.queue == some .manual
    | .backingOff due => due ≤ s.now
    | _ => false

/-- Notes how a run returned. -/
def record (s : Supervisor) (attempt : Nat) (result : Except DispatchError Unit) : Supervisor :=
  { s with runs := s.runs.map (CoreRun.noteIf attempt result) }

/-- Whether the return of a run says something about the present. -/
def counts (s : Supervisor) (attempt : Nat) : Bool := s.attempt == attempt && !s.isClosed

/-- A run returns. A failure asks for a restart, if there is room for the request. -/
def finish (s : Supervisor) (attempt : Nat) (result : Except DispatchError Unit) : Supervisor :=
  let s := s.record attempt result
  if s.counts attempt then
    match result with
    | .ok _ => { s with working := true, crashes := 0 }
    | .error _ =>
      { s with
        working := false
        crashes := min (s.crashes + 1) maxCrashes
        queue := if s.accepts then s.queue.or (some .crash) else s.queue }
  else s

/-- Breaks off the work of the supervisor. -/
def abandon (s : Supervisor) : Supervisor :=
  if s.isClosed then { s with phase := .ended }
  else { s with phase := .abandoned, queue := none }

/-! ## All that can happen -/

inductive Event where
  /-- A restart is asked for from outside. -/
  | request
  | cancel
  | tick (ms : Nat)
  | poll (load : Except StoreError Document)
  | finish (attempt : Nat) (result : Except DispatchError Unit)

/-- Whether an event can happen: a run that was started returns once. -/
def Event.Enabled (s : Supervisor) : Event → Prop
  | .finish attempt _ => ∃ r ∈ s.runs, r.attempt = attempt ∧ r.returned = false
  | _ => True

def step (s : Supervisor) : Event → Supervisor
  | .request => s.request.toOption.getD s
  | .cancel => s.cancel
  | .tick ms => { s with now := s.now + ms }
  | .poll load => s.poll load
  | .finish attempt result => s.finish attempt result

/-- The states to which events lead, the latest event first. -/
inductive Leads (s : Supervisor) : List Event → Supervisor → Prop where
  | refl : Leads s [] s
  | step {es : List Event} {t : Supervisor} {e : Event} :
      Leads s es t → e.Enabled t → Leads s (e :: es) (t.step e)

/-- The states that come up, with the events that led there, the latest first. -/
def Reachable : List Event → Supervisor → Prop := Leads Supervisor.start

end ProxyWarden.Supervisor

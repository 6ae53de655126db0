/-!
# An agenda

Tasks take turns on a clock that only moves when nobody is ready: `ready` holds those that are, in
the order in which they became so, and `alarms` the moments at which others want to be woken. Of
several alarms for one moment the one that was set first rings first.
-/
namespace ProxyWarden.Rehearsal

structure Agenda (τ : Type) where
  now : Nat
  ready : List τ
  alarms : List (Nat × τ)

namespace Agenda

variable {τ : Type} [DecidableEq τ]

def empty : Agenda τ := ⟨0, [], []⟩

/-- Makes a task ready, unless it is. -/
def wake (a : Agenda τ) (t : τ) : Agenda τ :=
  if a.ready.contains t then a else { a with ready := a.ready ++ [t] }

def wakeAll (a : Agenda τ) (ts : List τ) : Agenda τ := ts.foldl wake a

/-- Sets an alarm; one for a moment that has come rings at once. -/
def alarm (a : Agenda τ) (moment : Nat) (t : τ) : Agenda τ :=
  if moment ≤ a.now then a.wake t
  else if a.alarms.contains (moment, t) then a
  else { a with alarms := a.alarms ++ [(moment, t)] }

/-- The first alarm after `now` and not after `target`. -/
def next? (a : Agenda τ) (now target : Nat) : Option { m : Nat // now < m ∧ m ≤ target } :=
  a.alarms.foldl (fun best e =>
    if h : now < e.1 ∧ e.1 ≤ target then
      match best with
      | none => some ⟨e.1, h⟩
      | some b => if e.1 < b.1 then some ⟨e.1, h⟩ else some b
    else best) none

/-- Moves the clock and wakes the tasks whose alarms ring. -/
def moveTo (a : Agenda τ) (moment : Nat) : Agenda τ :=
  let due := a.alarms.filter fun e => e.1 ≤ moment
  let later := a.alarms.filter fun e => moment < e.1
  wakeAll { a with now := moment, alarms := later } (due.map (·.2))

/-- Takes the task whose turn it is: a preferred one if it is ready, else the first. -/
def take? (a : Agenda τ) (preferred : τ) : Option (τ × Agenda τ) :=
  if a.ready.contains preferred then
    some (preferred, { a with ready := a.ready.filter fun t => t != preferred })
  else
    match a.ready with
    | [] => none
    | t :: ts => some (t, { a with ready := ts })

end Agenda

end ProxyWarden.Rehearsal

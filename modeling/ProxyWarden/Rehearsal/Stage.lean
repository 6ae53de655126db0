import ProxyWarden.Rehearsal.Agenda
import ProxyWarden.Supervisor.Report
import ProxyWarden.Traffic.Cache

/-!
# Rehearsals

A rehearsal lets the supervisor and the cache of snapshots work on a clock of its own, against cores
whose runs follow a script. Time passes only when nothing is left to do, so that a rehearsal comes
out the same every time.
-/
namespace ProxyWarden.Rehearsal

open Traffic (Cache)

/-- All that takes turns. -/
inductive Task where
  | manager
  /-- The run of the core that an attempt started. -/
  | core (attempt : Nat)
  /-- The loop that collects snapshots. -/
  | poller
  /-- The round of collecting that was asked for; it goes before the others. -/
  | asked
deriving DecidableEq, Repr

/-- How a run of the core goes. -/
structure Script where
  /-- How long it takes; without it the run goes on until it is cancelled. -/
  duration : Option Nat
  ignoresCancel : Bool
  result : Except DispatchError Unit

def Script.endless : Script := ⟨none, false, .ok ()⟩

/-- How a run ended: at what moment, and whether because it was cancelled. -/
structure Ending where
  moment : Nat
  cancelled : Bool
deriving DecidableEq, Repr

/-- A run that has begun. -/
structure Performance where
  attempt : Nat
  script : Script
  begun : Nat
  /-- The fields of the document that the run was given. -/
  keys : List String
  ending : Option Ending

/-- The moment at which the run ends by itself. -/
def Performance.due? (p : Performance) : Option Nat := p.script.duration.map fun ms => p.begun + ms

structure Stage where
  agenda : Agenda Task
  supervisor : Supervisor
  cache : Cache
  /-- What loading the document gives. -/
  load : Except StoreError Document
  /-- The script of every run in turn, the last one again and again. -/
  scripts : List Script
  /-- The runs that have begun, the latest first. -/
  performances : List Performance
  /-- The latest first. -/
  notices : List Notice
  /-- The supervisor is to be broken off in its next turn. -/
  abandoning : Bool

namespace Stage

def start (scripts : List Script) (cache : Cache) (load : Except StoreError Document) : Stage := {
  agenda := Agenda.empty.wake .manager
  supervisor := .start
  cache := cache
  load := load
  scripts := scripts
  performances := []
  notices := []
  abandoning := false }

def now (s : Stage) : Nat := s.agenda.now

def wake (s : Stage) (t : Task) : Stage := { s with agenda := s.agenda.wake t }

def wakeAll (s : Stage) (ts : List Task) : Stage := { s with agenda := s.agenda.wakeAll ts }

/-- Sets the alarm of a task that waits for a moment. -/
def alarm? (s : Stage) (moment : Option Nat) (t : Task) : Stage :=
  match moment with
  | some m => { s with agenda := s.agenda.alarm m t }
  | none => s

/-- Adds notices in the order in which they came up. -/
def tell (s : Stage) (notices : List Notice) : Stage :=
  { s with notices := notices.reverse ++ s.notices }

/-! ## Turns -/

/-- Wakes the runs that a turn of the supervisor stopped and started. -/
def wakeRuns (s : Stage) (before after : Option Nat) : Stage :=
  if before = after then s else s.wakeAll ((before.toList ++ after.toList).map .core)

/-- One turn of the supervisor. -/
def turnManager (s : Stage) : Stage :=
  let before := s.supervisor
  let after := before.poll s.load
  let due := match after.phase with
    | .backingOff moment => some moment
    | _ => none
  (({ s with supervisor := after }.tell (before.pollNotice? s.load).toList).wakeRuns before.active
    after.active).alarm? due .manager

/-- The supervisor goes on as far as it can: at most it ends a wait, takes one more request, closes
and ends. -/
def pollManager (s : Stage) : Stage :=
  if s.abandoning then { s with supervisor := s.supervisor.abandon, abandoning := false }
  else s.turnManager.turnManager.turnManager.turnManager

/-- The script of the next run. -/
def nextScript (s : Stage) : Script :=
  (s.scripts[s.performances.length]?.or s.scripts.getLast?).getD .endless

/-- Begins a run, unless it has begun. -/
def begin (s : Stage) (run : Supervisor.CoreRun) : Stage :=
  if s.performances.any fun p => p.attempt == run.attempt then s
  else
    { s with performances := ⟨run.attempt, s.nextScript, s.now, run.document.keys, none⟩ :: s.performances }

/-- A run returns; the supervisor is woken if it waited for that. -/
def finish (s : Stage) (attempt : Nat) (cancelled : Bool) (result : Except DispatchError Unit) : Stage :=
  let before := s.supervisor
  let after := before.finish attempt result
  let ended := { s with
    supervisor := after
    performances := s.performances.map fun (p : Performance) =>
      if p.attempt = attempt then { p with ending := some ⟨s.now, cancelled⟩ } else p }
  let told := ended.tell (before.finishNotice? attempt result).toList
  if after.phase = .draining ∨ (after.phase = .idle ∧ after.queue.isSome) then told.wake .manager
  else told

/-- A run begins or goes on. It first looks whether it was cancelled. -/
def pollCore (s : Stage) (attempt : Nat) : Stage :=
  match s.supervisor.run? attempt with
  | none => s
  | some run =>
    if run.returned then s
    else
      let s := s.begin run
      match s.performances.find? fun p => p.attempt == attempt with
      | none => s
      | some p =>
        if !p.script.ignoresCancel && run.cancelled then s.finish attempt true (.ok ())
        else
          match p.due? with
          | none => s
          | some due =>
            if due ≤ s.now then s.finish attempt false p.script.result
            else s.alarm? (some due) (.core attempt)

def pollPoller (s : Stage) : Stage :=
  let p := s.cache.pollLoop
  ({ s with cache := p.1 }.tell (p.2.map .collectFailed)).alarm? p.1.loopDue? .poller

def pollAsked (s : Stage) : Stage :=
  let p := s.cache.pollAsked
  ({ s with cache := p.1 }.tell (p.2.toList.map .collectFailed)).alarm? p.1.askedDue? .asked

def poll (s : Stage) : Task → Stage
  | .manager => s.pollManager
  | .core attempt => s.pollCore attempt
  | .poller => s.pollPoller
  | .asked => s.pollAsked

/-- Lets the tasks that are ready take their turns, at most so many. -/
def settleFor : Nat → Stage → Stage
  | 0, s => s
  | turns + 1, s =>
    match s.agenda.take? .asked with
    | none => s
    | some (t, agenda) => settleFor turns ({ s with agenda := agenda }.poll t)

/-- Enough turns for one moment: in a moment at most two runs start, every run ends at most once, and
the supervisor is only woken by their ends. -/
def turnBound (s : Stage) : Nat := 4 * (s.supervisor.runs.length + s.agenda.ready.length + 4)

/-- Lets the tasks take turns until none is ready. -/
def settle (s : Stage) : Stage := s.settleFor s.turnBound

/-- Moves the clock and wakes those whose alarms ring. -/
def moveTo (s : Stage) (moment : Nat) : Stage :=
  { s with
    agenda := s.agenda.moveTo moment
    supervisor := { s.supervisor with now := moment }
    cache := { s.cache with now := moment } }

/-- Goes from alarm to alarm until a moment. -/
def runTo (s : Stage) (now target : Nat) : Stage :=
  match s.agenda.next? now target with
  | none => s.moveTo (max now target)
  | some m => ((s.moveTo m.1).settle).runTo m.1 target
termination_by target - now
decreasing_by
  have := m.2
  omega

/-- Lets some time pass, with all that happens in it. -/
def advance (s : Stage) (ms : Nat) : Stage :=
  let s := s.settle
  (s.runTo s.now (s.now + ms)).settle

/-! ## Calls from outside -/

def request (s : Stage) : Except SupervisorError Unit × Stage :=
  match s.supervisor.request with
  | .error e => (.error e, s)
  | .ok supervisor =>
    let s := { s with supervisor := supervisor }
    (.ok (), if supervisor.phase = .idle then s.wake .manager else s)

/-- The run that would notice a cancellation. -/
def activeRun (s : Stage) : List Task := s.supervisor.active.toList.map .core

/-- Tells everything to stop. The run that is active learns of it before the supervisor does. -/
def cancel (s : Stage) : Stage :=
  let stopped := { s with
    supervisor := s.supervisor.cancel
    cache := { s.cache with loopCancelled := true } }
  stopped.wakeAll (s.activeRun ++ [.manager, .poller])

/-- Breaks off the supervisor in its next turn. -/
def abandon (s : Stage) : Stage :=
  if s.supervisor.isDone then s else { s with abandoning := true }.wake .manager

def startLoop (s : Stage) : Stage := { s with cache := s.cache.run }.wake .poller

/-- Follows a round until it has ended; it waits three times at most. -/
def followAsked : Nat → Stage → Stage
  | 0, s => s
  | waits + 1, s =>
    match s.cache.askedDue? with
    | none => s
    | some due => followAsked waits (s.runTo s.now due)

/-- Collects snapshots while time passes; the other tasks take their turns before, meanwhile and
after. -/
def collect (s : Stage) (cancelled : Bool) : Stage :=
  let s := s.settle
  (followAsked 4 ({ s with cache := s.cache.collect cancelled }.wake .asked).settle).settle

end Stage

end ProxyWarden.Rehearsal

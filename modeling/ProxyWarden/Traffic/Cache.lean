import ProxyWarden.Traffic.Round

/-!
# The cache of snapshots

The snapshots of the last complete round are kept, so that readers never wait for the core. Rounds
begin at the ticks of a loop in the background, or when one is asked for. A round that fails leaves
the kept snapshots as they are.
-/
namespace ProxyWarden.Traffic

/-- The loop in the background. -/
inductive Loop where
  | off
  | starting
  /-- It waits for the tick at a moment. -/
  | waiting (due : Nat)
  /-- A round is under way; `due` is the moment of the next tick. -/
  | collecting (due : Nat) (round : Round)
  | ended

structure Cache where
  now : Nat
  /-- The time between ticks. -/
  interval : Nat
  source : Source
  snapshots : List Snapshot
  loop : Loop
  loopCancelled : Bool
  /-- The round that was asked for, while it is under way. -/
  asked : Option Round
  askedCancelled : Bool

namespace Cache

def start (interval : Nat) (replies : List Reply) : Cache := {
  now := 0
  interval := interval
  source := ⟨replies, []⟩
  snapshots := []
  loop := .off
  loopCancelled := false
  asked := none
  askedCancelled := false }

/-- Ends a round: new snapshots replace the old ones. -/
def accept (c : Cache) (result : Except StatsError (List Snapshot)) : Cache :=
  match result with
  | .ok snapshots => { c with snapshots := snapshots }
  | .error _ => c

/-- What is to be told about the end of a round; a cancelled round is no failure. -/
def failure? : Except StatsError (List Snapshot) → Option StatsError
  | .error .cancelled => none
  | .error e => some e
  | .ok _ => none

/-- A tick that is noticed later than this is late. -/
def lateness : Nat := 5

/-- The tick after one that was due at a moment: a late tick shifts those that follow. -/
def nextTick (interval due now : Nat) : Nat :=
  if due + lateness < now then now + interval else due + interval

/-- One step of the loop, and the failure of a round that ended in it. Without time between ticks
the loop ends before it has begun. -/
def turnLoop (c : Cache) : Cache × Option StatsError :=
  match c.loop with
  | .off => (c, none)
  | .ended => (c, none)
  | .starting =>
    let stops := c.loopCancelled || c.interval == 0
    ({ c with loop := if stops then .ended else .waiting (c.now + c.interval) }, none)
  | .waiting due =>
    if c.loopCancelled then ({ c with loop := .ended }, none)
    else if c.now < due then (c, none)
    else ({ c with loop := .collecting (nextTick c.interval due c.now) .fresh }, none)
  | .collecting due round =>
    let p := round.poll c.now c.loopCancelled c.source
    let c := { c with source := p.2 }
    match p.1 with
    | .ended result => ({ c.accept result with loop := .waiting due }, failure? result)
    | next => ({ c with loop := .collecting due next }, none)

/-- Steps of the loop at one moment, and the failures of the rounds that ended. -/
def turnsLoop : Nat → Cache → Cache × List StatsError
  | 0, c => (c, [])
  | turns + 1, c =>
    let once := c.turnLoop
    let more := turnsLoop turns once.1
    (more.1, once.2.toList ++ more.2)

/-- The loop goes on as far as possible at one moment. Ticks that are not late leave at most
`lateness + 1` of them to catch up with, and a round ends at once only if its first query fails at
once; each such tick takes two steps. -/
def pollLoop (c : Cache) : Cache × List StatsError := turnsLoop (2 * (lateness + 3)) c

/-- The moment for which the loop waits. -/
def loopDue? (c : Cache) : Option Nat :=
  match c.loop with
  | .waiting due => some due
  | .collecting _ round => round.due?
  | _ => none

def loopEnded (c : Cache) : Bool :=
  match c.loop with
  | .ended => true
  | _ => false

def run (c : Cache) : Cache := { c with loop := .starting }

/-- Asks for a round, unless one that was asked for is under way. -/
def collect (c : Cache) (cancelled : Bool) : Cache :=
  match c.asked with
  | some _ => c
  | none => { c with asked := some .fresh, askedCancelled := cancelled }

/-- The round that was asked for goes on. -/
def pollAsked (c : Cache) : Cache × Option StatsError :=
  match c.asked with
  | none => (c, none)
  | some round =>
    let p := round.poll c.now c.askedCancelled c.source
    let c := { c with source := p.2 }
    match p.1 with
    | .ended result => ({ c.accept result with asked := none }, failure? result)
    | next => ({ c with asked := some next }, none)

def askedDue? (c : Cache) : Option Nat := c.asked.bind Round.due?

/-- The kept snapshots, for a reader who has not given up. -/
def read (c : Cache) (cancelled : Bool) : Except StatsError (List Snapshot) :=
  if cancelled then .error .cancelled else .ok c.snapshots

/-! ## All that can happen -/

inductive Event where
  | run
  | collect (cancelled : Bool)
  | pollLoop
  | pollAsked
  | cancelLoop
  | cancelAsked
  | tick (ms : Nat)
deriving DecidableEq, Repr

/-- Whether an event can happen: the loop is started once. -/
def Event.Enabled (c : Cache) : Event → Prop
  | .run => c.loop = .off
  | _ => True

def step (c : Cache) : Event → Cache
  | .run => c.run
  | .collect cancelled => c.collect cancelled
  | .pollLoop => c.pollLoop.1
  | .pollAsked => c.pollAsked.1
  | .cancelLoop => { c with loopCancelled := true }
  | .cancelAsked => { c with askedCancelled := true }
  | .tick ms => { c with now := c.now + ms }

/-- The states that come up, with the events that led there, the latest first. -/
inductive Reachable (interval : Nat) (replies : List Reply) : List Event → Cache → Prop where
  | start : Reachable interval replies [] (Cache.start interval replies)
  | step {es : List Event} {c : Cache} {e : Event} :
      Reachable interval replies es c → e.Enabled c → Reachable interval replies (e :: es) (c.step e)

end Cache

end ProxyWarden.Traffic

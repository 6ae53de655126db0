import ProxyWarden.Traffic.Client
import ProxyWarden.Traffic.Difference

/-!
# Rounds of collecting

A round asks the core for its counters twice, with a pause of one second between the first answer
and the second query. Each time the round goes on it first looks whether it was cancelled. The rates
are those of the pause, however long the answers took. Times are in milliseconds.
-/
namespace ProxyWarden.Traffic

structure Query where
  moment : Nat
  /-- Whether the core is asked to set its counters back. -/
  reset : Bool
deriving DecidableEq, Repr

/-- What a query returns, and after what time. -/
structure Reply where
  delay : Nat
  result : Except StatsError (List Counter)

/-- Where counters come from: the reply to every query in turn, the last one again and again. -/
structure Source where
  replies : List Reply
  /-- The queries so far, the latest first. -/
  queries : List Query

namespace Source

/-- The reply to the next query. -/
def next (s : Source) : Reply :=
  (s.replies[s.queries.length]?.or s.replies.getLast?).getD ⟨0, .ok []⟩

/-- Begins a query. Counters are never set back. -/
def ask (s : Source) (now : Nat) : Source := { s with queries := ⟨now, false⟩ :: s.queries }

end Source

/-- The pause between the two queries. -/
def sampleGap : Nat := 1000

def nanosPerMilli : Nat := 1000000

/-- How far a round has come. -/
inductive Round where
  | fresh
  /-- The first query is answered at a moment. -/
  | first (due : Nat) (reply : Except StatsError (List Counter))
  | pausing (sample : Sample) (due : Nat)
  /-- The second query is answered at a moment; `start` is the moment of the first answer. -/
  | second (sample : Sample) (start due : Nat) (reply : Except StatsError (List Counter))
  | ended (result : Except StatsError (List Snapshot))

namespace Round

/-- The snapshots of a round whose first answer came at `start`. -/
def snapshots (first : Sample) (start : Nat) (counters : List Counter) : List Snapshot :=
  first.difference (Sample.ofCounters counters) (start * nanosPerMilli)
    ((start + sampleGap) * nanosPerMilli)

/-- One step of a round. -/
def turn (r : Round) (now : Nat) (cancelled : Bool) (source : Source) : Round × Source :=
  match r with
  | .ended result => (.ended result, source)
  | .fresh =>
    if cancelled then (.ended (.error .cancelled), source)
    else (.first (now + source.next.delay) source.next.result, source.ask now)
  | .first due reply =>
    if cancelled then (.ended (.error .cancelled), source)
    else if now < due then (.first due reply, source)
    else
      match reply with
      | .error e => (.ended (.error e), source)
      | .ok counters => (.pausing (.ofCounters counters) (now + sampleGap), source)
  | .pausing sample due =>
    if cancelled then (.ended (.error .cancelled), source)
    else if now < due then (.pausing sample due, source)
    else (.second sample (due - sampleGap) (now + source.next.delay) source.next.result, source.ask now)
  | .second sample start due reply =>
    if cancelled then (.ended (.error .cancelled), source)
    else if now < due then (.second sample start due reply, source)
    else
      match reply with
      | .error e => (.ended (.error e), source)
      | .ok counters => (.ended (.ok (snapshots sample start counters)), source)

/-- Goes on as far as possible at one moment: a query that is answered without delay takes a second
step. -/
def poll (r : Round) (now : Nat) (cancelled : Bool) (source : Source) : Round × Source :=
  let once := r.turn now cancelled source
  once.1.turn now cancelled once.2

/-- When the round can go on, if nothing cancels it. -/
def due? : Round → Option Nat
  | .first due _ => some due
  | .pausing _ due => some due
  | .second _ _ due _ => some due
  | _ => none

def result? : Round → Option (Except StatsError (List Snapshot))
  | .ended result => some result
  | _ => none

end Round

/-- A round that has come to its end. -/
structure Collection where
  result : Except StatsError (List Snapshot)
  moment : Nat
  source : Source

/-- Whether a token that is cancelled at a moment, if at all, is cancelled now. -/
def cancelledBy (cancelAt : Option Nat) (now : Nat) : Bool :=
  match cancelAt with
  | some t => t ≤ now
  | none => false

/-- The next moment at which something happens to a round. -/
def nextMoment (cancelAt : Option Nat) (now : Nat) (r : Round) : Nat :=
  match r.due?, cancelAt with
  | some due, some t => if now < t then min due t else due
  | some due, none => due
  | none, _ => now

/-- Follows a round through its waits; it has three of them. -/
def followRound (cancelAt : Option Nat) : Nat → Round → Nat → Source → Collection
  | 0, r, now, source => ⟨r.result?.getD (.error .cancelled), now, source⟩
  | waits + 1, r, now, source =>
    let p := r.poll now (cancelledBy cancelAt now) source
    match p.1 with
    | .ended result => ⟨result, now, p.2⟩
    | next => followRound cancelAt waits next (nextMoment cancelAt now next) p.2

/-- A whole round that begins at a moment. -/
def collect (cancelAt : Option Nat) (now : Nat) (source : Source) : Collection :=
  followRound cancelAt 4 .fresh now source

/-- Rounds one after another. -/
def collectRounds (cancelAt : Option Nat) : Nat → Nat → Source → List Collection
  | 0, _, _ => []
  | rounds + 1, now, source =>
    let c := collect cancelAt now source
    c :: collectRounds cancelAt rounds c.moment c.source

end ProxyWarden.Traffic

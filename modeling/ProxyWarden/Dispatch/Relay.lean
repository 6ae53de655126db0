import ProxyWarden.Dispatch.Run

/-!
# A run and what goes on around it

The output of the core is read beside the run. The reader cuts what has arrived into lines and
holds each line until the place between it and the run is free; the run takes lines from there when
it gets to look for one. A relay is both together with what the run is waiting for: its
cancellation, the end of the feeding and the exit of the core. All of them go on in any order.
-/
namespace ProxyWarden.Dispatch

/-- How the output ends: the core closes it, or it can't be read any further. -/
inductive Ending where
  | closed
  | failed
deriving DecidableEq, Repr

structure Reader where
  /-- What has arrived and was not cut into lines yet. -/
  text : Bytes
  ending : Option Ending
  /-- The line that was cut off and not handed over yet. -/
  held : Option String
  finished : Bool
deriving DecidableEq, Repr

/-- The text before the first newline, and what follows the newline. -/
def cutLine? (text : Bytes) : Option (Bytes × Bytes) :=
  match text.dropWhile fun b => b != Bytes.newline with
  | [] => none
  | _ :: rest => some (text.takeWhile fun b => b != Bytes.newline, rest)

namespace Reader

def start : Reader := ⟨[], none, none, false⟩

/-- Cuts off the next line, or finishes at the end of the output. The open line of an output that
can't be read to its end is lost. -/
def read (r : Reader) : Reader :=
  if r.finished || r.held.isSome then r
  else
    match cutLine? r.text with
    | some (line, rest) => { r with text := rest, held := some (Utf8.lossy (dropReturn line)) }
    | none =>
      match r.ending with
      | none => r
      | some .failed => { r with finished := true }
      | some .closed =>
        if r.text.isEmpty then { r with finished := true }
        else { r with text := [], held := some (Utf8.lossy r.text) }

end Reader

structure Relay where
  /-- What the core has still to print. -/
  coming : Bytes
  reader : Reader
  /-- The line between the reader and the run. -/
  slot : Option String
  cancelled : Bool
  feeding : Option (Except IoError Unit)
  exit : Option (Except IoError ExitStatus)
  run : Run

namespace Relay

inductive Event where
  | cancel
  | fed (outcome : Except IoError Unit)
  | exited (outcome : Except IoError ExitStatus)
  /-- Some bytes of the output arrive. -/
  | arrive (count : Nat)
  /-- The core closes its output, once it has printed everything. -/
  | close
  /-- The output can't be read any further. -/
  | fail
  /-- The reader goes on with what has arrived. -/
  | read
  /-- The reader hands its line over, if the place is free. -/
  | send
  /-- The run takes a turn. -/
  | turn (answer : Except JournalError Unit)

/-- A relay for a core that prints `output`. -/
def start (output : Bytes) : Relay := ⟨output, .start, none, false, none, none, .start⟩

/-- What the run finds if it looks for a line. -/
def received (r : Relay) : Received :=
  match r.slot with
  | some l => .line l
  | none => if r.reader.finished then .closed else .nothing

def ready (r : Relay) : Ready := ⟨r.cancelled, r.feeding, r.received, r.exit⟩

/-- The line that the run forwards if it takes a turn now. -/
def passing? (r : Relay) : Option String := if r.run.listens r.ready then r.slot else none

def step (r : Relay) : Event → Relay
  | .cancel => { r with cancelled := true }
  | .fed outcome => { r with feeding := r.feeding.or (some outcome) }
  | .exited outcome => { r with exit := r.exit.or (some outcome) }
  | .arrive count =>
    match r.reader.ending with
    | none => { r with
        coming := r.coming.drop count
        reader := { r.reader with text := r.reader.text ++ r.coming.take count } }
    | some _ => r
  | .close =>
    match r.reader.ending, r.coming with
    | none, [] => { r with reader := { r.reader with ending := some .closed } }
    | _, _ => r
  | .fail =>
    match r.reader.ending with
    | none => { r with reader := { r.reader with ending := some .failed } }
    | some _ => r
  | .read => { r with reader := r.reader.read }
  | .send =>
    match r.slot with
    | none => { r with slot := r.reader.held, reader := { r.reader with held := none } }
    | some _ => r
  | .turn answer => { r with
      slot := if r.run.listens r.ready then none else r.slot
      run := r.run.turn r.ready answer }

/-- What comes of events, one after the other. -/
def steps (r : Relay) (events : List Event) : Relay := events.foldl step r

end Relay

end ProxyWarden.Dispatch

import ProxyWarden.Dispatch.Output
import ProxyWarden.Dispatch.Status
import ProxyWarden.Document.Runtime
import ProxyWarden.Document.Store
import ProxyWarden.Journal.File

/-!
# One run of the core

A run feeds the document to the core while it forwards the core's lines, one at a time and in
order. At every turn it looks, in this order, whether it was cancelled, whether the feeding has
come to its end, and whether a line or the end of the output is at hand. After the output it waits
for the core to exit, unless it is cancelled.
-/
namespace ProxyWarden

/-- Why a run of the core failed. -/
inductive DispatchError where
  | spawn (bin : Path) (error : IoError)
  | missingPipe (name : String)
  | config (error : StoreError)
  | stdin (error : IoError)
  | wait (error : IoError)
  | exited (status : Dispatch.ExitStatus)
  | sink (error : JournalError)
deriving DecidableEq, Repr

namespace DispatchError

def message : DispatchError → String
  | spawn bin error => s!"failed to spawn core {bin.text}: {error.message}"
  | missingPipe name => s!"core process has no {name} pipe"
  | config error => "failed to render core config: " ++ error.message
  | stdin error => "failed to feed config to core: " ++ error.message
  | wait error => "failed to wait for core: " ++ error.message
  | exited status => "core exited with " ++ status.text
  | sink error => "failed to forward core output: " ++ error.message

end DispatchError

namespace Dispatch

/-- What a run finds when it looks for a line. -/
inductive Received where
  | nothing
  | line (l : String)
  /-- All lines were received, and there will be no more. -/
  | closed
deriving DecidableEq, Repr

/-- What a run finds when it takes a turn. -/
structure Ready where
  cancelled : Bool
  /-- The outcome of the feeding, once there is one. -/
  feeding : Option (Except IoError Unit)
  received : Received
  /-- What came of waiting for the core to exit, once it has. -/
  exit : Option (Except IoError ExitStatus)

inductive Stage where
  | reading
  | waiting
  | ended (result : Except DispatchError Unit)

structure Run where
  /-- The run has seen that the feeding went well. -/
  fed : Bool
  /-- The lines that were forwarded, the last one first. -/
  forwarded : List (Channel × String)
  /-- The run has noticed that it was cancelled. -/
  sawCancel : Bool
  stage : Stage

namespace Run

def start : Run := ⟨false, [], false, .reading⟩

def finish (r : Run) (result : Except DispatchError Unit) : Run := { r with stage := .ended result }

/-- A cancelled run ends well. -/
def stop (r : Run) : Run := { r with sawCancel := true, stage := .ended (.ok ()) }

/-- Forwards a line, given what the journal answers. -/
def forward (r : Run) (line : String) (answer : Except JournalError Unit) : Run :=
  let passed := { r with forwarded := (.ofLine line, line) :: r.forwarded }
  match answer with
  | .ok _ => passed
  | .error e => passed.finish (.error (.sink e))

/-- Forwards the line that was received, or notes the end of the output. -/
def receive (r : Run) (received : Received) (answer : Except JournalError Unit) : Run :=
  match received with
  | .nothing => r
  | .line l => r.forward l answer
  | .closed => { r with stage := .waiting }

/-- The outcome of the feeding, if the run has not seen it. -/
def news? (r : Run) (now : Ready) : Option (Except IoError Unit) :=
  if r.fed then none else now.feeding

/-- Whether a turn gets as far as looking for a line. -/
def listens (r : Run) (now : Ready) : Bool :=
  match r.stage with
  | .reading => !now.cancelled && (r.news? now).isNone
  | _ => false

/-- Takes one turn; `answer` is what the journal answers if a line is forwarded. -/
def turn (r : Run) (now : Ready) (answer : Except JournalError Unit) : Run :=
  match r.stage with
  | .reading =>
    if now.cancelled then r.stop
    else
      match r.news? now with
      | some (.error e) => r.finish (.error (.stdin e))
      | some (.ok _) => { r with fed := true }
      | none => r.receive now.received answer
  | .waiting =>
    if now.cancelled then r.stop
    else
      match now.exit with
      | none => r
      | some (.error e) => r.finish (.error (.wait e))
      | some (.ok s) => r.finish (if s.isSuccess then .ok () else .error (.exited s))
  | .ended _ => r

/-- The result of a run that has ended. -/
def result? (r : Run) : Option (Except DispatchError Unit) :=
  match r.stage with
  | .ended result => some result
  | _ => none

end Run

/-- The bytes that are fed to the core: the document with the program's own objects. -/
def rendered (d : Document) (level : String) : Except DispatchError Bytes :=
  match (d.inject level).compact with
  | .error key => .error (.config (.invalidField key))
  | .ok bs => .ok bs

end Dispatch

end ProxyWarden

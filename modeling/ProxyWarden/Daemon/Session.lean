import ProxyWarden.Daemon.Startup
import ProxyWarden.Dispatch.Program
import ProxyWarden.Supervisor.Report

/-!
# A session of the daemon

A session starts the daemon on a disk where the core's program is a script, lets it run once, and
stops it again; in between the journals may be rotated. The session is over before a core that
failed would be started again.
-/
namespace ProxyWarden

/-- What a session leaves. -/
structure Session where
  exitCode : Nat
  /-- The lines that reported errors. -/
  errors : List String
  disk : Disk
  /-- The disk before the journals were rotated, if they were. -/
  beforeRotation : Option Disk

namespace Daemon

/-- How a run of the core went: its result if it has ended, and what it left. -/
structure CoreOutcome where
  result : Option (Except DispatchError Unit)
  journals : Journals
  disk : Disk

/-- Passes the lines of a run to the journals. -/
def journalSink (now : Nat) : Dispatch.Sink (Journals × Disk) := fun s _ line =>
  let e := s.1.forward line now s.2
  (e.result, (e.journal, e.disk), false)

/-- Runs the core's program on a document. -/
def runCore (d : Daemon) (document : Document) (now : Nat) : CoreOutcome :=
  let journals := d.surface.journals
  let disk := d.surface.disk
  match Dispatch.rendered document d.settings.coreLogLevel with
  | .error e => ⟨some (.error e), journals, disk⟩
  | .ok text =>
    match Dispatch.spawnError? disk d.bin with
    | some e => ⟨some (.error (.spawn d.bin e)), journals, disk⟩
    | none =>
      let program := Dispatch.Program.ofFile disk d.bin
      let done := Dispatch.performRun (journalSink now) program text (journals, disk)
      let fed := match done.1.copiedInput program with
        | some path => (done.2.2.writeFile path text).toOption.getD done.2.2
        | none => done.2.2
      ⟨done.1.result?, done.2.1, fed⟩

/-- The supervisor after the first run, and what it reported meanwhile. -/
def superviseOnce (d : Daemon) (now : Nat) : List Notice × Surface :=
  let s := d.surface
  let asked := s.supervisor.step .request
  let load := s.load
  let polled := asked.poll load
  let told := (asked.pollNotice? load).toList
  match polled.run? polled.attempt with
  | none => (told, { s with supervisor := polled })
  | some run =>
    let outcome := d.runCore run.document now
    let left := { s with journals := outcome.journals, disk := outcome.disk }
    match outcome.result with
    | none => (told, { left with supervisor := polled })
    | some result =>
      let returned := polled.finish run.attempt result
      let notices := told ++ (polled.finishNotice? run.attempt result).toList
        ++ (returned.pollNotice? load).toList
      (notices, { left with supervisor := returned.poll load })

/-- The name of the level of errors with what follows it, if a line has it. -/
def fromLevel? : List Char → Option (List Char)
  | [] => none
  | c :: cs => if "ERROR ".toList.isPrefixOf (c :: cs) then some (c :: cs) else fromLevel? cs

/-- The lines of a report that name the level of errors: a message may go on over several lines, of
which the first one does. -/
def errorLines (report : String) : List String :=
  (Dispatch.endedLines (Utf8.encode report ++ [Bytes.newline])).filterMap fun line =>
    (fromLevel? line.toList).map String.ofList

/-- A whole session: the daemon starts, the core runs once, the journals are rotated if that is
asked for, and the daemon is told to stop. -/
def session (env : Environment) (rotates : Bool) (now : Nat) (disk : Disk) : Session :=
  match start? env disk with
  | (.error e, disk) =>
    let reports := (e.message?.bind (errorReport? env ownModule)).toList
    ⟨e.exitCode, reports.flatMap errorLines, disk, none⟩
  | (.ok daemon, _) =>
    let ran := daemon.superviseOnce now
    let reports := ran.1.filterMap fun n => errorReport? env supervisorModule n.message
    let errors := reports.flatMap errorLines
    if rotates then
      let rotated := ran.2.rotate
      let failure := match rotated.1 with
        | .error e => (errorReport? env ownModule ("Failed to rotate journals: " ++ e.message)).toList
        | .ok _ => []
      ⟨0, errors ++ failure.flatMap errorLines, rotated.2.disk, some ran.2.disk⟩
    else ⟨0, errors, ran.2.disk, none⟩

end Daemon

end ProxyWarden

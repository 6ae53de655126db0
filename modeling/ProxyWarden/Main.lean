import ProxyWarden.Daemon.Startup
import Std.Time.DateTime.Timestamp

/-!
# The command

The command is connected to a core by its standard streams: it writes the core's document to its
output and journals the lines that it reads from its input. Everything else is decided by
`Daemon.start?` and `Journals.forward`; here files, streams and the environment are moved to and fro.
-/
namespace ProxyWarden.Main

/-- The variables that the daemon looks at. -/
def variableNames : List String := [
  "XRAYMON_LOG_LEVEL", "XRAYMON_CORE_LOG_LEVEL", "XRAYMON_SETTINGS_PATH", "XRAYMON_ACCESS_LOG",
  "XRAYMON_CORE_LOG", "XRAYMON_CORES_DIR", "XRAYMON_STATS_INTERVAL_SECS",
  "XRAYMON_SHUTDOWN_TIMEOUT_SECS"]

def readEnvironment : IO Environment := do
  let values ← variableNames.mapM fun name => do
    let value ← IO.getEnv name
    return value.map fun v => (name, Utf8.encode v)
  return values.filterMap id

/-- Copies a file, if there is one, to the same path of a disk. -/
def copyIn (d : Disk) (p : Path) : IO Disk := do
  let content ← try
      let bytes ← IO.FS.readBinFile p.text
      pure (some bytes.toList)
    catch _ => pure none
  let parent := (p.reverse.dropWhile fun b => b != Path.slash).reverse
  let d := d.makeDirectory parent
  return match content with
    | some bs => (d.writeFile p bs).toOption.getD d
    | none => d

/-- Writes a file of a disk to the same path, if it is not what it was. -/
def copyOut (before after : Disk) (p : Path) : IO Unit := do
  match before.read p, after.read p with
  | .ok old, .ok new => if old != new then IO.FS.writeBinFile p.text new.toByteArray
  | .error _, .ok new => IO.FS.writeBinFile p.text new.toByteArray
  | _, .error _ => return

/-- The moment in milliseconds since 1 January 1970. -/
def now : IO Nat := do
  let stamp ← Std.Time.Timestamp.now
  return stamp.toMillisecondsSinceUnixEpoch.val.toNat

/-- Journals the lines of the input until it ends. -/
partial def forwardLines (input : IO.FS.Stream) (paths : List Path) (journals : Journals) (disk : Disk) :
    IO UInt32 := do
  let line ← input.getLine
  if line.isEmpty then return 0
  let bytes := Utf8.encode line
  let text := (Dispatch.lines bytes).head?.getD ""
  let e := journals.forward text (← now) disk
  paths.forM (copyOut disk e.disk)
  match e.result with
  | .error error =>
    IO.eprintln ("ERROR " ++ Daemon.supervisorModule ++ ": " ++ Text.harmless error.message)
    return 1
  | .ok _ => forwardLines input paths e.journal e.disk

def run : IO UInt32 := do
  let env ← readEnvironment
  let wanted := Settings.read env
  let journalPaths := [wanted.accessLog, wanted.coreLog]
  let paths := wanted.settingsPath :: journalPaths
  let before ← paths.foldlM copyIn Disk.fresh
  let (result, disk) := Daemon.start? env before
  paths.forM (copyOut before disk)
  match result with
  | .error e =>
    (e.message?.bind (Daemon.errorReport? env Daemon.ownModule)).forM fun line => IO.eprintln line
    return e.exitCode.toUInt32
  | .ok daemon =>
    match daemon.surface.load with
    | .error e =>
      IO.eprintln (Notice.text (.loadFailed e))
      return 1
    | .ok document =>
      match Dispatch.rendered document daemon.settings.coreLogLevel with
      | .error e =>
        IO.eprintln (Notice.text (.runFailed e))
        return 1
      | .ok text =>
        let output ← IO.getStdout
        output.write text.toByteArray
        output.flush
        forwardLines (← IO.getStdin) journalPaths daemon.surface.journals disk

end ProxyWarden.Main

def main : IO UInt32 := ProxyWarden.Main.run

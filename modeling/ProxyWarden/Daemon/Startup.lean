import ProxyWarden.Daemon.LogFilter
import ProxyWarden.Management.Surface
import ProxyWarden.Settings
import ProxyWarden.Text.Terminal

/-!
# Starting the daemon

The daemon reads its settings from the environment and opens the core's settings and both journals.
The first failure ends it; it is reported if the filter of diagnostics lets it through.
-/
namespace ProxyWarden

/-- Why the daemon does not start. -/
inductive StartupError where
  /-- The filter of diagnostics cannot be read. -/
  | filter
  | settings (error : SettingsError)
  | opening (error : OpenError)
deriving DecidableEq, Repr

namespace StartupError

def exitCode : StartupError → Nat
  | filter => 101
  | _ => 1

/-- What is reported; without a filter there is nothing to report with. -/
def message? : StartupError → Option String
  | filter => none
  | settings error => some ("Error creating config on xraymon startup: " ++ error.message)
  | opening error => some error.message

end StartupError

structure Daemon where
  settings : Settings
  surface : Surface

namespace Daemon

/-- The module that reports failures of the daemon itself. -/
def ownModule : String := "xraymon"

/-- The module that reports failures of the core. -/
def supervisorModule : String := "xray_supervisor::supervisor"

/-- The rules of the filter: the libraries are silent, and the environment says the rest. -/
def filterText (env : Environment) : String :=
  "h2=off,hyper=off,tower=off,tonic=off," ++ Settings.level env "XRAYMON_LOG_LEVEL" "info"

/-- The rules, if they can be read. -/
def rules? (env : Environment) : Option (List LogFilter.Rule) := LogFilter.ofText? (filterText env)

/-- What reports an error of a module, if it is let through. -/
def errorReport? (env : Environment) (module message : String) : Option String :=
  match rules? env with
  | none => none
  | some rules =>
    if LogFilter.showsErrors rules module then some s!"ERROR {module}: {Text.harmless message}"
    else none

def start? (env : Environment) (disk : Disk) : Except StartupError Daemon × Disk :=
  match rules? env with
  | none => (.error .filter, disk)
  | some _ =>
    match Settings.ofEnvironment env with
    | .error e => (.error (.settings e), disk)
    | .ok settings =>
      let cache := Traffic.Cache.start (settings.statsInterval / Traffic.nanosPerMilli) []
      match Surface.open? settings.settingsPath settings.accessLog settings.coreLog cache disk with
      | (.error e, disk) => (.error (.opening e), disk)
      | (.ok surface, disk) => (.ok ⟨settings, surface⟩, disk)

def bin (d : Daemon) : Path := coreBinary d.settings.coresDir

end Daemon

end ProxyWarden

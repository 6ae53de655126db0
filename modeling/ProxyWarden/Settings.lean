import ProxyWarden.Disk.Path
import ProxyWarden.Document.Store
import ProxyWarden.Text.Blank
import ProxyWarden.Text.Digits
import ProxyWarden.Text.Lowercase
import ProxyWarden.Word

/-!
# Settings from the environment

Every setting has a default and a variable of the environment. A level is lowercased; a path that
is empty and a number that is none count as not given. `Settings.check` finds the first thing that
makes the settings unusable.
-/
namespace ProxyWarden

/-- The variables of a process, as bytes. -/
abbrev Environment := List (String × Bytes)

/-- Times are in nanoseconds. -/
structure Settings where
  logLevel : String
  coreLogLevel : String
  settingsPath : Path
  accessLog : Path
  coreLog : Path
  coresDir : Path
  statsInterval : Nat
  shutdownTimeout : Nat
deriving DecidableEq, Repr

inductive SettingsError where
  | badLogLevel (level : String)
  | zeroInterval
  | reservedName (path : Path)
  | sameJournal
deriving DecidableEq, Repr

namespace SettingsError

def reason : SettingsError → String
  | badLogLevel level =>
    s!"Invalid log level '{level}'. Must be one of: trace, debug, info, warn, error"
  | zeroInterval => "XRAYMON_STATS_INTERVAL_SECS must be greater than 0"
  | reservedName path => "settings file can't be named config.json: " ++ path.text
  | sameJournal => "access and core journals must be different files"

def message (e : SettingsError) : String := "Invalid configuration: " ++ e.reason

end SettingsError

namespace Settings

def second : Nat := 1000000000

def default : Settings := {
  logLevel := "info"
  coreLogLevel := "warning"
  settingsPath := Bytes.ofAscii "./settings.json"
  accessLog := Bytes.ofAscii "xray_access.log"
  coreLog := Bytes.ofAscii "xray_core.log"
  coresDir := Bytes.ofAscii "cores"
  statsInterval := 5 * second
  shutdownTimeout := 10 * second }

def logLevels : List String := ["trace", "debug", "info", "warn", "error"]

/-- The first reason why the settings cannot be used. -/
def check (s : Settings) : Except SettingsError Unit :=
  if !logLevels.contains s.logLevel then .error (.badLogLevel s.logLevel)
  else if s.statsInterval = 0 then .error .zeroInterval
  else if s.settingsPath.fileName? = some reservedFileName then .error (.reservedName s.settingsPath)
  else if s.accessLog.same s.coreLog then .error .sameJournal
  else .ok ()

def lookUp (env : Environment) (name : String) : Option Bytes :=
  (env.find? fun e => e.1 == name).map (·.2)

/-- A variable that holds UTF-8. -/
def text? (env : Environment) (name : String) : Option String :=
  (lookUp env name).bind Utf8.decode?

/-- A level of diagnostics in lowercase. -/
def level (env : Environment) (name fallback : String) : String :=
  ((text? env name).map Text.lowercase).getD fallback

def path (env : Environment) (name : String) (fallback : Path) : Path :=
  match lookUp env name with
  | some p => if p = [] then fallback else p
  | none => fallback

/-- A time given in whole seconds, with white space around the number. -/
def time (env : Environment) (name : String) (fallback : Nat) : Nat :=
  match (text? env name).bind fun s => Text.readNumber Word.largest64 (Text.trim s.toList) with
  | some n => n * second
  | none => fallback

/-- The settings that an environment asks for. -/
def read (env : Environment) : Settings := {
  logLevel := level env "XRAYMON_LOG_LEVEL" default.logLevel
  coreLogLevel := level env "XRAYMON_CORE_LOG_LEVEL" default.coreLogLevel
  settingsPath := path env "XRAYMON_SETTINGS_PATH" default.settingsPath
  accessLog := path env "XRAYMON_ACCESS_LOG" default.accessLog
  coreLog := path env "XRAYMON_CORE_LOG" default.coreLog
  coresDir := path env "XRAYMON_CORES_DIR" default.coresDir
  statsInterval := time env "XRAYMON_STATS_INTERVAL_SECS" default.statsInterval
  shutdownTimeout := time env "XRAYMON_SHUTDOWN_TIMEOUT_SECS" default.shutdownTimeout }

/-- The settings that an environment asks for, if they can be used. -/
def ofEnvironment (env : Environment) : Except SettingsError Settings :=
  match (read env).check with
  | .error e => .error e
  | .ok _ => .ok (read env)

end Settings

def coreBinaryName : Bytes := Bytes.ofAscii "Xray-linux-amd64"

/-- The core's program in a directory of releases. -/
def coreBinary (coresDir : Path) : Path := coresDir.join coreBinaryName

end ProxyWarden

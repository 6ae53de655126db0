import ProxyWarden.Journal.Pair
import ProxyWarden.Management.Limiter
import ProxyWarden.Notice
import ProxyWarden.Supervisor.Step
import ProxyWarden.Traffic.Cache

/-!
# The management surface

The calls that an operator can make: look at the core, restart it, read or replace its settings,
read the last connections and the traffic, and empty the journals. Restarts are limited to one in
five seconds, and so are uploads, each for itself.
-/
namespace ProxyWarden

inductive ManagementError where
  | tooManyRequests
  | invalidConfig (fault : Json.Located)
  | cancelled
  | supervisor (error : SupervisorError)
  | store (error : StoreError)
  | journal (error : JournalError)
  | stats (error : Traffic.StatsError)
deriving DecidableEq, Repr

namespace ManagementError

def message : ManagementError → String
  | tooManyRequests => "too many requests"
  | invalidConfig fault => "invalid JSON config format: " ++ fault.message
  | cancelled => "request cancelled"
  | supervisor error => error.message
  | store error => error.message
  | journal error => error.message
  | stats error => error.message

end ManagementError

/-- What could not be opened. -/
inductive OpenError where
  | settings (error : StoreError)
  | access (error : JournalError)
  | core (error : JournalError)
deriving DecidableEq, Repr

def OpenError.message : OpenError → String
  | settings error => "Unable to open settings: " ++ error.message
  | access error => "Unable to open access journal: " ++ error.message
  | core error => "Unable to open core journal: " ++ error.message

/-- All that the calls work on. -/
structure Surface where
  supervisor : Supervisor
  store : Store
  journals : Journals
  cache : Traffic.Cache
  disk : Disk
  restarts : Limiter
  uploads : Limiter

namespace Surface

/-- The time between two admitted calls of one kind, in milliseconds. -/
def callInterval : Nat := 5000

/-- Opens the settings and both journals on a disk. What was opened before a failure leaves its
traces on the disk. -/
def open? (settings accessLog coreLog : Path) (cache : Traffic.Cache) (disk : Disk) :
    Except OpenError Surface × Disk :=
  match Store.open? settings disk with
  | (.error e, disk) => (.error (.settings e), disk)
  | (.ok store, disk) =>
    match AccessJournal.open? accessLog disk with
    | .error e => (.error (.access e), disk)
    | .ok (access, disk) =>
      match CoreJournal.open? coreLog disk with
      | .error e => (.error (.core e), disk)
      | .ok (core, disk) =>
        (.ok {
          supervisor := .start
          store := store
          journals := ⟨access, core⟩
          cache := cache
          disk := disk
          restarts := .start callInterval
          uploads := .start callInterval }, disk)

def now (s : Surface) : Nat := s.supervisor.now

/-- What loading the settings gives at present. -/
def load (s : Surface) : Except StoreError Document := s.store.load s.disk

def status (s : Surface) : CoreStatus := s.supervisor.status s.journals.core.lastLine

def request (s : Surface) : Except ManagementError Unit × Surface :=
  match s.supervisor.request with
  | .error e => (.error (.supervisor e), s)
  | .ok supervisor => (.ok (), { s with supervisor := supervisor })

def restart (s : Surface) : Except ManagementError Unit × Surface :=
  if s.restarts.admits s.now then { s with restarts := s.restarts.call s.now }.request
  else (.error .tooManyRequests, s)

/-- The stored settings in the compact form. -/
def config (s : Surface) : Except ManagementError String :=
  match s.load with
  | .error e => .error (.store e)
  | .ok document =>
    match document.compact with
    | .error key => .error (.store (.invalidField key))
    | .ok bs => .ok (Utf8.lossy bs)

/-- Stores a document and passes on the request that goes with it. -/
def replace (s : Surface) (document : Document) (restart : Bool) : Except ManagementError Unit × Surface :=
  match s.store.save document s.disk with
  | (.error e, disk) => (.error (.store e), { s with disk := disk })
  | (.ok _, disk) =>
    let saved := { s with disk := disk }
    if restart then saved.request else (.ok (), saved)

/-- Replaces the stored settings, and restarts the core with them if that is wanted. -/
def upload (s : Surface) (data : String) (restart : Bool) : Except ManagementError Unit × Surface :=
  if s.uploads.admits s.now then
    let admitted := { s with uploads := s.uploads.call s.now }
    match Document.ofBytes (Utf8.encode data) with
    | .error fault => (.error (.invalidConfig fault), admitted)
    | .ok document => admitted.replace document restart
  else (.error .tooManyRequests, s)

/-- The last connections, oldest first, or all of them if `last` is not positive. -/
def connections (s : Surface) (last : Int) (cancelled : Bool) :
    Except ManagementError (List Connection) :=
  match s.journals.access.lastConnections last cancelled s.disk with
  | .error (.tail .cancelled) => .error .cancelled
  | .error e => .error (.journal e)
  | .ok cs => .ok cs

def traffic (s : Surface) (cancelled : Bool) : Except ManagementError (List Traffic.Snapshot) :=
  match s.cache.read cancelled with
  | .error .cancelled => .error .cancelled
  | .error e => .error (.stats e)
  | .ok snapshots => .ok snapshots

/-- Empties both journals, the access journal first. -/
def rotate (s : Surface) : Except ManagementError Unit × Surface :=
  let e := s.journals.rotate s.disk
  (e.result.mapError .journal, { s with journals := e.journal, disk := e.disk })

/-- What is to be told about the outcome of a restart call. -/
def restartNotice? : Except ManagementError Unit → Option Notice
  | .error .tooManyRequests => some .restartRefused
  | _ => none

/-- What is to be told about the outcome of an upload. -/
def uploadNotice? : Except ManagementError Unit → Option Notice
  | .error .tooManyRequests => some .uploadRefused
  | .error (.invalidConfig fault) => some (.uploadInvalid fault)
  | _ => none

end Surface

end ProxyWarden

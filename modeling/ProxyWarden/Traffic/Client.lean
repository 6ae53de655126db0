import ProxyWarden.Text.Quoted
import ProxyWarden.Traffic.Endpoint
import ProxyWarden.Traffic.Wire

/-!
# Calls to the core

The core answers queries for its counters over its interface. A call is one encoded request; the
answer is a message, or a status other than success, or does not come at all.
-/
namespace ProxyWarden.Traffic

/-- The status that a call ends with. -/
inductive Status where
  | ok | cancelled | unknown | invalidArgument | deadlineExceeded | notFound | alreadyExists
  | permissionDenied | resourceExhausted | failedPrecondition | aborted | outOfRange
  | unimplemented | internal | unavailable | dataLoss | unauthenticated
deriving DecidableEq, Repr

namespace Status

/-- All statuses with their names, in the order of their codes. -/
def table : List (Status × String) := [
  (ok, "Ok"), (cancelled, "Cancelled"), (unknown, "Unknown"),
  (invalidArgument, "InvalidArgument"), (deadlineExceeded, "DeadlineExceeded"),
  (notFound, "NotFound"), (alreadyExists, "AlreadyExists"),
  (permissionDenied, "PermissionDenied"), (resourceExhausted, "ResourceExhausted"),
  (failedPrecondition, "FailedPrecondition"), (aborted, "Aborted"), (outOfRange, "OutOfRange"),
  (unimplemented, "Unimplemented"), (internal, "Internal"), (unavailable, "Unavailable"),
  (dataLoss, "DataLoss"), (unauthenticated, "Unauthenticated")]

def code (s : Status) : Nat := table.findIdx fun e => e.1 == s

def name (s : Status) : String := ((table.find? fun e => e.1 == s).map (·.2)).getD ""

/-- The status of a code; a code that is not known is unknown. -/
def ofCode (n : Nat) : Status := (table[n]?.map (·.1)).getD unknown

end Status

/-- Why there are no counters. -/
inductive StatsError where
  | cancelled
  | endpoint (addr : String)
  | notReady (reason : String)
  | rpc (status : Status) (message : String)
deriving DecidableEq, Repr

namespace StatsError

def message : StatsError → String
  | cancelled => "stats collection cancelled"
  | endpoint addr => s!"invalid core api address {addr}: invalid URI"
  | notReady reason => "core api is not ready: " ++ reason
  | rpc status text =>
    s!"core api call failed: status: {status.name}, message: {Text.quoted text}, "
      ++ "details: [], metadata: MetadataMap \x7b headers: \x7b\x7d \x7d"

end StatsError

/-- The call that queries counters. -/
def queryPath : String := "/xray.app.stats.command.StatsService/QueryStats"

/-- A client for the core at an address, which is only contacted when it is first called. -/
structure Client where
  addr : String
deriving DecidableEq, Repr

def Client.new? (addr : String) : Except StatsError Client :=
  if Endpoint.valid addr then .ok ⟨addr⟩ else .error (.endpoint addr)

/-- What answers at the address. -/
inductive Peer where
  /-- Nothing does. -/
  | absent
  /-- Every call ends with a status. -/
  | refusing (status : Status) (message : String)
  /-- Every call is answered by these bytes. -/
  | answering (reply : Bytes)
deriving DecidableEq, Repr

/-- A call as the peer sees it: its path and the encoded request. -/
structure Call where
  path : String
  body : Bytes
deriving DecidableEq, Repr

namespace Peer

/-- The calls that a query makes to the peer. -/
def calls (p : Peer) (reset : Bool) : List Call :=
  match p with
  | absent => []
  | _ => [⟨queryPath, QueryRequest.encode ⟨"", reset⟩⟩]

/-- What a query for all counters returns. -/
def query (p : Peer) : Except StatsError (List Counter) :=
  match p with
  | absent => .error (.rpc .unavailable "tcp connect error")
  | refusing status message => .error (.rpc status message)
  | answering reply =>
    match QueryResponse.decode? reply with
    | none => .error (.rpc .internal "failed to decode Protobuf message")
    | some r => .ok r.counters

end Peer

end ProxyWarden.Traffic

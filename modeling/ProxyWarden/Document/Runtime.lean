import ProxyWarden.Document.Printer
import ProxyWarden.Json.Value

/-!
# The document that is fed to the core

Before a run the program puts three objects of its own into the document, in place of whatever
stood there: where the core logs, that it counts traffic, and where it answers calls.
-/
namespace ProxyWarden.Document

open Json (Value)

def coreLogLevels : List String := ["debug", "info", "warning", "error"]

/-- A level that the core knows stays as it is, any other becomes `info`. -/
def coreLogLevel (level : String) : String :=
  if coreLogLevels.contains level then level else "info"

/-- The core logs to its output, with nothing masked. -/
def logObject (level : String) : Value := .object [
  ("access", .string ""),
  ("error", .string ""),
  ("loglevel", .string (coreLogLevel level)),
  ("dnsLog", .bool false),
  ("maskAddress", .string "")]

def statsObject : Value := .object []

def coreAddress : String := "127.0.0.1:3000"

def apiTag : String := "api"

def apiObject : Value := .object [
  ("tag", .string apiTag),
  ("listen", .string coreAddress),
  ("services", .array [
    .string "HandlerService", .string "LoggerService", .string "StatsService",
    .string "RoutingService"])]

/-- Stores a value under a key, written without any space. -/
def set (d : Document) (key : String) (v : Value) : Document :=
  d.insert key (String.ofList v.write)

/-- Puts in the objects that the program itself decides on. -/
def inject (d : Document) (level : String) : Document :=
  ((d.set "log" (logObject level)).set "stats" statsObject).set apiTag apiObject

end ProxyWarden.Document

import ProxyWarden.Journal.File
import ProxyWarden.Json.Fields
import ProxyWarden.Line.Access
import ProxyWarden.Line.Core

/-!
# Records of the journals

How connections and core log lines are written as fields of a record, and how they are read back
from one.
-/
namespace ProxyWarden

open Json

namespace Connection

def message : String := "new connection"

def fields (c : Connection) : List (String × Value) := [
  ("client", .string c.client), ("server", .string c.server), ("proto", .string c.proto.name),
  ("inbound", .string c.inbound), ("outbound", .string c.outbound), ("user", .string c.user)]

/-- The fields of a record read so far. -/
structure Partial where
  client : Option String
  server : Option String
  proto : Option Protocol
  inbound : Option String
  outbound : Option String
  user : Option String
deriving DecidableEq, Repr

def Partial.empty : Partial := ⟨none, none, none, none, none, none⟩

def Partial.complete? (p : Partial) : Option Connection := do
  return {
    client := ← p.client
    server := ← p.server
    proto := ← p.proto
    inbound := ← p.inbound
    outbound := ← p.outbound
    user := ← p.user }

/-- The rest of the form `{"tcp": null}`, after its opening brace. -/
def readTagged (bs : Bytes) : Except Fault (String × Bytes) :=
  match readText bs with
  | .error e => .error e
  | .ok name =>
    match expectByte ':'.toUInt8 name.rest with
    | .error e => .error e
    | .ok afterColon =>
      match expectByte 'n'.toUInt8 afterColon with
      | .error e => .error e
      | .ok afterN =>
        match skipIdent (Bytes.ofAscii "ull") afterN with
        | .error e => .error e
        | .ok afterNull =>
          match expectByte '\x7d'.toUInt8 afterNull with
          | .error e => .error e
          | .ok rest => .ok (name.value, rest)

theorem length_le_of_readTagged {bs rest : Bytes} {s : String}
    (h : readTagged bs = .ok (s, rest)) : rest.length ≤ bs.length := by
  unfold readTagged at h
  split at h
  · cases h
  · next name _ =>
    split at h
    · cases h
    · next afterColon hc =>
      split at h
      · cases h
      · next afterN hn =>
        split at h
        · cases h
        · next afterNull hl =>
          split at h
          · cases h
          · next last hb =>
            cases h
            have := name.length_le
            have := length_le_of_expectByte hc
            have := length_le_of_expectByte hn
            have := length_le_of_skipIdent hl
            have := length_le_of_expectByte hb
            omega

/-- Takes the name of a protocol, as a string or in the form `{"tcp": null}`. -/
def readProtocol (bs : Bytes) : Read Protocol bs :=
  match hs : skipSpace bs with
  | [] => .error (.on .eofInValue [])
  | b :: r =>
    if b = '\x7b'.toUInt8 then
      match hr : readTagged r with
      | .error e => .error e
      | .ok (name, rest) =>
        match Protocol.ofName? name with
        | none => .error (.at .badRecord rest)
        | some p => .ok ⟨p, rest, by
            have h₁ := length_skipSpace_le bs
            have h₂ := length_le_of_readTagged hr
            rw [hs, List.length_cons] at h₁
            omega⟩
    else
      match readText bs with
      | .error e => .error e
      | .ok name =>
        match Protocol.ofName? name.value with
        | none => .error (.at .badRecord name.rest)
        | some p => .ok ⟨p, name.rest, name.length_le⟩

/-- Takes one member of an object. -/
def readField (p : Partial) (key : String) (bs : Bytes) : Read Partial bs :=
  if key = "client" then readOnce p.client (readText bs) fun v => { p with client := v }
  else if key = "server" then readOnce p.server (readText bs) fun v => { p with server := v }
  else if key = "proto" then readOnce p.proto (readProtocol bs) fun v => { p with proto := v }
  else if key = "inbound" then readOnce p.inbound (readText bs) fun v => { p with inbound := v }
  else if key = "outbound" then readOnce p.outbound (readText bs) fun v => { p with outbound := v }
  else if key = "user" then readOnce p.user (readText bs) fun v => { p with user := v }
  else passOver p bs

/-- The fields in the order of the list form. -/
def listOrder : List String := ["client", "server", "proto", "inbound", "outbound", "user"]

/-- Reads a record from the text of one line. -/
def ofLine? (text : Bytes) : Option Connection :=
  readRecord? readField .empty listOrder Partial.complete? text

def toLine (c : Connection) (now : Nat) : Bytes := Journal.line now message c.fields

end Connection

namespace CoreEntry

def message : String := "core log"

def fields (e : CoreEntry) : List (String × Value) := [
  ("core_level", .string e.level), ("data", .string e.payload)]

/-- The fields of a record read so far. -/
structure Partial where
  level : Option String
  payload : Option String
deriving DecidableEq, Repr

def Partial.empty : Partial := ⟨none, none⟩

def Partial.complete? (p : Partial) : Option CoreEntry := do
  return { level := ← p.level, payload := ← p.payload }

/-- Takes one member of an object. -/
def readField (p : Partial) (key : String) (bs : Bytes) : Read Partial bs :=
  if key = "core_level" then readOnce p.level (readText bs) fun v => { p with level := v }
  else if key = "data" then readOnce p.payload (readText bs) fun v => { p with payload := v }
  else passOver p bs

/-- The fields in the order of the list form. -/
def listOrder : List String := ["core_level", "data"]

/-- Reads a record from the text of one line. -/
def ofLine? (text : Bytes) : Option CoreEntry :=
  readRecord? readField .empty listOrder Partial.complete? text

def toLine (e : CoreEntry) (now : Nat) : Bytes := Journal.line now message e.fields

end CoreEntry

end ProxyWarden

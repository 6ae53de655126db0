import ProxyWarden.Text.Blank
import ProxyWarden.Text.Shape

/-!
# Access lines

The core writes one line for each accepted connection:

    from CLIENT accepted TARGET [INBOUND >> OUTBOUND] email: USER

The arrow may also be `=>` or `->`, and the email part may be missing. `AccessLine.parse?` finds
the first place where such a description starts and divides it with the longest possible fields,
the earlier ones first.
-/
namespace ProxyWarden

inductive Protocol where
  | tcp
  | udp
  | http
deriving DecidableEq, Repr

namespace Protocol

def name : Protocol → String
  | .tcp => "tcp"
  | .udp => "udp"
  | .http => "http"

def ofName? (s : String) : Option Protocol := [tcp, udp, http].find? fun p => p.name == s

/-- The protocol of a target such as `tcp:example.com:443`. -/
def ofTarget (target : List Char) : Protocol :=
  if "udp".toList.isPrefixOf target then .udp
  else if "tcp".toList.isPrefixOf target then .tcp
  else .http

theorem ofName?_name (p : Protocol) : ofName? p.name = some p := by
  cases p <;> decide

end Protocol

structure Connection where
  client : String
  server : String
  proto : Protocol
  inbound : String
  outbound : String
  user : String
deriving DecidableEq, Repr

namespace AccessLine

open Text Text.Shape

/-- The user of a connection that names none. -/
def unknownUser : String := "UNKNOWN"

/-- The mark that tells access lines from the core's own log. -/
def marker : List Char := "accepted".toList

def isFieldChar (c : Char) : Bool := c != ' '

def isOutboundChar (c : Char) : Bool := c != ' ' && c != ']'

def isArrowStart (c : Char) : Bool := c == '>' || c == '=' || c == '-'

/-- The parts of a description, in order. -/
def groups : List Shape := [
  word "from ", run isFieldChar, run isBlank, word "accepted", run isBlank, run isFieldChar,
  run isBlank, word "[", run isFieldChar, [.many isBlank], [.one isArrowStart, .one (· == '>')],
  [.many isBlank], run isOutboundChar, word "]"]

/-- The text after a word at the front, if it stands there. -/
def after? (w : String) (cs : List Char) : Option (List Char) :=
  if w.toList.isPrefixOf cs then some (cs.drop w.toList.length) else none

/-- The user that an email part at the front names. -/
def user? (cs : List Char) : Option String :=
  match cs with
  | [] => none
  | c :: _ =>
    if isBlank c then
      match after? "email:" (cs.dropWhile isBlank) with
      | none => none
      | some r =>
        let name := (r.dropWhile isBlank).takeWhile fun c => !isBlank c
        if name.isEmpty then none else some (String.ofList name)
    else none

def parse? (line : String) : Option Connection :=
  match Shape.find? groups line.toList with
  | some ([_, client, _, _, _, target, _, _, inbound, _, _, _, outbound, _], rest) =>
    some {
      client := String.ofList client
      server := String.ofList target
      proto := Protocol.ofTarget target
      inbound := String.ofList inbound
      outbound := String.ofList outbound
      user := (user? rest).getD unknownUser }
  | _ => none

end AccessLine

end ProxyWarden

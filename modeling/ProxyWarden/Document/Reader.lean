import ProxyWarden.Document.Basic
import ProxyWarden.Json.Kind
import ProxyWarden.Json.Members

/-!
# Reading a document

The text of a document is one JSON object. Its keys are decoded, its values are only passed over,
and the last of several members with the same key counts.
-/
namespace ProxyWarden

namespace Json

/-- Takes the text of one value, which must be UTF-8. -/
def readRaw (bs : Bytes) : Read String bs :=
  match h : skipValue bs with
  | .error e => .error e
  | .ok rest =>
    let start := skipSpace bs
    let item := start.take (start.length - rest.length)
    match Utf8.decode? item with
    | some text => .ok ⟨text, rest, length_le_of_skipValue h⟩
    | none => .error (.utf8 item rest)

end Json

namespace Document

/-- Takes one member into a document. -/
def readMember (d : Document) (key : String) (bs : Bytes) : Json.Read Document bs :=
  match Json.readRaw bs with
  | .error e => .error e
  | .ok raw => .ok ⟨d.insert key raw.value, raw.rest, raw.length_le⟩

/-- Reads a whole text; the fault tells where and why it is no document. -/
def ofBytes (text : Bytes) : Except Json.Located Document :=
  match Json.readObject readMember .empty Json.otherKind text with
  | .error e => .error (e.locate text)
  | .ok d => .ok d

end Document

end ProxyWarden

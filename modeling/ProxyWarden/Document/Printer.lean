import ProxyWarden.Document.Basic
import ProxyWarden.Json.Quote

/-!
# Writing a document

A document is written with its fields in ascending order, in a compact form or with one field per
line. Each value must be one JSON value; it is written without the white space around it.
-/
namespace ProxyWarden.Document

/-- The bytes of a value without white space around it, if it is one JSON value. -/
def trimmed? (raw : String) : Option Bytes :=
  let start := Json.skipSpace (Utf8.encode raw)
  match Json.skipValue start with
  | .error _ => none
  | .ok rest =>
    match Json.expectEnd rest with
    | .error _ => none
    | .ok _ => some (start.take (start.length - rest.length))

/-- The keys and values as they are written, or the first key whose value is no JSON value. -/
def rendered : List (String × String) → Except String (List (Bytes × Bytes))
  | [] => .ok []
  | (key, raw) :: es =>
    match trimmed? raw with
    | none => .error key
    | some value =>
      match rendered es with
      | .error k => .error k
      | .ok vs => .ok ((Utf8.encodeList (Json.writeString key), value) :: vs)

def openBrace : UInt8 := '\x7b'.toUInt8

def closeBrace : UInt8 := '\x7d'.toUInt8

def comma : UInt8 := ','.toUInt8

def colon : UInt8 := ':'.toUInt8

/-- The further fields of the compact form. -/
def compactTail (fields : List (Bytes × Bytes)) : Bytes :=
  fields.flatMap fun f => comma :: (f.1 ++ colon :: f.2)

def compactFields : List (Bytes × Bytes) → Bytes
  | [] => [openBrace, closeBrace]
  | f :: fs => openBrace :: (f.1 ++ colon :: (f.2 ++ compactTail fs)) ++ [closeBrace]

/-- What stands before a field on its own line. -/
def indent : Bytes := Bytes.newline :: Bytes.ofAscii "    "

def prettyField (f : Bytes × Bytes) : Bytes := indent ++ f.1 ++ Bytes.ofAscii ": " ++ f.2

def prettyTail (fields : List (Bytes × Bytes)) : Bytes :=
  fields.flatMap fun f => comma :: prettyField f

def prettyFields : List (Bytes × Bytes) → Bytes
  | [] => [openBrace, closeBrace, Bytes.newline]
  | f :: fs =>
    openBrace :: (prettyField f ++ prettyTail fs) ++ [Bytes.newline, closeBrace, Bytes.newline]

/-- The document without any space between its parts; the error is the first key in ascending
order whose value is no JSON value. -/
def compact (d : Document) : Except String Bytes := (rendered d.entries).map compactFields

/-- The document with one field per line. -/
def pretty (d : Document) : Except String Bytes := (rendered d.entries).map prettyFields

end ProxyWarden.Document

import ProxyWarden.Bytes
import ProxyWarden.Text.Quoted

/-!
# Faults in JSON text

A fault has a cause and a place. While reading, the place is kept as the number of bytes that are
left; `Fault.position` turns it into a line and a column of the whole text. A fault seen on a byte
that was only looked at counts that byte as read.
-/
namespace ProxyWarden.Json

inductive Cause where
  | eofInList
  | eofInObject
  | eofInString
  | eofInValue
  | expectedColon
  | expectedCommaOrBracket
  | expectedCommaOrBrace
  | expectedIdent
  | expectedValue
  | invalidEscape
  | invalidNumber
  | numberOutOfRange
  | invalidUtf8
  | controlCharacter
  | keyMustBeString
  | loneSurrogate
  | trailingComma
  | trailingCharacters
  | unexpectedEndOfEscape
  /-- A document of another kind than an object; the kind is described. -/
  | notAMap (found : String)
  /-- An object that lacks a field, repeats one, or holds a field of another kind. -/
  | badRecord
deriving DecidableEq, Repr

namespace Cause

def message : Cause → String
  | eofInList => "EOF while parsing a list"
  | eofInObject => "EOF while parsing an object"
  | eofInString => "EOF while parsing a string"
  | eofInValue => "EOF while parsing a value"
  | expectedColon => "expected `:`"
  | expectedCommaOrBracket => "expected `,` or `]`"
  | expectedCommaOrBrace => "expected `,` or `\x7d`"
  | expectedIdent => "expected ident"
  | expectedValue => "expected value"
  | invalidEscape => "invalid escape"
  | invalidNumber => "invalid number"
  | numberOutOfRange => "number out of range"
  | invalidUtf8 => "invalid unicode code point"
  | controlCharacter => "control character (\\u0000-\\u001F) found while parsing a string"
  | keyMustBeString => "key must be a string"
  | loneSurrogate => "lone leading surrogate in hex escape"
  | trailingComma => "trailing comma"
  | trailingCharacters => "trailing characters"
  | unexpectedEndOfEscape => "unexpected end of hex escape"
  | notAMap found => "invalid type: " ++ found ++ ", expected a map"
  | badRecord => "invalid record"

end Cause

structure Fault where
  cause : Cause
  /-- How many bytes of the text were not read yet. -/
  left : Nat
deriving DecidableEq, Repr

/-- A fault after the last byte read, where `rest` is what follows. -/
def Fault.at (cause : Cause) (rest : Bytes) : Fault := ⟨cause, rest.length⟩

/-- A fault on the next byte, or at the end if there is none. -/
def Fault.on (cause : Cause) (rest : Bytes) : Fault := ⟨cause, rest.length - 1⟩

/-- Lines count from one, columns are bytes read on the line. -/
structure Position where
  line : Nat
  column : Nat
deriving DecidableEq, Repr

def Position.advance (p : Position) (b : UInt8) : Position :=
  if b = Bytes.newline then ⟨p.line + 1, 0⟩ else ⟨p.line, p.column + 1⟩

/-- The position after all the bytes. -/
def Position.ofBytes (bs : Bytes) : Position := bs.foldl Position.advance ⟨1, 0⟩

def Fault.position (text : Bytes) (f : Fault) : Position :=
  Position.ofBytes (text.take (text.length - f.left))

/-- A cause with its place in the text. -/
structure Located where
  cause : Cause
  position : Position
deriving DecidableEq, Repr

def Fault.locate (text : Bytes) (f : Fault) : Located := ⟨f.cause, f.position text⟩

def Located.message (l : Located) : String :=
  s!"{l.cause.message} at line {l.position.line} column {l.position.column}"

end ProxyWarden.Json

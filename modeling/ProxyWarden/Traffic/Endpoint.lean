import ProxyWarden.Text.Utf8

/-!
# Addresses of the core's interface

An address is what stands after `http://` in a URI: a host, perhaps with user information before
an at sign and with a port after a colon, and then perhaps a path, a query and a fragment. `valid`
decides whether the URI can be used.
-/
namespace ProxyWarden.Traffic.Endpoint

/-- The bytes that may stand in an authority or end it. -/
def isUriByte (b : UInt8) : Bool :=
  b == 0x21 || b == 0x23 || b == 0x24 || (0x26 ≤ b && b ≤ 0x3B) || b == 0x3D || b == 0x3F
    || (0x40 ≤ b && b ≤ 0x5B) || b == 0x5D || b == 0x5F || (0x61 ≤ b && b ≤ 0x7A) || b == 0x7E

/-- The bytes that end an authority: slash, question mark and number sign. -/
def endsAuthority (b : UInt8) : Bool :=
  b == '/'.toUInt8 || b == '?'.toUInt8 || b == '#'.toUInt8

/-- What was seen of an authority. An at sign or a closing bracket starts the counts again. -/
structure Seen where
  colons : Nat
  openBracket : Bool
  closeBracket : Bool
  percent : Bool
  /-- The last byte was an at sign. -/
  endsWithAt : Bool
deriving DecidableEq, Repr

def Seen.nothing : Seen := ⟨0, false, false, false, false⟩

/-- More colons than an address in brackets with a port can have. -/
def maxColons : Nat := 8

/-- Takes one byte of the authority. -/
def Seen.step (s : Seen) (b : UInt8) : Option Seen :=
  if b = ':'.toUInt8 then
    if maxColons ≤ s.colons then none
    else some { s with colons := s.colons + 1, endsWithAt := false }
  else if b = '['.toUInt8 then
    if s.percent || s.openBracket then none
    else some { s with openBracket := true, endsWithAt := false }
  else if b = ']'.toUInt8 then
    if !s.openBracket || s.closeBracket then none
    else some { s with closeBracket := true, colons := 0, percent := false, endsWithAt := false }
  else if b = '@'.toUInt8 then
    some { s with colons := 0, percent := false, endsWithAt := true }
  else if b = '%'.toUInt8 then some { s with percent := true, endsWithAt := false }
  else if isUriByte b then some { s with endsWithAt := false }
  else none

def Seen.accepted (s : Seen) : Bool :=
  s.openBracket == s.closeBracket && s.colons ≤ 1 && !s.endsWithAt && !s.percent

def validAuthority (bs : Bytes) : Bool :=
  !bs.isEmpty && (bs.foldlM Seen.step .nothing).any Seen.accepted

/-- The bytes that may stand in a path as they are; no control character is among them. -/
def isPathByte (b : UInt8) : Bool :=
  (0x21 ≤ b && b ≤ 0x22) || (0x24 ≤ b && b ≤ 0x3B) || b == 0x3D || (0x40 ≤ b && b ≤ 0x5F)
    || (0x61 ≤ b && b ≤ 0x7E) || 0x80 ≤ b

/-- The bytes that may stand in a query as they are; no control character is among them. -/
def isQueryByte (b : UInt8) : Bool :=
  b == 0x21 || (0x24 ≤ b && b ≤ 0x3B) || b == 0x3D || (0x3F ≤ b && b ≤ 0x7E) || 0x80 ≤ b

/-- What follows the authority; a fragment is not looked at. -/
def validRest (bs : Bytes) : Bool :=
  let shown := bs.takeWhile fun b => b != '#'.toUInt8
  (shown.takeWhile fun b => b != '?'.toUInt8).all isPathByte
    && ((shown.dropWhile fun b => b != '?'.toUInt8).drop 1).all isQueryByte

/-- The longest URI. -/
def maxLength : Nat := 65534

def scheme : Bytes := Bytes.ofAscii "http://"

/-- Whether `http://` and the address are a URI with a host. -/
def valid (addr : String) : Bool :=
  let bs := Utf8.encode addr
  (scheme.length + bs.length) ≤ maxLength
    && validAuthority (bs.takeWhile fun b => !endsAuthority b)
    && validRest (bs.dropWhile fun b => !endsAuthority b)

end ProxyWarden.Traffic.Endpoint

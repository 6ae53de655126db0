import ProxyWarden.Decimal.Shortest
import ProxyWarden.Json.Quote
import ProxyWarden.Word

/-!
# Documents that are no object

Where an object is expected and something else stands, the fault describes what was found: its
kind, and for a scalar its value. The scalar itself must be well formed, or else its own fault is
reported. Whole numbers are shown as they are as long as they fit 64 bits, other numbers as binary
floating point, found by scaling the first digits by powers of ten.
-/
namespace ProxyWarden.Json

/-- A decimal `significand * 10 ^ exponent`, the significand below `2 ^ 64`. -/
structure Scaled where
  significand : Nat
  exponent : Int
deriving Repr

namespace Scaled

def limit : Nat := Word.values64

/-- Scales down by repeated division when the exponent is out of the table of powers. -/
def toFloat? (f : Float) (exponent : Int) : Nat → Option Float
  | 0 => some f
  | fuel + 1 =>
    if exponent.natAbs ≤ 308 then
      let power := Float.ofScientific 1 false exponent.natAbs
      if 0 ≤ exponent then
        if (f * power).isInf then none else some (f * power)
      else some (f / power)
    else if f == 0 then some f
    else if 0 ≤ exponent then none
    else toFloat? (f / 1e308) (exponent + 308) fuel

/-- The float it stands for, unless that is too large. -/
def float? (s : Scaled) : Option Float := toFloat? s.significand.toUInt64.toFloat s.exponent 4

end Scaled

/-- Reads digits into the significand until it is full; further digits are only counted. -/
def readSignificand (acc extra : Nat) : Bytes → Nat × Nat × Bytes
  | [] => (acc, extra, [])
  | b :: r =>
    if isDigit b then
      let next := acc * 10 + (b.toNat - '0'.toNat)
      if extra = 0 ∧ next < Scaled.limit then readSignificand next 0 r
      else readSignificand acc (extra + 1) r
    else (acc, extra, b :: r)

/-- Reads decimals into the significand until it is full; returns how many it took. -/
def readDecimals (acc taken : Nat) : Bytes → Nat × Nat × Bytes
  | [] => (acc, taken, [])
  | b :: r =>
    if isDigit b then
      let next := acc * 10 + (b.toNat - '0'.toNat)
      if next < Scaled.limit then readDecimals next (taken + 1) r
      else (acc, taken, skipDigits r)
    else (acc, taken, b :: r)

/-- The largest exponent that can be written. -/
def exponentLimit : Nat := 2147483647

/-- Reads the digits of an exponent; the bytes after the digit that made it too large are returned
in place of a value. -/
def readExponentDigits (acc : Nat) : Bytes → Except Bytes Nat × Bytes
  | [] => (.ok acc, [])
  | b :: r =>
    if isDigit b then
      let next := acc * 10 + (b.toNat - '0'.toNat)
      if next ≤ exponentLimit then readExponentDigits next r else (.error r, skipDigits r)
    else (.ok acc, b :: r)

inductive Shown where
  | whole (n : Int)
  | float (f : Float)

/-- Numbers from `10 ^ -5` up to `10 ^ 16` are shown without an exponent. -/
def numberLayout : Decimal.Layout := ⟨-5, 16⟩

def Shown.text : Shown → String
  | whole n => s!"integer `{n}`"
  | float f => "floating point `" ++ Decimal.floatText numberLayout f ++ "`"

def Scaled.show (negative : Bool) (s : Scaled) (rest : Bytes) : Except Fault (Shown × Bytes) :=
  match s.float? with
  | none => .error (.at .numberOutOfRange rest)
  | some f => .ok (.float (if negative then -f else f), rest)

/-- Reads an exponent, after its letter. -/
def showExponent (negative : Bool) (s : Scaled) (bs : Bytes) : Except Fault (Shown × Bytes) :=
  let down := bs.head? == some '-'.toUInt8
  match skipSign bs with
  | [] => .error (.at .eofInValue [])
  | b :: r =>
    if isDigit b then
      match readExponentDigits (b.toNat - '0'.toNat) r with
      | (.ok e, rest) =>
        let exponent := if down then s.exponent - e else s.exponent + e
        Scaled.show negative ⟨s.significand, exponent⟩ rest
      | (.error stop, rest) =>
        if s.significand ≠ 0 ∧ !down then .error (.at .numberOutOfRange stop)
        else .ok (.float (if negative then -0.0 else 0.0), rest)
    else .error (.at .invalidNumber r)

/-- Whether the byte is the letter of an exponent. -/
def isExponentLetter (b : UInt8) : Bool := b == 'e'.toUInt8 || b == 'E'.toUInt8

/-- Reads decimals, after the point. -/
def showDecimals (negative : Bool) (s : Scaled) (bs : Bytes) : Except Fault (Shown × Bytes) :=
  match bs with
  | [] => .error (.on .eofInValue [])
  | b :: r =>
    if isDigit b then
      let d := readDecimals s.significand 0 (b :: r)
      let s' : Scaled := ⟨d.1, s.exponent - d.2.1⟩
      match d.2.2 with
      | e :: t => if isExponentLetter e then showExponent negative s' t else s'.show negative (e :: t)
      | [] => s'.show negative []
    else .error (.on .invalidNumber (b :: r))

/-- What a whole number shows as. -/
def showWhole (negative : Bool) (n : Nat) : Shown :=
  if negative then
    if n = 0 ∨ Word.values64 < 2 * n then .float (-(n.toUInt64.toFloat)) else .whole (-n)
  else .whole n

/-- Reads a number without its sign. -/
def showNumber (negative : Bool) (bs : Bytes) : Except Fault (Shown × Bytes) :=
  match bs with
  | [] => .error (.at .eofInValue [])
  | b :: r =>
    if isDigit b then
      let d := if b = '0'.toUInt8 then (0, 0, r) else readSignificand 0 0 (b :: r)
      let s : Scaled := ⟨d.1, d.2.1⟩
      match d.2.2 with
      | e :: t =>
        if b = '0'.toUInt8 && isDigit e then .error (.on .invalidNumber (e :: t))
        else if e = '.'.toUInt8 then showDecimals negative s t
        else if isExponentLetter e then showExponent negative s t
        else if d.2.1 = 0 then .ok (showWhole negative d.1, e :: t)
        else s.show negative (e :: t)
      | [] => if d.2.1 = 0 then .ok (showWhole negative d.1, []) else s.show negative []
    else .error (.at .invalidNumber r)

/-- The fault of a document that starts with `b` and not with an opening brace. -/
def otherKind (b : UInt8) (r : Bytes) : Fault :=
  let literal (rest : String) (found : String) : Fault :=
    match skipIdent (Bytes.ofAscii rest) r with
    | .error e => e
    | .ok t => .at (.notAMap found) t
  let number (n : Except Fault (Shown × Bytes)) : Fault :=
    match n with
    | .error e => e
    | .ok (v, t) => .at (.notAMap v.text) t
  if b = 'n'.toUInt8 then literal "ull" "null"
  else if b = 't'.toUInt8 then literal "rue" "boolean `true`"
  else if b = 'f'.toUInt8 then literal "alse" "boolean `false`"
  else if b = '-'.toUInt8 then number (showNumber true r)
  else if isDigit b then number (showNumber false (b :: r))
  else if b = '"'.toUInt8 then
    match readString r with
    | .error e => e
    | .ok (s, t) => .at (.notAMap ("string " ++ Text.quoted s)) t
  else if b = '['.toUInt8 then .at (.notAMap "sequence") (b :: r)
  else .on .expectedValue (b :: r)

end ProxyWarden.Json

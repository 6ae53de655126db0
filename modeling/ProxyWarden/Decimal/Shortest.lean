/-!
# Shortest decimals

The text of a binary floating-point number is the shortest decimal that reads back as the same
number. A finite number `m * 2 ^ q` is the nearest one to every real in an interval around it, whose
ends belong to it exactly if `m` is even. For one digit, two digits and so on the two neighbours of
the number on that decimal grid are tried; the first grid with a hit gives the digits. A `Layout`
says which numbers are written out and which with an exponent.
-/
namespace ProxyWarden.Decimal

/-- A finite positive number and the ends of its interval, as fractions of one denominator. -/
structure Interval where
  lower : Nat
  value : Nat
  upper : Nat
  denominator : Nat
  endsIncluded : Bool
deriving Repr

/-- The interval of the number with these bits, whose sign is ignored. -/
def Interval.ofBits (bits : UInt64) : Interval :=
  let b := bits.toNat
  let fraction := b % Nat.pow 2 52
  let exponent := b / Nat.pow 2 52 % Nat.pow 2 11
  let m := if exponent = 0 then fraction else Nat.pow 2 52 + fraction
  -- the number is `4 * m * 2 ^ shift / 2 ^ 1076`
  let shift := if exponent = 0 then 0 else exponent - 1
  let below := if fraction = 0 ∧ 1 < exponent then 1 else 2
  { lower := (4 * m - below) * Nat.pow 2 shift
    value := 4 * m * Nat.pow 2 shift
    upper := (4 * m + 2) * Nat.pow 2 shift
    denominator := Nat.pow 2 1076
    endsIncluded := m % 2 == 0 }

/-- Whether `d * 10 ^ up / 10 ^ down` lies in the interval. -/
def Interval.holds (i : Interval) (d up down : Nat) : Bool :=
  let x := d * Nat.pow 10 up * i.denominator
  let scale := Nat.pow 10 down
  if i.endsIncluded then i.lower * scale ≤ x && x ≤ i.upper * scale
  else i.lower * scale < x && x < i.upper * scale

/-- A number is `digits * 10 ^ exponent`. -/
structure Digits where
  digits : Nat
  exponent : Int
deriving Repr

/-- The number of decimal digits of the integer part. -/
def integerDigits (n : Nat) : Nat := if n = 0 then 0 else (Nat.toDigits 10 n).length

/-- The nearest of the two neighbours on the grid of `10 ^ exponent` that lies in the interval; of
two that are equally near the even one. -/
def Interval.onGrid (i : Interval) (exponent : Int) : Option Digits :=
  let up := exponent.toNat
  let down := (-exponent).toNat
  let num := i.value * Nat.pow 10 down
  let den := i.denominator * Nat.pow 10 up
  let d := num / den
  let low := i.holds d up down
  let high := i.holds (d + 1) up down
  let twice := 2 * (num % den)
  let nearLow := twice < den || (twice == den && d % 2 == 0)
  if low && (nearLow || !high) then some ⟨d, exponent⟩
  else if high then some ⟨d + 1, exponent⟩
  else none

/-- The exponent of ten below which the number has its first digit. -/
def Interval.magnitude (i : Interval) : Int :=
  if i.denominator ≤ i.value then integerDigits (i.value / i.denominator)
  else 1 - (integerDigits (i.denominator / i.value) : Int)

/-- Tries finer and finer grids. -/
def Interval.search (i : Interval) (exponent : Int) : Nat → Digits
  | 0 => ⟨i.value * Nat.pow 10 (-exponent).toNat / (i.denominator * Nat.pow 10 exponent.toNat), exponent⟩
  | fuel + 1 =>
    match i.onGrid exponent with
    | some d => d
    | none => i.search (exponent - 1) fuel

/-- The digits of a positive finite number. -/
def shortest (x : Float) : Digits :=
  let i := Interval.ofBits x.toBits
  i.search i.magnitude 20

/-- Which powers of ten are written out: a number whose first digit stands for `10 ^ e` is written
without an exponent if `lowest ≤ e < highest`. -/
structure Layout where
  lowest : Int
  highest : Int
deriving Repr

/-- The power of ten that the first digit stands for. -/
def Digits.leading (d : Digits) : Int := d.exponent + ((Nat.toDigits 10 d.digits).length - 1 : Nat)

/-- Digits written out, with a point and at least one digit after it. -/
def Digits.positional (d : Digits) : String :=
  let ds := Nat.toDigits 10 d.digits
  if 0 ≤ d.exponent then String.ofList (ds ++ List.replicate d.exponent.toNat '0') ++ ".0"
  else
    let places := (-d.exponent).toNat
    let padded := List.replicate (places + 1 - ds.length) '0' ++ ds
    String.ofList (padded.take (padded.length - places)) ++ "."
      ++ String.ofList (padded.drop (padded.length - places))

/-- Digits with an exponent, which has a sign always: a point follows the first digit if others
do. -/
def Digits.scientific (d : Digits) : String :=
  let ds := Nat.toDigits 10 d.digits
  let mantissa := if ds.length ≤ 1 then ds else ds.take 1 ++ ['.'] ++ ds.drop 1
  let sign := if d.leading < 0 then '-' else '+'
  String.ofList (mantissa ++ ['e', sign] ++ Nat.toDigits 10 d.leading.natAbs)

def Digits.text (l : Layout) (d : Digits) : String :=
  if l.lowest ≤ d.leading ∧ d.leading < l.highest then d.positional else d.scientific

/-- A finite number; zero has one decimal place. -/
def floatText (l : Layout) (x : Float) : String :=
  let sign := if x.toBits.toNat / Nat.pow 2 63 = 1 then "-" else ""
  if x == 0 then sign ++ "0.0" else sign ++ (shortest x).text l

end ProxyWarden.Decimal

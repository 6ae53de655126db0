/-!
# Unsigned decimal text

A number is written with decimal digits alone; one plus sign may stand before them. A number that
does not fit its limit is refused, as is a text without digits.
-/
namespace ProxyWarden.Text

def digitValue? (c : Char) : Option Nat :=
  if '0' ≤ c ∧ c ≤ '9' then some (c.toNat - '0'.toNat) else none

/-- The value of a list of digits read onto `acc`, as long as it stays within the limit. -/
def readDigits (limit acc : Nat) : List Char → Option Nat
  | [] => some acc
  | c :: cs =>
    match digitValue? c with
    | none => none
    | some d => if 10 * acc + d ≤ limit then readDigits limit (10 * acc + d) cs else none

/-- Reads a number of at most `limit`. -/
def readNumber (limit : Nat) : List Char → Option Nat
  | [] => none
  | c :: cs =>
    if c = '+' then
      if cs.isEmpty then none else readDigits limit 0 cs
    else readDigits limit 0 (c :: cs)

end ProxyWarden.Text

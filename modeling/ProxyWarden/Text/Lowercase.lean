import ProxyWarden.Text.CaseTable
import ProxyWarden.Text.Unprintable

/-!
# Lowercase

The full lowercase mapping of a text. All characters but two are mapped on their own: U+0130
becomes two characters, and a capital sigma becomes the final form at the end of a word, that is,
after a cased letter and not before one, where case-ignorable characters do not count.
-/
namespace ProxyWarden.Text

def capitalSigma : Char := Char.ofNat 0x3A3

/-- The lowercase of one character outside of any word. -/
def lowerChar (c : Char) : List Char :=
  let n := c.toNat
  if n = 0x130 then [Char.ofNat 0x69, Char.ofNat 0x307]
  else
    match lowerSteps.find? fun s => s.1 ≤ n && n ≤ s.2.1 && (n - s.1) % s.2.2.1 == 0 with
    | some s => [Char.ofNat (n + s.2.2.2).toNat]
    | none => [c]

def isCased (c : Char) : Bool := inRanges casedRanges c.toNat

def isCaseIgnorable (c : Char) : Bool := inRanges caseIgnorableRanges c.toNat

/-- Whether the first character that is not case-ignorable is a cased letter. -/
def meetsCased (cs : List Char) : Bool :=
  match cs.dropWhile isCaseIgnorable with
  | c :: _ => isCased c
  | [] => false

/-- Lowercases `after`, given the characters `before` it (last first). -/
def lowerFrom (before : List Char) : List Char → List Char
  | [] => []
  | c :: after =>
    (if c = capitalSigma then
      if meetsCased before && !meetsCased after then [Char.ofNat 0x3C2] else [Char.ofNat 0x3C3]
    else lowerChar c) ++ lowerFrom (c :: before) after

def lowercase (s : String) : String := String.ofList (lowerFrom [] s.toList)

end ProxyWarden.Text

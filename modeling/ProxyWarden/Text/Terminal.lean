import ProxyWarden.Text.Quoted

/-!
# Text for a terminal

Messages are shown on a terminal, which takes some control characters for commands. Those are
written as escapes. A tab and the ends of lines stay as they are, and so do the controls that no
terminal acts on.
-/
namespace ProxyWarden.Text

/-- The controls below U+0080 that a terminal may act on: the bell, the backspace, the form feed,
the escape and the delete character. -/
def commandCodes : List Nat := [0x07, 0x08, 0x0C, 0x1B, 0x7F]

/-- Two digits in base sixteen. -/
def hexPair (n : Nat) : List Char := if n < 16 then '0' :: hexText n else hexText n

def harmlessChar (c : Char) : List Char :=
  if c.toNat ∈ commandCodes then ['\\', 'x'] ++ hexPair c.toNat
  else if 0x80 ≤ c.toNat ∧ c.toNat ≤ 0x9F then
    ['\\', 'u', '\x7b'] ++ hexText c.toNat ++ ['\x7d']
  else [c]

/-- A text without characters that a terminal takes for commands. -/
def harmless (s : String) : String := String.ofList (s.toList.flatMap harmlessChar)

end ProxyWarden.Text

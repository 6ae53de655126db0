import ProxyWarden.Text.Unprintable

/-!
# Quoted text

How a text is shown inside a message: between double quotes, with a backslash before quotes and
backslashes, letters for the common controls, and the code point in braces for every other
character without a glyph of its own.
-/
namespace ProxyWarden.Text

/-- The digits of a number in base sixteen, without leading zeros. -/
def hexText (n : Nat) : List Char := Nat.toDigits 16 n

def quoteChar (c : Char) : List Char :=
  if c = '"' then ['\\', '"']
  else if c = '\\' then ['\\', '\\']
  else if c = '\n' then ['\\', 'n']
  else if c = '\r' then ['\\', 'r']
  else if c = '\t' then ['\\', 't']
  else if c.toNat = 0 then ['\\', '0']
  else if isUnprintable c then ['\\', 'u', '\x7b'] ++ hexText c.toNat ++ ['\x7d']
  else [c]

def quoted (s : String) : String :=
  String.ofList (['"'] ++ s.toList.flatMap quoteChar ++ ['"'])

end ProxyWarden.Text

/-!
# Bytes and lines

Files, pipes and messages are lists of bytes. A file of lines is cut at every newline; the last
piece is what follows the last newline, so `pieces` always returns at least one piece, and
`[newline].intercalate (pieces bs) = bs`.
-/
namespace ProxyWarden

abbrev Bytes := List UInt8

namespace Bytes

/-- The bytes of a text of ASCII characters. -/
def ofAscii (s : String) : Bytes := s.toList.map Char.toUInt8

def newline : UInt8 := 0x0A

def carriageReturn : UInt8 := 0x0D

/-- ASCII white space: space, tab, newline, form feed and carriage return. -/
def isBlank (b : UInt8) : Bool :=
  b == 0x20 || b == 0x09 || b == 0x0A || b == 0x0C || b == 0x0D

def trimStart (bs : Bytes) : Bytes := bs.dropWhile isBlank

def trimEnd (bs : Bytes) : Bytes := (bs.reverse.dropWhile isBlank).reverse

/-- Removes ASCII white space from both ends. -/
def trim (bs : Bytes) : Bytes := trimEnd (trimStart bs)

/-- One more byte in front of a list of pieces. -/
def consPiece (b : UInt8) : List Bytes → List Bytes
  | [] => if b = newline then [[], []] else [[b]]
  | p :: ps => if b = newline then [] :: p :: ps else (b :: p) :: ps

/-- The pieces between newlines, the last one being what follows the last newline. -/
def pieces (bs : Bytes) : List Bytes := bs.foldr consPiece [[]]

/-- The lines of a file: its pieces, without the empty one after a final newline. -/
def lines (bs : Bytes) : List Bytes :=
  match (pieces bs).reverse with
  | [] :: ps => ps.reverse
  | ps => ps.reverse

@[simp] theorem pieces_nil : pieces [] = [[]] := rfl

theorem pieces_cons (b : UInt8) (bs : Bytes) : pieces (b :: bs) = consPiece b (pieces bs) := rfl

theorem pieces_ne_nil (bs : Bytes) : pieces bs ≠ [] := by
  cases bs with
  | nil => simp
  | cons b bs =>
    rw [pieces_cons]
    unfold consPiece
    split <;> split <;> simp

/-- The lowercase hexadecimal digit of a number below sixteen. -/
def hexDigit (n : Nat) : Char := if n < 10 then Char.ofNat (48 + n) else Char.ofNat (87 + n)

/-- Two hexadecimal digits for each byte. -/
def toHex (bs : Bytes) : String :=
  String.ofList (bs.flatMap fun b => [hexDigit (b.toNat / 16), hexDigit (b.toNat % 16)])

end Bytes

end ProxyWarden

import ProxyWarden.Json.Skip
import ProxyWarden.Text.Utf8

/-!
# JSON strings

`writeString` escapes quotes, backslashes and controls and writes every other character as it is.
`readString` decodes any string: its escapes must form characters, so surrogates must pair, and
its bytes must be UTF-8.
-/
namespace ProxyWarden.Json

/-! ## Writing -/

/-- The escape of a control character without a letter of its own. -/
def controlEscape (n : Nat) : List Char :=
  ['\\', 'u', '0', '0', Bytes.hexDigit (n / 16), Bytes.hexDigit (n % 16)]

def escapeChar (c : Char) : List Char :=
  if c = '"' then ['\\', '"']
  else if c = '\\' then ['\\', '\\']
  else if c.toNat < 0x20 then
    if c.toNat = 0x08 then ['\\', 'b']
    else if c.toNat = 0x09 then ['\\', 't']
    else if c.toNat = 0x0A then ['\\', 'n']
    else if c.toNat = 0x0C then ['\\', 'f']
    else if c.toNat = 0x0D then ['\\', 'r']
    else controlEscape c.toNat
  else [c]

def writeString (s : String) : List Char := '"' :: (s.toList.flatMap escapeChar ++ ['"'])

/-! ## Reading -/

/-- The byte that a letter after a backslash stands for. -/
def escapedByte? (b : UInt8) : Option UInt8 :=
  if b = '"'.toUInt8 ∨ b = '\\'.toUInt8 ∨ b = '/'.toUInt8 then some b
  else if b = 'b'.toUInt8 then some 0x08
  else if b = 'f'.toUInt8 then some 0x0C
  else if b = 'n'.toUInt8 then some 0x0A
  else if b = 'r'.toUInt8 then some 0x0D
  else if b = 't'.toUInt8 then some 0x09
  else none

def isLeading (n : Nat) : Bool := 0xD800 ≤ n && n ≤ 0xDBFF

def isTrailing (n : Nat) : Bool := 0xDC00 ≤ n && n ≤ 0xDFFF

/-- The character of a pair of surrogates. -/
def pairChar (hi lo : Nat) : Char := Char.ofNat (0x10000 + (hi - 0xD800) * 1024 + (lo - 0xDC00))

/-- Decodes the rest of a string onto `acc` (last byte first), after its opening quote. -/
def unescapeOnto (acc : Bytes) : Bytes → Except Fault (Bytes × Bytes)
  | [] => .error (.at .eofInString [])
  | b :: r =>
    if b = '"'.toUInt8 then .ok (acc.reverse, r)
    else if b = '\\'.toUInt8 then
      match r with
      | [] => .error (.at .eofInString [])
      | e :: r₁ =>
        match escapedByte? e with
        | some x => unescapeOnto (x :: acc) r₁
        | none =>
          if e = 'u'.toUInt8 then
            match r₁ with
            | h₁ :: h₂ :: h₃ :: h₄ :: r₂ =>
              match hexValue4? h₁ h₂ h₃ h₄ with
              | none => .error (.at .invalidEscape r₂)
              | some n =>
                if isTrailing n then .error (.at .loneSurrogate r₂)
                else if isLeading n then
                  match r₂ with
                  | [] => .error (.at .eofInString [])
                  | s :: r₃ =>
                    if s = '\\'.toUInt8 then
                      match r₃ with
                      | [] => .error (.at .eofInString [])
                      | u :: r₄ =>
                        if u = 'u'.toUInt8 then
                          match r₄ with
                          | l₁ :: l₂ :: l₃ :: l₄ :: r₅ =>
                            match hexValue4? l₁ l₂ l₃ l₄ with
                            | none => .error (.at .invalidEscape r₅)
                            | some m =>
                              if isTrailing m then
                                unescapeOnto ((Utf8.encodeChar (pairChar n m)).reverse ++ acc) r₅
                              else .error (.at .loneSurrogate r₅)
                          | _ => .error (.at .eofInString [])
                        else .error (.at .unexpectedEndOfEscape r₄)
                    else .error (.at .unexpectedEndOfEscape r₃)
                else unescapeOnto ((Utf8.encodeChar (Char.ofNat n)).reverse ++ acc) r₂
            | _ => .error (.at .eofInString [])
          else .error (.at .invalidEscape r₁)
    else if b < 0x20 then .error (.at .controlCharacter r)
    else unescapeOnto (b :: acc) r

/-- The fault of an item that is not UTF-8, which points at its first bad byte; `rest` is what
follows the item. -/
def Fault.utf8 (item rest : Bytes) : Fault :=
  match Utf8.decode item with
  | .error bad => ⟨.invalidUtf8, bad.length - 1 + rest.length⟩
  | .ok _ => .at .invalidUtf8 rest

/-- Decodes the rest of a string, after its opening quote. Escapes are gone when the content is
found not to be UTF-8, so the place of a bad byte is counted in decoded bytes back from the closing
quote. -/
def readString (bs : Bytes) : Except Fault (String × Bytes) :=
  match unescapeOnto [] bs with
  | .error e => .error e
  | .ok (content, rest) =>
    match Utf8.decode? content with
    | some s => .ok (s, rest)
    | none => .error (.utf8 content ('"'.toUInt8 :: rest))

theorem length_lt_of_unescapeOnto {acc bs content rest : Bytes}
    (h : unescapeOnto acc bs = .ok (content, rest)) : rest.length < bs.length := by
  fun_induction unescapeOnto acc bs <;> simp_all <;> omega

theorem length_lt_of_readString {bs rest : Bytes} {s : String}
    (h : readString bs = .ok (s, rest)) : rest.length < bs.length := by
  unfold readString at h
  split at h
  · cases h
  · next content r hu =>
    have := length_lt_of_unescapeOnto hu
    split at h
    · cases h; exact this
    · cases h

end ProxyWarden.Json

import ProxyWarden.Json.Fault

/-!
# Passing over JSON values

`skipValue` passes over one value without decoding it: strings may hold any bytes but controls,
escapes are only checked for their form, and numbers and nesting have no limit. The open brackets
are kept on an explicit stack. Each reader returns the bytes that follow what it passed over.
-/
namespace ProxyWarden.Json

abbrev Skip := Except Fault Bytes

/-- Space, tab, newline and carriage return. -/
def isSpace (b : UInt8) : Bool := b == 0x20 || b == 0x09 || b == 0x0A || b == 0x0D

def skipSpace (bs : Bytes) : Bytes := bs.dropWhile isSpace

theorem length_skipSpace_le (bs : Bytes) : (skipSpace bs).length ≤ bs.length :=
  (List.dropWhile_sublist _).length_le

def isDigit (b : UInt8) : Bool := '0'.toUInt8 ≤ b && b ≤ '9'.toUInt8

def skipDigits (bs : Bytes) : Bytes := bs.dropWhile isDigit

theorem length_skipDigits_le (bs : Bytes) : (skipDigits bs).length ≤ bs.length :=
  (List.dropWhile_sublist _).length_le

/-- The rest of a literal name. -/
def skipIdent : List UInt8 → Bytes → Skip
  | [], bs => .ok bs
  | _ :: _, [] => .error (.at .eofInValue [])
  | w :: ws, b :: bs => if b = w then skipIdent ws bs else .error (.at .expectedIdent bs)

theorem length_le_of_skipIdent {w : List UInt8} {bs r : Bytes} (h : skipIdent w bs = .ok r) :
    r.length ≤ bs.length := by
  fun_induction skipIdent w bs with
  | case1 bs => cases h; exact Nat.le_refl _
  | case2 => cases h
  | case3 ws b bs ih => exact Nat.le_succ_of_le (ih h)
  | case4 => cases h

/-! ## Numbers -/

def skipSign (bs : Bytes) : Bytes :=
  match bs with
  | b :: r => if b = '+'.toUInt8 || b = '-'.toUInt8 then r else b :: r
  | [] => []

theorem length_skipSign_le (bs : Bytes) : (skipSign bs).length ≤ bs.length := by
  unfold skipSign
  split
  · split
    · exact Nat.le_succ _
    · exact Nat.le_refl _
  · exact Nat.le_refl _

/-- The exponent, after its letter. -/
def skipExponent (bs : Bytes) : Skip :=
  match skipSign bs with
  | [] => .error (.at .invalidNumber [])
  | b :: r => if isDigit b then .ok (skipDigits r) else .error (.at .invalidNumber r)

/-- What may follow the integer part or the decimals: an exponent. -/
def skipExponent? (bs : Bytes) : Skip :=
  match bs with
  | b :: r => if b = 'e'.toUInt8 || b = 'E'.toUInt8 then skipExponent r else .ok bs
  | [] => .ok []

/-- The decimals, after the point. -/
def skipDecimals (bs : Bytes) : Skip :=
  match bs with
  | b :: r =>
    if isDigit b then skipExponent? (skipDigits r) else .error (.on .invalidNumber bs)
  | [] => .error (.on .invalidNumber [])

/-- What may follow the integer part. -/
def skipFraction? (bs : Bytes) : Skip :=
  match bs with
  | b :: r => if b = '.'.toUInt8 then skipDecimals r else skipExponent? bs
  | [] => .ok []

/-- A number without its sign. -/
def skipNumber (bs : Bytes) : Skip :=
  match bs with
  | [] => .error (.at .invalidNumber [])
  | b :: r =>
    if b = '0'.toUInt8 then
      match r with
      | d :: _ => if isDigit d then .error (.on .invalidNumber r) else skipFraction? r
      | [] => .ok []
    else if isDigit b then skipFraction? (skipDigits r)
    else .error (.at .invalidNumber r)

theorem length_le_of_skipExponent {bs r : Bytes} (h : skipExponent bs = .ok r) :
    r.length ≤ bs.length := by
  have hs := length_skipSign_le bs
  unfold skipExponent at h
  split at h
  · cases h
  · next b t ht =>
    rw [ht, List.length_cons] at hs
    split at h
    · cases h
      have := length_skipDigits_le t
      omega
    · cases h

theorem length_le_of_skipExponent? {bs r : Bytes} (h : skipExponent? bs = .ok r) :
    r.length ≤ bs.length := by
  unfold skipExponent? at h
  split at h
  · split at h
    · exact Nat.le_succ_of_le (length_le_of_skipExponent h)
    · cases h; exact Nat.le_refl _
  · cases h; exact Nat.le_refl _

theorem length_le_of_skipDecimals {bs r : Bytes} (h : skipDecimals bs = .ok r) :
    r.length ≤ bs.length := by
  unfold skipDecimals at h
  split at h
  · next b t =>
    split at h
    · exact Nat.le_succ_of_le (Nat.le_trans (length_le_of_skipExponent? h) (length_skipDigits_le t))
    · cases h
  · cases h

theorem length_le_of_skipFraction? {bs r : Bytes} (h : skipFraction? bs = .ok r) :
    r.length ≤ bs.length := by
  unfold skipFraction? at h
  split at h
  · split at h
    · exact Nat.le_succ_of_le (length_le_of_skipDecimals h)
    · exact length_le_of_skipExponent? h
  · cases h; exact Nat.le_refl _

theorem length_lt_of_skipNumber {bs r : Bytes} (h : skipNumber bs = .ok r) :
    r.length < bs.length := by
  unfold skipNumber at h
  split at h
  · cases h
  · next b t =>
    split at h
    · split at h
      · split at h
        · cases h
        · exact Nat.lt_succ_of_le (length_le_of_skipFraction? h)
      · cases h; exact Nat.lt_succ_self _
    · split at h
      · exact Nat.lt_succ_of_le
          (Nat.le_trans (length_le_of_skipFraction? h) (length_skipDigits_le t))
      · cases h

/-! ## Strings -/

def hexValue? (b : UInt8) : Option Nat :=
  if isDigit b then some (b.toNat - '0'.toNat)
  else if 'a'.toUInt8 ≤ b && b ≤ 'f'.toUInt8 then some (b.toNat - 'a'.toNat + 10)
  else if 'A'.toUInt8 ≤ b && b ≤ 'F'.toUInt8 then some (b.toNat - 'A'.toNat + 10)
  else none

/-- The value of four hexadecimal digits. -/
def hexValue4? (a b c d : UInt8) : Option Nat := do
  return (← hexValue? a) * 4096 + (← hexValue? b) * 256 + (← hexValue? c) * 16 + (← hexValue? d)

/-- The letters that stand for one character after a backslash. -/
def isEscapeLetter (b : UInt8) : Bool :=
  b == '"'.toUInt8 || b == '\\'.toUInt8 || b == '/'.toUInt8 || b == 'b'.toUInt8
    || b == 'f'.toUInt8 || b == 'n'.toUInt8 || b == 'r'.toUInt8 || b == 't'.toUInt8

/-- The rest of a string, after its opening quote. -/
def skipString : Bytes → Skip
  | [] => .error (.at .eofInString [])
  | b :: r =>
    if b = '"'.toUInt8 then .ok r
    else if b = '\\'.toUInt8 then
      match r with
      | [] => .error (.at .eofInString [])
      | e :: r' =>
        if isEscapeLetter e then skipString r'
        else if e = 'u'.toUInt8 then
          match r' with
          | h₁ :: h₂ :: h₃ :: h₄ :: r'' =>
            if (hexValue4? h₁ h₂ h₃ h₄).isSome then skipString r''
            else .error (.at .invalidEscape r'')
          | _ => .error (.at .eofInString [])
        else .error (.at .invalidEscape r')
    else if b < 0x20 then .error (.at .controlCharacter (b :: r))
    else skipString r

theorem length_le_of_skipString {bs r : Bytes} (h : skipString bs = .ok r) :
    r.length ≤ bs.length := by
  fun_induction skipString bs <;> simp_all <;> omega

/-! ## Values -/

/-- Passes over a value that opens no bracket, given its first byte. -/
def skipScalar (b : UInt8) (rest : Bytes) : Skip :=
  if b = '"'.toUInt8 then skipString rest
  else if b = '-'.toUInt8 then skipNumber rest
  else if isDigit b then skipNumber (b :: rest)
  else if b = 'n'.toUInt8 then skipIdent (Bytes.ofAscii "ull") rest
  else if b = 't'.toUInt8 then skipIdent (Bytes.ofAscii "rue") rest
  else if b = 'f'.toUInt8 then skipIdent (Bytes.ofAscii "alse") rest
  else .error (.on .expectedValue (b :: rest))

theorem length_le_of_skipScalar {b : UInt8} {rest r : Bytes} (h : skipScalar b rest = .ok r) :
    r.length ≤ rest.length := by
  unfold skipScalar at h
  split at h
  · exact length_le_of_skipString h
  split at h
  · exact Nat.le_of_lt (length_lt_of_skipNumber h)
  split at h
  · exact Nat.le_of_lt_succ (length_lt_of_skipNumber h)
  split at h
  · exact length_le_of_skipIdent h
  split at h
  · exact length_le_of_skipIdent h
  split at h
  · exact length_le_of_skipIdent h
  · cases h

/-- An open bracket. -/
inductive Frame where
  | list
  | object
deriving DecidableEq, Repr

namespace Frame

def closer : Frame → UInt8
  | list => ']'.toUInt8
  | object => '\x7d'.toUInt8

def eof : Frame → Cause
  | list => .eofInList
  | object => .eofInObject

def expectedMore : Frame → Cause
  | list => .expectedCommaOrBracket
  | object => .expectedCommaOrBrace

/-- The frame that a byte opens. -/
def ofOpener? (b : UInt8) : Option Frame :=
  if b = '['.toUInt8 then some list
  else if b = '\x7b'.toUInt8 then some object
  else none

end Frame

def skipColon (bs : Bytes) : Skip :=
  match skipSpace bs with
  | [] => .error (.on .eofInObject [])
  | b :: r => if b = ':'.toUInt8 then .ok r else .error (.on .expectedColon (b :: r))

/-- Passes over what stands before a value inside the bracket: nothing in a list, a key and a
colon in an object. -/
def skipLabel (f : Frame) (bs : Bytes) : Skip :=
  match f with
  | .list => .ok bs
  | .object =>
    match skipSpace bs with
    | [] => .error (.on .eofInObject [])
    | b :: r =>
      if b = '"'.toUInt8 then skipString r >>= skipColon
      else .error (.on .keyMustBeString (b :: r))

theorem length_le_of_skipColon {bs r : Bytes} (h : skipColon bs = .ok r) :
    r.length ≤ bs.length := by
  have hs := length_skipSpace_le bs
  unfold skipColon at h
  split at h
  · cases h
  · next b t ht =>
    rw [ht, List.length_cons] at hs
    split at h
    · cases h; omega
    · cases h

theorem length_le_of_skipLabel {f : Frame} {bs r : Bytes} (h : skipLabel f bs = .ok r) :
    r.length ≤ bs.length := by
  have hs := length_skipSpace_le bs
  unfold skipLabel at h
  split at h
  · cases h; exact Nat.le_refl _
  · split at h
    · cases h
    · next b t ht =>
      rw [ht, List.length_cons] at hs
      split at h
      · cases hq : skipString t with
        | error e => rw [hq] at h; cases h
        | ok q =>
          rw [hq] at h
          have h₁ := length_le_of_skipString hq
          have h₂ := length_le_of_skipColon h
          omega
      · cases h

/-- Where the reader stands: before a value, after the opening of a bracket, or after a value. -/
inductive Stage where
  | value
  | opened (f : Frame)
  | done
deriving DecidableEq, Repr

def Stage.rank : Stage → Nat
  | opened _ => 1
  | _ => 0

/-- Reads on until the value is complete and no bracket is open. -/
def skipFrom (stage : Stage) (stack : List Frame) (bs : Bytes) : Skip :=
  match stage with
  | .value =>
    match _hs : skipSpace bs with
    | [] => .error (.on .eofInValue [])
    | b :: r =>
      match Frame.ofOpener? b with
      | some f => skipFrom (.opened f) stack r
      | none =>
        match _hr : skipScalar b r with
        | .error e => .error e
        | .ok r' => skipFrom .done stack r'
  | .opened f =>
    match _hs : skipSpace bs with
    | [] => .error (.on f.eof [])
    | b :: r =>
      if b = f.closer then skipFrom .done stack r
      else
        match _hr : skipLabel f (b :: r) with
        | .error e => .error e
        | .ok r' => skipFrom .value (f :: stack) r'
  | .done =>
    match stack with
    | [] => .ok bs
    | f :: fs =>
      match _hs : skipSpace bs with
      | [] => .error (.on f.eof [])
      | b :: r =>
        if b = f.closer then skipFrom .done fs r
        else if b = ','.toUInt8 then
          match _hr : skipLabel f r with
          | .error e => .error e
          | .ok r' => skipFrom .value (f :: fs) r'
        else .error (.on f.expectedMore (b :: r))
termination_by 2 * bs.length + stage.rank
decreasing_by
  all_goals
    have hl := length_skipSpace_le bs
    rw [_hs, List.length_cons] at hl
    simp only [Stage.rank]
  · omega
  · have := length_le_of_skipScalar _hr
    omega
  · omega
  · have := length_le_of_skipLabel _hr
    simp only [List.length_cons] at this
    omega
  · omega
  · have := length_le_of_skipLabel _hr
    omega

/-- Passes over white space and one value. -/
def skipValue (bs : Bytes) : Skip := skipFrom .value [] bs

theorem length_le_of_skipFrom {stage : Stage} {stack : List Frame} {bs r : Bytes}
    (h : skipFrom stage stack bs = .ok r) : r.length ≤ bs.length := by
  fun_induction skipFrom stage stack bs with
  | case1 => cases h
  | case2 stack bs b t ht f hf ih =>
    have hs := length_skipSpace_le bs
    rw [ht, List.length_cons] at hs
    have := ih h
    omega
  | case3 => cases h
  | case4 stack bs b t ht hf t' hr ih =>
    have hs := length_skipSpace_le bs
    rw [ht, List.length_cons] at hs
    have := length_le_of_skipScalar hr
    have := ih h
    omega
  | case5 => cases h
  | case6 stack bs f t ht ih =>
    have hs := length_skipSpace_le bs
    rw [ht, List.length_cons] at hs
    have := ih h
    omega
  | case7 => cases h
  | case8 stack bs f b t ht hb t' hr ih =>
    have hs := length_skipSpace_le bs
    rw [ht] at hs
    have := length_le_of_skipLabel hr
    have := ih h
    omega
  | case9 => cases h; exact Nat.le_refl _
  | case10 => cases h
  | case11 bs f fs t ht ih =>
    have hs := length_skipSpace_le bs
    rw [ht, List.length_cons] at hs
    have := ih h
    omega
  | case12 => cases h
  | case13 bs f fs t t' hr ht hc ih =>
    have hs := length_skipSpace_le bs
    rw [ht, List.length_cons] at hs
    have := length_le_of_skipLabel hr
    have := ih h
    omega
  | case14 => cases h

theorem length_le_of_skipValue {bs r : Bytes} (h : skipValue bs = .ok r) :
    r.length ≤ bs.length := length_le_of_skipFrom h

/-- Fails unless only white space is left. -/
def expectEnd (bs : Bytes) : Except Fault Unit :=
  match skipSpace bs with
  | [] => .ok ()
  | b :: r => .error (.on .trailingCharacters (b :: r))

/-- Whether the bytes are one JSON value and white space. -/
def isValue (bs : Bytes) : Bool :=
  match skipValue bs >>= expectEnd with
  | .ok _ => true
  | .error _ => false

end ProxyWarden.Json

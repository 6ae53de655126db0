import ProxyWarden.Bytes

/-!
# UTF-8

A character is written as one to four bytes. Reading goes one step at a time: a step takes the
character at the front, or else the longest ill-formed part that stands in its place (a lead byte
with the tail bytes that could still have continued it). Strict reading stops at the first such
part, lenient reading puts U+FFFD for each.
-/
namespace ProxyWarden.Utf8

def encodeChar (c : Char) : Bytes :=
  let n := c.toNat
  if n < 0x80 then [n.toUInt8]
  else if n < 0x800 then [(0xC0 + n / 64).toUInt8, (0x80 + n % 64).toUInt8]
  else if n < 0x10000 then
    [(0xE0 + n / 4096).toUInt8, (0x80 + n / 64 % 64).toUInt8, (0x80 + n % 64).toUInt8]
  else
    [(0xF0 + n / 262144).toUInt8, (0x80 + n / 4096 % 64).toUInt8,
      (0x80 + n / 64 % 64).toUInt8, (0x80 + n % 64).toUInt8]

def encodeList (cs : List Char) : Bytes := cs.flatMap encodeChar

def encode (s : String) : Bytes := encodeList s.toList

def isTail (b : UInt8) : Bool := 0x80 ≤ b && b ≤ 0xBF

/-- Whether `b` may follow the lead byte: this excludes overlong forms, surrogates and values
above U+10FFFF. -/
def mayFollow (lead b : UInt8) : Bool :=
  if lead = 0xE0 then 0xA0 ≤ b && b ≤ 0xBF
  else if lead = 0xED then 0x80 ≤ b && b ≤ 0x9F
  else if lead = 0xF0 then 0x90 ≤ b && b ≤ 0xBF
  else if lead = 0xF4 then 0x80 ≤ b && b ≤ 0x8F
  else isTail b

/-- The bits that a tail byte carries. -/
def tailBits (b : UInt8) : Nat := b.toNat - 0x80

/-- What stands at the front of `b :: rest`, and the bytes after it; `none` is an ill-formed part. -/
def step (b : UInt8) (rest : Bytes) : Option Char × Bytes :=
  if b < 0x80 then (some (Char.ofNat b.toNat), rest)
  else if b < 0xC2 then (none, rest)
  else if b < 0xE0 then
    match rest with
    | c :: r =>
      if mayFollow b c then (some (Char.ofNat ((b.toNat - 0xC0) * 64 + tailBits c)), r)
      else (none, rest)
    | [] => (none, [])
  else if b < 0xF0 then
    match rest with
    | c :: r =>
      if mayFollow b c then
        match r with
        | d :: r' =>
          if isTail d then
            (some (Char.ofNat ((b.toNat - 0xE0) * 4096 + tailBits c * 64 + tailBits d)), r')
          else (none, r)
        | [] => (none, [])
      else (none, rest)
    | [] => (none, [])
  else if b < 0xF5 then
    match rest with
    | c :: r =>
      if mayFollow b c then
        match r with
        | d :: r' =>
          if isTail d then
            match r' with
            | e :: r'' =>
              if isTail e then
                (some (Char.ofNat ((b.toNat - 0xF0) * 262144 + tailBits c * 4096
                  + tailBits d * 64 + tailBits e)), r'')
              else (none, r')
            | [] => (none, [])
          else (none, r)
        | [] => (none, [])
      else (none, rest)
    | [] => (none, [])
  else (none, rest)

theorem step_length_le (b : UInt8) (rest : Bytes) : (step b rest).2.length ≤ rest.length := by
  unfold step
  repeat' split
  all_goals first | exact Nat.le_refl _ | (simp only [List.length_cons]; omega)

/-- Reads characters onto `acc` (last first); the bytes from the first ill-formed part on are the
error. -/
def decodeOnto (acc : List Char) (bs : Bytes) : Except Bytes (List Char) :=
  match bs with
  | [] => .ok acc.reverse
  | b :: rest =>
    match _h : step b rest with
    | (some c, r) => decodeOnto (c :: acc) r
    | (none, _) => .error (b :: rest)
termination_by bs.length
decreasing_by
  have hr : r.length ≤ rest.length := by simpa [_h] using step_length_le b rest
  simp only [List.length_cons]
  omega

/-- Strict reading: the text, or the bytes from the first ill-formed part on. -/
def decode (bs : Bytes) : Except Bytes String := (decodeOnto [] bs).map String.ofList

def decode? (bs : Bytes) : Option String := (decode bs).toOption

def replacement : Char := Char.ofNat 0xFFFD

def lossyOnto (acc : List Char) (bs : Bytes) : List Char :=
  match bs with
  | [] => acc.reverse
  | b :: rest =>
    match _h : step b rest with
    | (c, r) => lossyOnto (c.getD replacement :: acc) r
termination_by bs.length
decreasing_by
  have hr : r.length ≤ rest.length := by simpa [_h] using step_length_le b rest
  simp only [List.length_cons]
  omega

/-- Lenient reading: U+FFFD stands for each ill-formed part. -/
def lossy (bs : Bytes) : String := String.ofList (lossyOnto [] bs)

end ProxyWarden.Utf8

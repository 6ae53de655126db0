import ProxyWarden.Json.Members

/-!
# Fields of records

A record is read from an object or from a list. In an object unknown fields are passed over and the
known ones must each stand once; a list holds the values in a fixed order. `readRecord?` reads a
whole text this way, given a reader for one field.
-/
namespace ProxyWarden.Json

theorem length_le_of_text {bs r rest : Bytes} {b : UInt8} {s : String} (hs : skipSpace bs = b :: r)
    (hr : readString r = .ok (s, rest)) : rest.length ≤ bs.length := by
  have h₁ := length_skipSpace_le bs
  have h₂ := length_lt_of_readString hr
  rw [hs, List.length_cons] at h₁
  omega

def readText (bs : Bytes) : Read String bs :=
  match hs : skipSpace bs with
  | [] => .error (.on .eofInValue [])
  | b :: r =>
    if b = '"'.toUInt8 then
      match hr : readString r with
      | .error e => .error e
      | .ok (s, rest) => .ok ⟨s, rest, length_le_of_text hs hr⟩
    else .error (.on .badRecord (b :: r))

def passOver {σ : Type} (s : σ) (bs : Bytes) : Read σ bs :=
  match h : skipValue bs with
  | .error e => .error e
  | .ok rest => .ok ⟨s, rest, length_le_of_skipValue h⟩

/-- The bytes after a byte that must come next, white space apart. -/
def expectByte (want : UInt8) (bs : Bytes) : Except Fault Bytes :=
  match skipSpace bs with
  | [] => .error (.on .eofInObject [])
  | b :: r => if b = want then .ok r else .error (.on .badRecord (b :: r))

theorem length_le_of_expectByte {want : UInt8} {bs r : Bytes} (h : expectByte want bs = .ok r) :
    r.length + 1 ≤ bs.length := by
  have hs := length_skipSpace_le bs
  unfold expectByte at h
  split at h
  · cases h
  · next b t ht =>
    rw [ht, List.length_cons] at hs
    split at h
    · cases h; exact hs
    · cases h

/-- Takes the value of one field; `old` is what the field holds already. -/
def readOnce {σ α : Type} {bs : Bytes} (old : Option α) (read : Read α bs) (put : Option α → σ) :
    Read σ bs :=
  match old with
  | some _ => .error (.at .badRecord bs)
  | none =>
    match read with
    | .error e => .error e
    | .ok v => .ok ⟨put (some v.value), v.rest, v.length_le⟩

/-- The values of the list form from the given fields on, after the opening bracket or a comma. -/
def readItems {σ : Type} (field : σ → String → (bs : Bytes) → Read σ bs) (s : σ) :
    List String → Bytes → Except Fault (σ × Bytes)
  | [], bs => .ok (s, bs)
  | key :: keys, bs =>
    match field s key bs with
    | .error e => .error e
    | .ok v =>
      match expectByte (if keys.isEmpty then ']'.toUInt8 else ','.toUInt8) v.rest with
      | .error e => .error e
      | .ok rest => readItems field v.value keys rest

/-- Reads a record from a whole text. The fields stand in the given order in the list form, and
`complete?` looks whether any is missing. -/
def readRecord? {σ α : Type} (field : σ → String → (bs : Bytes) → Read σ bs) (empty : σ)
    (order : List String) (complete? : σ → Option α) (text : Bytes) : Option α :=
  match skipSpace text with
  | [] => none
  | b :: r =>
    if b = '['.toUInt8 then
      match readItems field empty order r with
      | .error _ => none
      | .ok (s, rest) =>
        match expectEnd rest with
        | .error _ => none
        | .ok _ => complete? s
    else
      match readObject field empty (fun c t => .on .badRecord (c :: t)) text with
      | .error _ => none
      | .ok s => complete? s

end ProxyWarden.Json

import ProxyWarden.Json.Quote

/-!
# Members of an object

`readMembers` walks over the members of an object from the outside in: it decodes each key and
leaves the value to the caller's reader, which folds it into a state. A reader returns the bytes
after what it took with the proof that they are no more than it was given, which is why the walk
ends.
-/
namespace ProxyWarden.Json

/-- What a reader took from the front of `bs`. -/
structure Taken (α : Type) (bs : Bytes) where
  value : α
  rest : Bytes
  length_le : rest.length ≤ bs.length

abbrev Read (α : Type) (bs : Bytes) := Except Fault (Taken α bs)

/-- The bytes from the next key on, after the separator that must stand before it. -/
def nextKey (first : Bool) (b : UInt8) (r : Bytes) : Except Fault Bytes :=
  if first then .ok (b :: r)
  else if b = ','.toUInt8 then
    match skipSpace r with
    | [] => .error (.on .eofInValue [])
    | c :: t => if c = '\x7d'.toUInt8 then .error (.on .trailingComma (c :: t)) else .ok (c :: t)
  else .error (.on .expectedCommaOrBrace (b :: r))

theorem length_le_of_nextKey {first : Bool} {b : UInt8} {r t : Bytes}
    (h : nextKey first b r = .ok t) : t.length ≤ r.length + 1 := by
  unfold nextKey at h
  split at h
  · cases h; simp
  split at h
  · have hs := length_skipSpace_le r
    split at h
    · cases h
    · next c u hu =>
      rw [hu] at hs
      split at h
      · cases h
      · cases h; omega
  · cases h

/-- A key at the front and the colon after it. -/
def readKey : Bytes → Except Fault (String × Bytes)
  | [] => .error (.on .keyMustBeString [])
  | c :: t =>
    if c = '"'.toUInt8 then
      match readString t with
      | .error e => .error e
      | .ok (key, t') =>
        match skipColon t' with
        | .error e => .error e
        | .ok t'' => .ok (key, t'')
    else .error (.on .keyMustBeString (c :: t))

theorem length_lt_of_readKey {bs t : Bytes} {key : String} (h : readKey bs = .ok (key, t)) :
    t.length + 1 < bs.length := by
  unfold readKey at h
  split at h
  · cases h
  · split at h
    · split at h
      · cases h
      · next key' t' hk =>
        have h₁ := length_lt_of_readString hk
        split at h
        · cases h
        · next t'' hc =>
          cases h
          have h₂ := length_le_of_skipColon hc
          simp only [List.length_cons]
          omega
    · cases h

/-- Folds the members from here to the closing brace into `s`; returns what follows the brace. -/
def readMembers {σ : Type} (member : σ → String → (bs : Bytes) → Read σ bs) (s : σ) (first : Bool)
    (bs : Bytes) : Except Fault (σ × Bytes) :=
  match _hs : skipSpace bs with
  | [] => .error (.on .eofInObject [])
  | b :: r =>
    if b = '\x7d'.toUInt8 then .ok (s, r)
    else
      match _hn : nextKey first b r with
      | .error e => .error e
      | .ok t =>
        match _hk : readKey t with
        | .error e => .error e
        | .ok (key, t') =>
          match member s key t' with
          | .error e => .error e
          | .ok v => readMembers member v.value false v.rest
termination_by bs.length
decreasing_by
  have h₁ := length_skipSpace_le bs
  have h₂ := length_le_of_nextKey _hn
  have h₃ := length_lt_of_readKey _hk
  have h₄ := v.length_le
  rw [_hs, List.length_cons] at h₁
  omega

/-- Reads a whole text as an object, with nothing but white space around it. The reader `other`
tells what is wrong with a text that starts with another byte than an opening brace. -/
def readObject {σ : Type} (member : σ → String → (bs : Bytes) → Read σ bs) (s : σ)
    (other : UInt8 → Bytes → Fault) (bs : Bytes) : Except Fault σ :=
  match skipSpace bs with
  | [] => .error (.on .eofInValue [])
  | b :: r =>
    if b = '\x7b'.toUInt8 then
      match readMembers member s true r with
      | .error e => .error e
      | .ok (s', rest) =>
        match expectEnd rest with
        | .error e => .error e
        | .ok _ => .ok s'
    else .error (other b r)

end ProxyWarden.Json

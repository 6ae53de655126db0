import Mathlib.Tactic.Conv
import ProxyWarden.Json.Members
import ProxyWarden.Json.Value
import ProxyWarden.Proofs.Json.Strings

/-!
# Objects as they are written

An object whose fields are texts is one JSON value (`isValue_textObject`), and the reader of members
hands its fields to the caller in their order (`readObject_textObject`). Before that stand the
single steps of both readers, each under the name of what is found at the front.
-/
namespace ProxyWarden.Json

theorem skipSpace_cons {b : UInt8} (h : isSpace b = false) (r : Bytes) :
    skipSpace (b :: r) = b :: r := by
  simp [skipSpace, h]

/-! ## Single steps -/

section
variable {stack : List Frame} {f : Frame} {bs r r' : Bytes} {b : UInt8}

theorem skipFrom_value_scalar (hs : skipSpace bs = b :: r) (hf : Frame.ofOpener? b = none)
    (hr : skipScalar b r = .ok r') : skipFrom .value stack bs = skipFrom .done stack r' := by
  conv_lhs => rw [skipFrom]
  split
  · next h => cases hs.symm.trans h
  · next h =>
      cases hs.symm.trans h
      rw [hf]
      dsimp only
      split
      · next h' => cases hr.symm.trans h'
      · next h' =>
          cases hr.symm.trans h'
          rfl

theorem skipFrom_value_open (hs : skipSpace bs = b :: r) (hf : Frame.ofOpener? b = some f) :
    skipFrom .value stack bs = skipFrom (.opened f) stack r := by
  conv_lhs => rw [skipFrom]
  split
  · next h => cases hs.symm.trans h
  · next h =>
      cases hs.symm.trans h
      rw [hf]

theorem skipFrom_opened (hs : skipSpace bs = b :: r) (hb : b ≠ f.closer)
    (hl : skipLabel f (b :: r) = .ok r') :
    skipFrom (.opened f) stack bs = skipFrom .value (f :: stack) r' := by
  conv_lhs => rw [skipFrom]
  split
  · next h => cases hs.symm.trans h
  · next h =>
      cases hs.symm.trans h
      rw [if_neg hb]
      split
      · next h' => cases hl.symm.trans h'
      · next h' =>
          cases hl.symm.trans h'
          rfl

theorem skipFrom_opened_close (hs : skipSpace bs = f.closer :: r) :
    skipFrom (.opened f) stack bs = skipFrom .done stack r := by
  conv_lhs => rw [skipFrom]
  split
  · next h => cases hs.symm.trans h
  · next h =>
      cases hs.symm.trans h
      rw [if_pos rfl]

theorem skipFrom_done_comma (hs : skipSpace bs = ','.toUInt8 :: r) (hl : skipLabel f r = .ok r') :
    skipFrom .done (f :: stack) bs = skipFrom .value (f :: stack) r' := by
  have hcomma : ','.toUInt8 ≠ f.closer := by cases f <;> decide
  conv_lhs => rw [skipFrom]
  split
  · next h => cases hs.symm.trans h
  · next h =>
      cases hs.symm.trans h
      rw [if_neg hcomma, if_pos rfl]
      split
      · next h' => cases hl.symm.trans h'
      · next h' =>
          cases hl.symm.trans h'
          rfl

theorem skipFrom_done_close (hs : skipSpace bs = f.closer :: r) :
    skipFrom .done (f :: stack) bs = skipFrom .done stack r := by
  conv_lhs => rw [skipFrom]
  split
  · next h => cases hs.symm.trans h
  · next h =>
      cases hs.symm.trans h
      rw [if_pos rfl]

theorem skipFrom_done_nil (bs : Bytes) : skipFrom .done [] bs = .ok bs := by
  rw [skipFrom]

end

section
variable {σ : Type} {member : σ → String → (bs : Bytes) → Read σ bs} {s : σ} {first : Bool}
variable {bs r t t' : Bytes} {b : UInt8} {key : String}

theorem readMembers_close (hs : skipSpace bs = '\x7d'.toUInt8 :: r) :
    readMembers member s first bs = .ok (s, r) := by
  rw [readMembers]
  split
  · next h => cases hs.symm.trans h
  · next h =>
      cases hs.symm.trans h
      rw [if_pos rfl]

theorem readMembers_field (hs : skipSpace bs = b :: r) (hb : b ≠ '\x7d'.toUInt8)
    (hn : nextKey first b r = .ok t) (hk : readKey t = .ok (key, t')) {v : Taken σ t'}
    (hm : member s key t' = .ok v) :
    readMembers member s first bs = readMembers member v.value false v.rest := by
  conv_lhs => rw [readMembers]
  split
  · next h => cases hs.symm.trans h
  · next h =>
      cases hs.symm.trans h
      rw [if_neg hb]
      split
      · next h' => cases hn.symm.trans h'
      · next h' =>
          cases hn.symm.trans h'
          split
          · next h'' => cases hk.symm.trans h''
          · next h'' =>
              cases hk.symm.trans h''
              rw [hm]

end

/-! ## Objects of texts -/

def textField (f : String × String) : String × Value := (f.1, .string f.2)

def quotedThen (s : String) (rest : Bytes) : Bytes :=
  '"'.toUInt8 :: (body s ++ '"'.toUInt8 :: rest)

/-- The bytes of the further fields of an object at the front of others, with its closing brace. -/
def fieldsThen (rest : Bytes) : List (String × String) → Bytes
  | [] => '\x7d'.toUInt8 :: rest
  | f :: fs =>
    ','.toUInt8 :: quotedThen f.1 (':'.toUInt8 :: quotedThen f.2 (fieldsThen rest fs))

theorem encodeList_writeFields (fs : List (String × String)) (rest : Bytes) :
    Utf8.encodeList (Value.writeFields (fs.map textField)) ++ rest = fieldsThen rest fs := by
  have hbrace : Utf8.encodeChar '\x7d' = ['\x7d'.toUInt8] := rfl
  have hcomma : Utf8.encodeChar ',' = [','.toUInt8] := rfl
  have hcolon : Utf8.encodeChar ':' = [':'.toUInt8] := rfl
  induction fs with
  | nil => simp [Value.writeFields, fieldsThen, hbrace]
  | cons f fs ih =>
      simp only [List.map_cons, textField, Value.writeFields, Value.write, Utf8.encodeList_cons,
        Utf8.encodeList_append, List.append_assoc, hcomma, hcolon, encodeList_writeString, ih,
        fieldsThen, quotedThen, List.cons_append, List.nil_append]

theorem encodeList_write_object (f : String × String) (fs : List (String × String))
    (rest : Bytes) :
    Utf8.encodeList (Value.object ((f :: fs).map textField)).write ++ rest =
      '\x7b'.toUInt8 :: quotedThen f.1 (':'.toUInt8 :: quotedThen f.2 (fieldsThen rest fs)) := by
  have hbrace : Utf8.encodeChar '\x7b' = ['\x7b'.toUInt8] := rfl
  have hcolon : Utf8.encodeChar ':' = [':'.toUInt8] := rfl
  simp only [List.map_cons, textField, Value.write, Utf8.encodeList_cons,
    Utf8.encodeList_append, List.append_assoc, hbrace, hcolon, encodeList_writeString,
    encodeList_writeFields, quotedThen, List.cons_append, List.nil_append]

theorem le_of_mem_quotedThen {s : String} {rest : Bytes} (h : ∀ b ∈ rest, 0x20 ≤ b.toNat) :
    ∀ b ∈ quotedThen s rest, 0x20 ≤ b.toNat := by
  intro b hb
  rw [quotedThen, List.mem_cons, List.mem_append, List.mem_cons] at hb
  rcases hb with rfl | hb | rfl | hb
  · decide
  · exact le_of_mem_body hb
  · decide
  · exact h b hb

theorem le_of_mem_fieldsThen (fs : List (String × String)) :
    ∀ b ∈ fieldsThen [] fs, 0x20 ≤ b.toNat := by
  induction fs with
  | nil =>
      intro b hb
      rw [fieldsThen, List.mem_singleton] at hb
      rw [hb]
      decide
  | cons f fs ih =>
      rw [fieldsThen, List.forall_mem_cons]
      refine ⟨by decide, le_of_mem_quotedThen ?_⟩
      rw [List.forall_mem_cons]
      exact ⟨by decide, le_of_mem_quotedThen ih⟩

theorem le_of_mem_textObject {f : String × String} {fs : List (String × String)} :
    ∀ b ∈ Utf8.encodeList (Value.object ((f :: fs).map textField)).write, 0x20 ≤ b.toNat := by
  rw [← List.append_nil (Utf8.encodeList _), encodeList_write_object, List.forall_mem_cons]
  refine ⟨by decide, le_of_mem_quotedThen ?_⟩
  rw [List.forall_mem_cons]
  exact ⟨by decide, le_of_mem_quotedThen (le_of_mem_fieldsThen fs)⟩

theorem exists_fieldsThen_eq (fs : List (String × String)) :
    ∃ r, fieldsThen [] fs = r ++ ['\x7d'.toUInt8] := by
  induction fs with
  | nil => exact ⟨[], rfl⟩
  | cons f fs ih =>
      obtain ⟨r, hr⟩ := ih
      refine ⟨','.toUInt8 :: quotedThen f.1 (':'.toUInt8 :: quotedThen f.2 r), ?_⟩
      simp only [fieldsThen, hr, quotedThen, List.cons_append, List.append_assoc]

/-- An object stands between its braces. -/
theorem exists_textObject_eq (f : String × String) (fs : List (String × String)) :
    ∃ r, Utf8.encodeList (Value.object ((f :: fs).map textField)).write =
      '\x7b'.toUInt8 :: (r ++ ['\x7d'.toUInt8]) := by
  obtain ⟨r, hr⟩ := exists_fieldsThen_eq fs
  refine ⟨quotedThen f.1 (':'.toUInt8 :: quotedThen f.2 r), ?_⟩
  rw [← List.append_nil (Utf8.encodeList _), encodeList_write_object, hr]
  simp only [quotedThen, List.cons_append, List.append_assoc]

theorem skipSpace_quotedThen (s : String) (r : Bytes) :
    skipSpace (quotedThen s r) = '"'.toUInt8 :: (body s ++ '"'.toUInt8 :: r) :=
  skipSpace_cons (by decide) _

theorem skipColon_colon (r : Bytes) : skipColon (':'.toUInt8 :: r) = .ok r := by
  rw [skipColon, skipSpace_cons (by decide)]
  rfl

theorem skipLabel_quotedThen (key : String) (r : Bytes) :
    skipLabel .object (quotedThen key (':'.toUInt8 :: r)) = .ok r := by
  simp only [skipLabel]
  rw [skipSpace_quotedThen]
  simp only [if_true, skipString_body]
  exact skipColon_colon r

theorem skipFrom_quotedThen (stack : List Frame) (s : String) (r : Bytes) :
    skipFrom .value stack (quotedThen s r) = skipFrom .done stack r := by
  refine skipFrom_value_scalar (skipSpace_quotedThen s r) (by decide) ?_
  exact (if_pos rfl).trans (skipString_body s r)

theorem skipFrom_fieldsThen (stack : List Frame) (rest : Bytes) (fs : List (String × String)) :
    skipFrom .done (.object :: stack) (fieldsThen rest fs) = skipFrom .done stack rest := by
  induction fs with
  | nil => exact skipFrom_done_close (skipSpace_cons (by decide) _)
  | cons f fs ih =>
      rw [fieldsThen, skipFrom_done_comma (skipSpace_cons (by decide) _)
        (skipLabel_quotedThen f.1 _), skipFrom_quotedThen, ih]

theorem skipValue_quotedThen (s : String) (r : Bytes) : skipValue (quotedThen s r) = .ok r := by
  rw [skipValue, skipFrom_quotedThen, skipFrom_done_nil]

theorem skipValue_textObject (f : String × String) (fs : List (String × String)) (rest : Bytes) :
    skipValue (Utf8.encodeList (Value.object ((f :: fs).map textField)).write ++ rest) =
      .ok rest := by
  rw [encodeList_write_object, skipValue,
    skipFrom_value_open (skipSpace_cons (by decide) _) (f := .object) rfl,
    skipFrom_opened (skipSpace_quotedThen f.1 _) (by decide) (skipLabel_quotedThen f.1 _),
    skipFrom_quotedThen, skipFrom_fieldsThen, skipFrom_done_nil]

theorem isValue_textObject (f : String × String) (fs : List (String × String)) :
    isValue (Utf8.encodeList (Value.object ((f :: fs).map textField)).write) = true := by
  have hskip := skipValue_textObject f fs []
  rw [List.append_nil] at hskip
  unfold isValue
  rw [hskip]
  rfl

/-! ## Reading the fields -/

section
variable {σ : Type} {member : σ → String → (bs : Bytes) → Read σ bs}

/-- The reader of members takes a text under a key, whatever follows it. -/
def Takes (member : σ → String → (bs : Bytes) → Read σ bs) (s : σ) (f : String × String)
    (s' : σ) : Prop :=
  ∀ rest, ∃ h, member s f.1 (quotedThen f.2 rest) = .ok ⟨s', rest, h⟩

inductive TakesAll (member : σ → String → (bs : Bytes) → Read σ bs) :
    σ → List (String × String) → σ → Prop where
  | nil (s : σ) : TakesAll member s [] s
  | cons {s s' s'' : σ} {f : String × String} {fs : List (String × String)} :
      Takes member s f s' → TakesAll member s' fs s'' → TakesAll member s (f :: fs) s''

theorem readKey_quotedThen (key : String) (r : Bytes) :
    readKey (quotedThen key (':'.toUInt8 :: r)) = .ok (key, r) := by
  simp only [quotedThen, readKey, if_true, readString_body, skipColon_colon]

theorem nextKey_comma (key : String) (r : Bytes) :
    nextKey false ','.toUInt8 (quotedThen key r) = .ok (quotedThen key r) := by
  simp only [nextKey, Bool.false_eq_true, if_false, if_true]
  rw [skipSpace_quotedThen]
  rfl

theorem readMembers_fieldsThen {s s' : σ} {fs : List (String × String)}
    (h : TakesAll member s fs s') (rest : Bytes) :
    readMembers member s false (fieldsThen rest fs) = .ok (s', rest) := by
  induction h with
  | nil s => exact readMembers_close (skipSpace_cons (by decide) _)
  | @cons s u v f fs htake _ ih =>
      obtain ⟨hle, hmember⟩ := htake (fieldsThen rest fs)
      rw [fieldsThen, readMembers_field (skipSpace_cons (by decide) _) (by decide)
        (nextKey_comma f.1 _) (readKey_quotedThen f.1 _) hmember]
      exact ih

/-- The fields of a written object are handed over in their order, and nothing else is. -/
theorem readObject_textObject {s s' : σ} {f : String × String} {fs : List (String × String)}
    (h : TakesAll member s (f :: fs) s') (other : UInt8 → Bytes → Fault) :
    readObject member s other (Utf8.encodeList (Value.object ((f :: fs).map textField)).write) =
      .ok s' := by
  have hbytes := encodeList_write_object f fs []
  rw [List.append_nil] at hbytes
  cases h with
  | @cons _ u _ _ _ htake hrest =>
      obtain ⟨hle, hmember⟩ := htake (fieldsThen [] fs)
      have hmembers : readMembers member s true
          (quotedThen f.1 (':'.toUInt8 :: quotedThen f.2 (fieldsThen [] fs))) = .ok (s', []) := by
        rw [readMembers_field (skipSpace_quotedThen f.1 _) (by decide) rfl
          (readKey_quotedThen f.1 _) hmember]
        exact readMembers_fieldsThen hrest []
      rw [hbytes, readObject, skipSpace_cons (by decide)]
      simp only [if_true, hmembers]
      rfl

end

end ProxyWarden.Json

import ProxyWarden.Json.Fields
import ProxyWarden.Proofs.Json.Objects

/-!
# Records of texts

What a reader of a field takes is said once for each reader. A text that was written for a field is
taken and a text of another field is passed over, so a record whose fields are texts is read back as
soon as each of them is taken (`readRecord?_textObject`).
-/
namespace ProxyWarden.Json

variable {bs x : Bytes}

/-! ## What each reader takes -/

theorem readText_eq_ok_iff {s : String} : (∃ h, readText bs = .ok ⟨s, x, h⟩) ↔
    ∃ y, skipSpace bs = '"'.toUInt8 :: y ∧ readString y = .ok (s, x) := by
  unfold readText
  constructor
  · rintro ⟨hle, h⟩
    split at h
    · cases h
    · next b y hs =>
        split_ifs at h with hb
        split at h
        · cases h
        · next hr =>
            cases h
            exact ⟨y, hs.trans (by rw [hb]), hr⟩
  · rintro ⟨y, hs, hr⟩
    refine ⟨length_le_of_text hs hr, ?_⟩
    split
    · next h => cases hs.symm.trans h
    · next h =>
        cases hs.symm.trans h
        rw [if_pos rfl]
        split
        · next h' => cases hr.symm.trans h'
        · next h' =>
            cases hr.symm.trans h'
            rfl

theorem passOver_eq_ok_iff {σ : Type} {s v : σ} :
    (∃ h, passOver s bs = .ok ⟨v, x, h⟩) ↔ v = s ∧ skipValue bs = .ok x := by
  unfold passOver
  constructor
  · rintro ⟨hle, h⟩
    split at h
    · cases h
    · next hskip =>
        cases h
        exact ⟨rfl, hskip⟩
  · rintro ⟨rfl, hskip⟩
    refine ⟨length_le_of_skipValue hskip, ?_⟩
    split
    · next h => cases hskip.symm.trans h
    · next h =>
        cases hskip.symm.trans h
        rfl

theorem readOnce_eq_ok_iff {σ α : Type} {old : Option α} {read : Read α bs} {put : Option α → σ}
    {v : σ} : (∃ h, readOnce old read put = .ok ⟨v, x, h⟩) ↔
      old = none ∧ ∃ a, put (some a) = v ∧ ∃ h, read = .ok ⟨a, x, h⟩ := by
  unfold readOnce
  constructor
  · rintro ⟨hle, h⟩
    split at h
    · cases h
    · split at h
      · cases h
      · next t =>
          cases h
          exact ⟨rfl, t.value, rfl, t.length_le, rfl⟩
  · rintro ⟨rfl, a, rfl, hle, rfl⟩
    exact ⟨hle, rfl⟩

theorem expectByte_eq_ok_iff {b : UInt8} : expectByte b bs = .ok x ↔ skipSpace bs = b :: x := by
  unfold expectByte
  constructor
  · intro h
    split at h
    · cases h
    · next c r hs =>
        split_ifs at h with hc
        cases h
        rw [hs, hc]
  · intro h
    rw [h]
    exact if_pos rfl

/-! ## Fields that are texts -/

theorem readText_quotedThen (s : String) (rest : Bytes) :
    ∃ h, readText (quotedThen s rest) = .ok ⟨s, rest, h⟩ :=
  readText_eq_ok_iff.2 ⟨_, skipSpace_quotedThen s rest, readString_body s rest⟩

section
variable {σ : Type} {field : σ → String → (bs : Bytes) → Read σ bs} {s : σ} {key : String}

/-- A field that is still missing is filled. -/
theorem takes_of_readOnce {α : Type} {value : String} {v : α} {read : (bs : Bytes) → Read α bs}
    {put : Option α → σ} (hfield : ∀ bs, field s key bs = readOnce none (read bs) put)
    (hread : ∀ rest, ∃ h, read (quotedThen value rest) = .ok ⟨v, rest, h⟩) :
    Takes field s (key, value) (put (some v)) := by
  intro rest
  have honce := readOnce_eq_ok_iff.2 ⟨Eq.refl none, v, Eq.refl (put (some v)), hread rest⟩
  dsimp only
  rw [hfield]
  exact honce

/-- A field that the record does not have is passed over. -/
theorem takes_of_passOver (hfield : ∀ bs, field s key bs = passOver s bs) (value : String) :
    Takes field s (key, value) s := by
  intro rest
  have hpass := passOver_eq_ok_iff.2 ⟨Eq.refl s, skipValue_quotedThen value rest⟩
  dsimp only
  rw [hfield]
  exact hpass

theorem readRecord?_textObject {α : Type} {s' : σ} {f : String × String}
    {fs : List (String × String)} (h : TakesAll field s (f :: fs) s') (order : List String)
    (complete? : σ → Option α) :
    readRecord? field s order complete?
        (Utf8.encodeList (Value.object ((f :: fs).map textField)).write) = complete? s' := by
  obtain ⟨r, hr⟩ := exists_textObject_eq f fs
  have hbytes : skipSpace (Utf8.encodeList (Value.object ((f :: fs).map textField)).write) =
      '\x7b'.toUInt8 :: (r ++ ['\x7d'.toUInt8]) := by
    rw [hr]
    exact skipSpace_cons (by decide) _
  have hread := readObject_textObject h (fun c t => .on .badRecord (c :: t))
  unfold readRecord?
  rw [hbytes]
  dsimp only
  rw [if_neg (by decide), hread]

end

end ProxyWarden.Json

import Mathlib.Tactic.ByContra
import ProxyWarden.Proofs.Text.Encoding

/-!
# The order of texts

Texts are ordered by their characters, and their encodings by their bytes. Both orders are the same
(`encode_lt_encode_iff`): the encodings of two characters differ at a byte that is less for the lesser
character, whatever follows them.
-/
namespace ProxyWarden.Utf8

/-- The encoding of a lesser character comes first, whatever follows. -/
theorem encodeChar_append_lt {c d : Char} (h : c.toNat < d.toNat) (x y : Bytes) :
    encodeChar c ++ x < encodeChar d ++ y := by
  have hc := toNat_not_surrogate c
  have hd := toNat_not_surrogate d
  unfold encodeChar
  dsimp only
  split_ifs
  all_goals
    simp (disch := omega) only [List.cons_append, List.nil_append, List.cons_lt_cons_iff,
      UInt8.lt_iff_toNat_lt, ← UInt8.toNat_inj, toNat_toUInt8]
    omega

theorem append_lt_append {p x y : Bytes} (h : x < y) : p ++ x < p ++ y := by
  induction p with
  | nil => exact h
  | cons b p ih =>
      rw [List.cons_append, List.cons_append, List.cons_lt_cons_iff]
      exact .inr ⟨rfl, ih⟩

theorem encodeList_lt_encodeList {cs ds : List Char} (h : cs < ds) :
    encodeList cs < encodeList ds := by
  induction ds generalizing cs with
  | nil => exact absurd h (List.not_lt_nil cs)
  | cons d ds ih =>
      cases cs with
      | nil =>
          obtain ⟨b, tail, hbytes, -⟩ := step_encodeChar d
          rw [encodeList_cons, hbytes]
          exact List.nil_lt_cons b _
      | cons c cs =>
          rw [encodeList_cons, encodeList_cons]
          rcases List.cons_lt_cons_iff.1 h with hlt | ⟨rfl, hlt⟩
          · exact encodeChar_append_lt hlt _ _
          · exact append_lt_append (ih hlt)

/-- The order of texts is the order of their bytes. -/
theorem encode_lt_encode_iff {s t : String} : encode s < encode t ↔ s < t := by
  have hmono : ∀ {s t : String}, s < t → encode s < encode t := by
    intro s t h
    exact encodeList_lt_encodeList (String.lt_iff.1 h)
  constructor
  · intro h
    by_contra hnot
    by_cases heq : t = s
    · rw [heq] at h
      exact List.lt_irrefl _ h
    · have hlt : t < s := Std.lt_of_le_of_ne (String.not_lt.1 hnot) heq
      exact List.lt_asymm h (hmono hlt)
  · exact hmono

end ProxyWarden.Utf8

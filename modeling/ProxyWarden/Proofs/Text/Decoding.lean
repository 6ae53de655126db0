import ProxyWarden.Proofs.Text.Encoding

/-!
# Decoding and encoding

What strict reading accepts is the encoding of what it returns: a step that yields a character took
exactly the bytes of that character (`eq_encodeChar_of_step`), because overlong forms and surrogates
are refused. So a text and its bytes determine each other (`decode?_eq_some_iff`).
-/
namespace ProxyWarden.Utf8

/-! ## One character -/

theorem toNat_ofNat {n : Nat} (h : n < 0xD800 ∨ (0xDFFF < n ∧ n < 0x110000)) :
    (Char.ofNat n).toNat = n := by
  have hvalid : n.isValidChar := h
  rw [Char.ofNat, dif_pos hvalid]
  rfl

theorem toUInt8_eq {b : UInt8} {n : Nat} (h : n = b.toNat) : n.toUInt8 = b := by
  have hlt := b.toNat_lt
  rw [← UInt8.toNat_inj, toNat_toUInt8 (by omega), h]

section
variable {b b₁ b₂ b₃ : UInt8}

theorem encodeChar_one (h : b.toNat < 0x80) : encodeChar (Char.ofNat b.toNat) = [b] := by
  have hn : (Char.ofNat b.toNat).toNat = b.toNat := toNat_ofNat (by omega)
  rw [encodeChar_of_lt (by omega), hn, toUInt8_eq rfl]

theorem encodeChar_two (hlo : 0xC2 ≤ b.toNat) (hhi : b.toNat < 0xE0)
    (h₁ : mayFollow b b₁ = true) :
    encodeChar (Char.ofNat ((b.toNat - 0xC0) * 64 + tailBits b₁)) = [b, b₁] := by
  rw [mayFollow_iff] at h₁
  have hn := toNat_ofNat (n := (b.toNat - 0xC0) * 64 + tailBits b₁) (by unfold tailBits; omega)
  unfold tailBits at hn ⊢
  unfold encodeChar
  simp only [hn]
  rw [if_neg (by omega), if_pos (by omega), toUInt8_eq (b := b) (by omega),
    toUInt8_eq (b := b₁) (by omega)]

theorem encodeChar_three (hlo : 0xE0 ≤ b.toNat) (hhi : b.toNat < 0xF0)
    (h₁ : mayFollow b b₁ = true) (h₂ : isTail b₂ = true) :
    encodeChar (Char.ofNat ((b.toNat - 0xE0) * 4096 + tailBits b₁ * 64 + tailBits b₂)) =
      [b, b₁, b₂] := by
  rw [mayFollow_iff] at h₁
  rw [isTail_iff] at h₂
  have hn := toNat_ofNat (n := (b.toNat - 0xE0) * 4096 + tailBits b₁ * 64 + tailBits b₂)
    (by unfold tailBits; omega)
  unfold tailBits at hn ⊢
  unfold encodeChar
  simp only [hn]
  rw [if_neg (by omega), if_neg (by omega), if_pos (by omega), toUInt8_eq (b := b) (by omega),
    toUInt8_eq (b := b₁) (by omega), toUInt8_eq (b := b₂) (by omega)]

theorem encodeChar_four (hlo : 0xF0 ≤ b.toNat) (hhi : b.toNat < 0xF5)
    (h₁ : mayFollow b b₁ = true) (h₂ : isTail b₂ = true) (h₃ : isTail b₃ = true) :
    encodeChar (Char.ofNat ((b.toNat - 0xF0) * 262144 + tailBits b₁ * 4096 + tailBits b₂ * 64 +
      tailBits b₃)) = [b, b₁, b₂, b₃] := by
  rw [mayFollow_iff] at h₁
  rw [isTail_iff] at h₂ h₃
  have hn := toNat_ofNat (n := (b.toNat - 0xF0) * 262144 + tailBits b₁ * 4096 + tailBits b₂ * 64 +
    tailBits b₃) (by unfold tailBits; omega)
  unfold tailBits at hn ⊢
  unfold encodeChar
  simp only [hn]
  rw [if_neg (by omega), if_neg (by omega), if_neg (by omega), toUInt8_eq (b := b) (by omega),
    toUInt8_eq (b := b₁) (by omega), toUInt8_eq (b := b₂) (by omega),
    toUInt8_eq (b := b₃) (by omega)]

end

/-- A step that yields a character took exactly the bytes of that character. -/
theorem eq_encodeChar_of_step {b : UInt8} {rest r : Bytes} {c : Char}
    (h : step b rest = (some c, r)) : b :: rest = encodeChar c ++ r := by
  have hnot : ∀ {p : Bytes}, (none, p) ≠ (some c, r) := by simp
  unfold step at h
  simp only [UInt8.lt_iff_toNat_lt, UInt8.reduceToNat] at h
  split_ifs at h with hone hnone htwo hthree hfour
  · obtain ⟨hc, rfl⟩ := Prod.mk.inj h
    rw [← Option.some.inj hc, encodeChar_one hone]
    rfl
  · exact absurd h hnot
  · split at h
    · next b₁ r₁ =>
        split_ifs at h with h₁
        · obtain ⟨hc, rfl⟩ := Prod.mk.inj h
          rw [← Option.some.inj hc, encodeChar_two (by omega) htwo h₁]
          rfl
        · exact absurd h hnot
    · exact absurd h hnot
  · split at h
    · next b₁ r₁ =>
        split_ifs at h with h₁
        · split at h
          · next b₂ r₂ =>
              split_ifs at h with h₂
              · obtain ⟨hc, rfl⟩ := Prod.mk.inj h
                rw [← Option.some.inj hc, encodeChar_three (by omega) hthree h₁ h₂]
                rfl
              · exact absurd h hnot
          · exact absurd h hnot
        · exact absurd h hnot
    · exact absurd h hnot
  · split at h
    · next b₁ r₁ =>
        split_ifs at h with h₁
        · split at h
          · next b₂ r₂ =>
              split_ifs at h with h₂
              · split at h
                · next b₃ r₃ =>
                    split_ifs at h with h₃
                    · obtain ⟨hc, rfl⟩ := Prod.mk.inj h
                      rw [← Option.some.inj hc, encodeChar_four (by omega) hfour h₁ h₂ h₃]
                      rfl
                    · exact absurd h hnot
                · exact absurd h hnot
              · exact absurd h hnot
          · exact absurd h hnot
        · exact absurd h hnot
    · exact absurd h hnot
  · exact absurd h hnot

/-! ## A whole text -/

theorem eq_encodeList_of_decodeOnto {acc cs : List Char} {bs : Bytes}
    (h : decodeOnto acc bs = .ok cs) : ∃ ds, cs = acc.reverse ++ ds ∧ bs = encodeList ds := by
  fun_induction decodeOnto acc bs with
  | case1 acc =>
      cases h
      exact ⟨[], (List.append_nil _).symm, rfl⟩
  | case2 acc b rest c r hstep ih =>
      obtain ⟨ds, hcs, hr⟩ := ih h
      refine ⟨c :: ds, ?_, ?_⟩
      · rw [hcs, List.reverse_cons, List.append_assoc]
        rfl
      · rw [eq_encodeChar_of_step hstep, hr, encodeList_cons]
  | case3 => cases h

/-- A text is read from its own encoding and from no other bytes. -/
theorem decode?_eq_some_iff {bs : Bytes} {s : String} : decode? bs = some s ↔ bs = encode s := by
  constructor
  · intro h
    unfold decode? decode at h
    cases hcs : decodeOnto [] bs with
    | error e =>
        rw [hcs] at h
        cases h
    | ok cs =>
        rw [hcs] at h
        cases h
        obtain ⟨ds, hds, hbs⟩ := eq_encodeList_of_decodeOnto hcs
        rw [List.reverse_nil, List.nil_append] at hds
        rw [hbs, encode, String.toList_ofList, hds]
  · rintro rfl
    rw [decode?, decode_encode]
    rfl

theorem lossyOnto_encodeList (acc cs : List Char) :
    lossyOnto acc (encodeList cs) = acc.reverse ++ cs := by
  induction cs generalizing acc with
  | nil => simp [lossyOnto]
  | cons c cs ih =>
      obtain ⟨b, tail, hbytes, hstep⟩ := step_encodeChar c
      rw [encodeList_cons, hbytes, List.cons_append, lossyOnto, hstep]
      dsimp only
      rw [ih]
      simp

/-- Lenient reading of what was written replaces nothing. -/
theorem lossy_encode (s : String) : lossy (encode s) = s := by
  rw [lossy, encode, lossyOnto_encodeList]
  simp

theorem decode?_encode (s : String) : decode? (encode s) = some s :=
  decode?_eq_some_iff.2 rfl

theorem encode_inj {s t : String} (h : encode s = encode t) : s = t := by
  have hs := decode?_encode s
  rw [h, decode?_encode] at hs
  exact (Option.some.inj hs).symm

end ProxyWarden.Utf8

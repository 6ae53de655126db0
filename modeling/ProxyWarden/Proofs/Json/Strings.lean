import ProxyWarden.Json.Quote
import ProxyWarden.Proofs.Text.Encoding

/-!
# Strings as they are written

A written string is read back, passed over as one string, and holds no control byte, whatever its
characters are. `Escaped` lists the three ways in which a character is written; each fact about
strings is a fact about these.
-/
namespace ProxyWarden.Json

/-- A byte that stands for itself inside a string. -/
def IsPlain (b : UInt8) : Prop := b ≠ '"'.toUInt8 ∧ b ≠ '\\'.toUInt8 ∧ 0x20 ≤ b.toNat

/-- The bytes that stand for a character inside a string. -/
inductive Escaped (c : Char) : Bytes → Prop where
  | plain : (∀ b ∈ Utf8.encodeChar c, IsPlain b) → Escaped c (Utf8.encodeChar c)
  | letter (e x : UInt8) : escapedByte? e = some x → Utf8.encodeChar c = [x] →
      Escaped c ['\\'.toUInt8, e]
  | digits (h₁ h₂ h₃ h₄ : UInt8) : hexValue4? h₁ h₂ h₃ h₄ = some c.toNat → c.toNat < 0x20 →
      (∀ b ∈ [h₁, h₂, h₃, h₄], 0x20 ≤ b.toNat) →
      Escaped c ['\\'.toUInt8, 'u'.toUInt8, h₁, h₂, h₃, h₄]

/-! ## How a character is written -/

theorem isPlain_of_mem_encodeChar {c : Char} (hquote : c ≠ '"') (hslash : c ≠ '\\')
    (hle : 0x20 ≤ c.toNat) : ∀ b ∈ Utf8.encodeChar c, IsPlain b := by
  intro b hb
  have hother : ∀ d : Char, d.toNat < 0x80 → c ≠ d → b ≠ d.toNat.toUInt8 := by
    intro d hd hne heq
    have hbd : b.toNat = d.toNat := by rw [heq, Utf8.toNat_toUInt8 (by omega)]
    by_cases hascii : c.toNat < 0x80
    · rw [Utf8.encodeChar_of_lt hascii, List.mem_singleton] at hb
      rw [hb, Utf8.toNat_toUInt8 (by omega)] at hbd
      exact hne (Char.toNat_inj.1 hbd)
    · have hbeyond := Utf8.le_of_mem_encodeChar (by omega) b hb
      omega
  refine ⟨hother '"' (by decide) hquote, hother '\\' (by decide) hslash, ?_⟩
  by_cases hascii : c.toNat < 0x80
  · rw [Utf8.encodeChar_of_lt hascii, List.mem_singleton] at hb
    rw [hb, Utf8.toNat_toUInt8 (by omega)]
    exact hle
  · have hbeyond := Utf8.le_of_mem_encodeChar (by omega) b hb
    omega

theorem hexDigit_spec : ∀ n < 16, ∃ b, Utf8.encodeChar (Bytes.hexDigit n) = [b] ∧
    hexValue? b = some n ∧ 0x20 ≤ b.toNat := by
  intro n hn
  refine ⟨(Bytes.hexDigit n).toNat.toUInt8, ?_, ?_, ?_⟩
  · revert n
    decide
  · revert n
    decide
  · revert n
    decide

theorem escaped_controlEscape {c : Char} (h : c.toNat < 0x20) :
    Escaped c (Utf8.encodeList (controlEscape c.toNat)) := by
  obtain ⟨hi, hhi, hhiv, hhip⟩ := hexDigit_spec (c.toNat / 16) (by omega)
  obtain ⟨lo, hlo, hlov, hlop⟩ := hexDigit_spec (c.toNat % 16) (by omega)
  have hbytes : Utf8.encodeList (controlEscape c.toNat) =
      ['\\'.toUInt8, 'u'.toUInt8, '0'.toUInt8, '0'.toUInt8, hi, lo] := by
    simp only [controlEscape, Utf8.encodeList_cons, Utf8.encodeList_nil, hhi, hlo]
    rfl
  have hzero : hexValue? '0'.toUInt8 = some 0 := rfl
  have hvalue : hexValue4? '0'.toUInt8 '0'.toUInt8 hi lo = some c.toNat := by
    simp only [hexValue4?, hzero, hhiv, hlov]
    change some (0 * 4096 + 0 * 256 + c.toNat / 16 * 16 + c.toNat % 16) = some c.toNat
    congr 1
    omega
  rw [hbytes]
  refine .digits _ _ _ _ hvalue h ?_
  simp only [List.forall_mem_cons, List.not_mem_nil, false_implies, implies_true, and_true]
  exact ⟨by decide, by decide, hhip, hlop⟩

theorem escaped_letter {c : Char} {n : Nat} (hc : c.toNat = n) (hn : n < 0x80) (e : Char)
    (hbytes : Utf8.encodeList ['\\', e] = ['\\'.toUInt8, e.toUInt8])
    (he : escapedByte? e.toUInt8 = some n.toUInt8) :
    Escaped c (Utf8.encodeList ['\\', e]) := by
  have hbyte : Utf8.encodeChar c = [n.toUInt8] := by rw [Utf8.encodeChar_of_lt (by omega), hc]
  rw [hbytes]
  exact .letter _ _ he hbyte

theorem escaped_escapeChar (c : Char) : Escaped c (Utf8.encodeList (escapeChar c)) := by
  unfold escapeChar
  split_ifs with hquote hslash hcontrol h08 h09 h0A h0C h0D
  · exact escaped_letter (n := 0x22) (by rw [hquote]; rfl) (by decide) '"' rfl rfl
  · exact escaped_letter (n := 0x5C) (by rw [hslash]; rfl) (by decide) '\\' rfl rfl
  · exact escaped_letter h08 (by decide) 'b' rfl rfl
  · exact escaped_letter h09 (by decide) 't' rfl rfl
  · exact escaped_letter h0A (by decide) 'n' rfl rfl
  · exact escaped_letter h0C (by decide) 'f' rfl rfl
  · exact escaped_letter h0D (by decide) 'r' rfl rfl
  · exact escaped_controlEscape hcontrol
  · rw [Utf8.encodeList_cons, Utf8.encodeList_nil, List.append_nil]
    exact .plain (isPlain_of_mem_encodeChar hquote hslash (by omega))

/-! ## Single steps of the readers -/

section
variable {b e x h₁ h₂ h₃ h₄ : UInt8} {n : Nat}

theorem IsPlain.not_lt (h : IsPlain b) : ¬ b < 0x20 := by
  have hle := h.2.2
  simpa [UInt8.lt_iff_toNat_lt] using hle

theorem unescapeOnto_plain (h : IsPlain b) (acc r : Bytes) :
    unescapeOnto acc (b :: r) = unescapeOnto (b :: acc) r := by
  rw [unescapeOnto.eq_def]
  simp only [h.1, h.2.1, h.not_lt, if_false]

theorem unescapeOnto_letter (h : escapedByte? e = some x) (acc r : Bytes) :
    unescapeOnto acc ('\\'.toUInt8 :: e :: r) = unescapeOnto (x :: acc) r := by
  have hslash : '\\'.toUInt8 ≠ '"'.toUInt8 := by decide
  rw [unescapeOnto.eq_def]
  simp only [hslash, h, if_false, if_true]

theorem unescapeOnto_digits (h : hexValue4? h₁ h₂ h₃ h₄ = some n) (ht : isTrailing n = false)
    (hl : isLeading n = false) (acc r : Bytes) :
    unescapeOnto acc ('\\'.toUInt8 :: 'u'.toUInt8 :: h₁ :: h₂ :: h₃ :: h₄ :: r) =
      unescapeOnto ((Utf8.encodeChar (Char.ofNat n)).reverse ++ acc) r := by
  have hslash : '\\'.toUInt8 ≠ '"'.toUInt8 := by decide
  have hu : escapedByte? 'u'.toUInt8 = none := by decide
  rw [unescapeOnto.eq_def]
  simp only [hslash, hu, h, ht, hl, Bool.false_eq_true, if_false, if_true]

theorem skipString_plain (h : IsPlain b) (r : Bytes) : skipString (b :: r) = skipString r := by
  rw [skipString.eq_def]
  simp only [h.1, h.2.1, h.not_lt, if_false]

theorem skipString_letter (h : isEscapeLetter e = true) (r : Bytes) :
    skipString ('\\'.toUInt8 :: e :: r) = skipString r := by
  have hslash : '\\'.toUInt8 ≠ '"'.toUInt8 := by decide
  rw [skipString.eq_def]
  simp only [hslash, h, if_false, if_true]

theorem skipString_digits (h : (hexValue4? h₁ h₂ h₃ h₄).isSome = true) (r : Bytes) :
    skipString ('\\'.toUInt8 :: 'u'.toUInt8 :: h₁ :: h₂ :: h₃ :: h₄ :: r) = skipString r := by
  have hslash : '\\'.toUInt8 ≠ '"'.toUInt8 := by decide
  have hu : isEscapeLetter 'u'.toUInt8 = false := by decide
  rw [skipString.eq_def]
  simp only [hslash, hu, h, Bool.false_eq_true, if_false, if_true]

/-- A letter that stands for something after a backslash is one of those that may stand there. -/
theorem isEscapeLetter_of_escapedByte? (h : escapedByte? e = some x) :
    isEscapeLetter e = true ∧ 0x20 ≤ e.toNat := by
  unfold escapedByte? at h
  split_ifs at h with hself hb hf hn hr ht
  · rcases hself with rfl | rfl | rfl <;> decide
  all_goals
    subst_vars
    decide

end

/-! ## How a character is read -/

namespace Escaped

variable {c : Char} {bs : Bytes}

theorem unescapeOnto_eq (h : Escaped c bs) (acc rest : Bytes) :
    unescapeOnto acc (bs ++ rest) = unescapeOnto ((Utf8.encodeChar c).reverse ++ acc) rest := by
  cases h with
  | plain hplain =>
      generalize Utf8.encodeChar c = p at hplain
      induction p generalizing acc with
      | nil => rfl
      | cons b p ih =>
          rw [List.forall_mem_cons] at hplain
          rw [List.cons_append, unescapeOnto_plain hplain.1, ih _ hplain.2]
          simp
  | letter e x he hbyte =>
      rw [hbyte]
      exact unescapeOnto_letter he acc rest
  | digits h₁ h₂ h₃ h₄ hvalue hlt _ =>
      have ht : isTrailing c.toNat = false := by
        simp only [isTrailing, Bool.and_eq_false_iff, decide_eq_false_iff_not]
        omega
      have hl : isLeading c.toNat = false := by
        simp only [isLeading, Bool.and_eq_false_iff, decide_eq_false_iff_not]
        omega
      have hread := unescapeOnto_digits hvalue ht hl acc rest
      rwa [Char.ofNat_toNat] at hread

theorem skipString_eq (h : Escaped c bs) (rest : Bytes) :
    skipString (bs ++ rest) = skipString rest := by
  cases h with
  | plain hplain =>
      generalize Utf8.encodeChar c = p at hplain
      induction p with
      | nil => rfl
      | cons b p ih =>
          rw [List.forall_mem_cons] at hplain
          rw [List.cons_append, skipString_plain hplain.1]
          exact ih hplain.2
  | letter e x he _ => exact skipString_letter (isEscapeLetter_of_escapedByte? he).1 rest
  | digits h₁ h₂ h₃ h₄ hvalue _ _ =>
      exact skipString_digits (by rw [hvalue]; rfl) rest

theorem not_control (h : Escaped c bs) : ∀ b ∈ bs, 0x20 ≤ b.toNat := by
  cases h with
  | plain hplain => exact fun b hb => (hplain b hb).2.2
  | letter e x he _ =>
      simp only [List.forall_mem_cons, List.not_mem_nil, false_implies, implies_true, and_true]
      exact ⟨by decide, (isEscapeLetter_of_escapedByte? he).2⟩
  | digits h₁ h₂ h₃ h₄ _ _ hdigits =>
      rw [List.forall_mem_cons, List.forall_mem_cons]
      exact ⟨by decide, by decide, hdigits⟩

end Escaped

/-! ## Whole strings -/

/-- What stands between the quotes of a written string. -/
def body (s : String) : Bytes := Utf8.encodeList (s.toList.flatMap escapeChar)

theorem encodeList_writeString (s : String) (rest : Bytes) :
    Utf8.encodeList (writeString s) ++ rest = '"'.toUInt8 :: (body s ++ '"'.toUInt8 :: rest) := by
  have hquote : Utf8.encodeChar '"' = ['"'.toUInt8] := rfl
  simp [writeString, body, hquote]

theorem unescapeOnto_body (cs : List Char) (acc rest : Bytes) :
    unescapeOnto acc (Utf8.encodeList (cs.flatMap escapeChar) ++ '"'.toUInt8 :: rest) =
      .ok (acc.reverse ++ Utf8.encodeList cs, rest) := by
  induction cs generalizing acc with
  | nil =>
      rw [List.flatMap_nil, Utf8.encodeList_nil, List.nil_append, unescapeOnto.eq_def]
      simp
  | cons c cs ih =>
      rw [List.flatMap_cons, Utf8.encodeList_append, List.append_assoc,
        (escaped_escapeChar c).unescapeOnto_eq, ih]
      simp

/-- A written string is read back, whatever follows it. -/
theorem readString_body (s : String) (rest : Bytes) :
    readString (body s ++ '"'.toUInt8 :: rest) = .ok (s, rest) := by
  have hread := unescapeOnto_body s.toList [] rest
  have hdecode : Utf8.decode? (Utf8.encodeList s.toList) = some s := by
    change (Utf8.decode (Utf8.encode s)).toOption = some s
    rw [Utf8.decode_encode]
    rfl
  rw [List.reverse_nil, List.nil_append] at hread
  simp only [readString, body, hread, hdecode]

theorem skipString_body (s : String) (rest : Bytes) :
    skipString (body s ++ '"'.toUInt8 :: rest) = .ok rest := by
  unfold body
  induction s.toList with
  | nil =>
      rw [List.flatMap_nil, Utf8.encodeList_nil, List.nil_append, skipString.eq_def]
      simp
  | cons c cs ih =>
      rw [List.flatMap_cons, Utf8.encodeList_append, List.append_assoc,
        (escaped_escapeChar c).skipString_eq]
      exact ih

/-- No byte of a written string is a control, so a record cannot break a line. -/
theorem le_of_mem_body {s : String} {b : UInt8} (hb : b ∈ body s) : 0x20 ≤ b.toNat := by
  unfold body at hb
  generalize s.toList = cs at hb
  induction cs with
  | nil => cases hb
  | cons c cs ih =>
      rw [List.flatMap_cons, Utf8.encodeList_append, List.mem_append] at hb
      rcases hb with hb | hb
      · exact (escaped_escapeChar c).not_control b hb
      · exact ih hb

end ProxyWarden.Json

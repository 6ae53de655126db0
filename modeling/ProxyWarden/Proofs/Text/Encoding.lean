import Mathlib.Tactic.SplitIfs
import ProxyWarden.Text.Utf8

/-!
# Encoding and decoding

What is written as UTF-8 is read back: one step of the reader takes exactly the bytes of one
character (`step_encodeChar`), so strict reading inverts `encode` (`decode_encode`).
-/
namespace ProxyWarden.Utf8

/-! ## Bytes as numbers -/

theorem toNat_toUInt8 {n : Nat} (h : n < 256) : n.toUInt8.toNat = n := by
  simp [Nat.toUInt8, Nat.mod_eq_of_lt h]

theorem isTail_iff (b : UInt8) : isTail b = true ↔ 0x80 ≤ b.toNat ∧ b.toNat ≤ 0xBF := by
  simp [isTail, UInt8.le_iff_toNat_le]

theorem mayFollow_iff (lead b : UInt8) : mayFollow lead b = true ↔
    (0x80 ≤ b.toNat ∧ b.toNat ≤ 0xBF) ∧ (lead.toNat = 0xE0 → 0xA0 ≤ b.toNat) ∧
      (lead.toNat = 0xED → b.toNat ≤ 0x9F) ∧ (lead.toNat = 0xF0 → 0x90 ≤ b.toNat) ∧
      (lead.toNat = 0xF4 → b.toNat ≤ 0x8F) := by
  unfold mayFollow
  simp only [isTail, ← UInt8.toNat_inj, UInt8.le_iff_toNat_le, UInt8.reduceToNat]
  split_ifs <;> simp only [Bool.and_eq_true, decide_eq_true_eq] <;> omega

theorem isTail_of_toNat {b : UInt8} {n : Nat} (h : b.toNat = 0x80 + n % 64) : isTail b = true := by
  rw [isTail_iff]
  omega

theorem tailBits_of_toNat {b : UInt8} {n : Nat} (h : b.toNat = 0x80 + n % 64) :
    tailBits b = n % 64 := by
  unfold tailBits
  omega

/-! ## One character -/

section
variable {b b₁ b₂ b₃ : UInt8} {c : Char}

theorem step_one (h : b.toNat = c.toNat) (hc : c.toNat < 0x80) (rest : Bytes) :
    step b rest = (some c, rest) := by
  have hlow : b < 0x80 := by simpa [UInt8.lt_iff_toNat_lt, h] using hc
  simp [step, hlow, h]

theorem step_two (h : b.toNat = 0xC0 + c.toNat / 64) (h₁ : b₁.toNat = 0x80 + c.toNat % 64)
    (hlo : 0x80 ≤ c.toNat) (hhi : c.toNat < 0x800) (rest : Bytes) :
    step b (b₁ :: rest) = (some c, rest) := by
  have hfollow : mayFollow b b₁ = true := by
    rw [mayFollow_iff]
    omega
  have hsum : (b.toNat - 0xC0) * 64 + tailBits b₁ = c.toNat := by
    rw [tailBits_of_toNat h₁]
    omega
  have hsize : ¬ b < 0x80 ∧ ¬ b < 0xC2 ∧ b < 0xE0 := by
    simp only [UInt8.lt_iff_toNat_lt, UInt8.reduceToNat]
    omega
  simp [step, hsize, hfollow, hsum]

theorem step_three (h : b.toNat = 0xE0 + c.toNat / 4096)
    (h₁ : b₁.toNat = 0x80 + c.toNat / 64 % 64) (h₂ : b₂.toNat = 0x80 + c.toNat % 64)
    (hlo : 0x800 ≤ c.toNat) (hhi : c.toNat < 0x10000)
    (hsurrogate : c.toNat < 0xD800 ∨ 0xDFFF < c.toNat) (rest : Bytes) :
    step b (b₁ :: b₂ :: rest) = (some c, rest) := by
  have hfollow : mayFollow b b₁ = true := by
    rw [mayFollow_iff]
    omega
  have htail : isTail b₂ = true := isTail_of_toNat h₂
  have hsum : (b.toNat - 0xE0) * 4096 + tailBits b₁ * 64 + tailBits b₂ = c.toNat := by
    rw [tailBits_of_toNat h₁, tailBits_of_toNat h₂]
    omega
  have hsize : ¬ b < 0x80 ∧ ¬ b < 0xC2 ∧ ¬ b < 0xE0 ∧ b < 0xF0 := by
    simp only [UInt8.lt_iff_toNat_lt, UInt8.reduceToNat]
    omega
  simp [step, hsize, hfollow, htail, hsum]

theorem step_four (h : b.toNat = 0xF0 + c.toNat / 262144)
    (h₁ : b₁.toNat = 0x80 + c.toNat / 4096 % 64) (h₂ : b₂.toNat = 0x80 + c.toNat / 64 % 64)
    (h₃ : b₃.toNat = 0x80 + c.toNat % 64) (hlo : 0x10000 ≤ c.toNat) (hhi : c.toNat < 0x110000)
    (rest : Bytes) : step b (b₁ :: b₂ :: b₃ :: rest) = (some c, rest) := by
  have hfollow : mayFollow b b₁ = true := by
    rw [mayFollow_iff]
    omega
  have htail₂ : isTail b₂ = true := isTail_of_toNat h₂
  have htail₃ : isTail b₃ = true := isTail_of_toNat h₃
  have hsum : (b.toNat - 0xF0) * 262144 + tailBits b₁ * 4096 + tailBits b₂ * 64 + tailBits b₃ =
      c.toNat := by
    rw [tailBits_of_toNat h₁, tailBits_of_toNat h₂, tailBits_of_toNat h₃]
    omega
  have hsize : ¬ b < 0x80 ∧ ¬ b < 0xC2 ∧ ¬ b < 0xE0 ∧ ¬ b < 0xF0 ∧ b < 0xF5 := by
    simp only [UInt8.lt_iff_toNat_lt, UInt8.reduceToNat]
    omega
  simp [step, hsize, hfollow, htail₂, htail₃, hsum]

end

theorem toNat_not_surrogate (c : Char) :
    c.toNat < 0xD800 ∨ (0xDFFF < c.toNat ∧ c.toNat < 0x110000) := c.valid

/-- One step of the reader takes exactly the bytes of one character. -/
theorem step_encodeChar (c : Char) :
    ∃ b tail, encodeChar c = b :: tail ∧ ∀ rest, step b (tail ++ rest) = (some c, rest) := by
  have hvalid := toNat_not_surrogate c
  unfold encodeChar
  by_cases h₁ : c.toNat < 0x80
  · rw [if_pos h₁]
    exact ⟨_, _, rfl, step_one (toNat_toUInt8 (by omega)) h₁⟩
  rw [if_neg h₁]
  by_cases h₂ : c.toNat < 0x800
  · rw [if_pos h₂]
    exact ⟨_, _, rfl, step_two (toNat_toUInt8 (by omega)) (toNat_toUInt8 (by omega)) (by omega) h₂⟩
  rw [if_neg h₂]
  by_cases h₃ : c.toNat < 0x10000
  · rw [if_pos h₃]
    exact ⟨_, _, rfl, step_three (toNat_toUInt8 (by omega)) (toNat_toUInt8 (by omega))
      (toNat_toUInt8 (by omega)) (by omega) h₃ (by omega)⟩
  · rw [if_neg h₃]
    exact ⟨_, _, rfl, step_four (toNat_toUInt8 (by omega)) (toNat_toUInt8 (by omega))
      (toNat_toUInt8 (by omega)) (toNat_toUInt8 (by omega)) (by omega) (by omega)⟩

theorem encodeChar_of_lt {c : Char} (h : c.toNat < 0x80) : encodeChar c = [c.toNat.toUInt8] :=
  if_pos h

/-- All bytes of a character beyond ASCII are beyond ASCII. -/
theorem le_of_mem_encodeChar {c : Char} (h : 0x80 ≤ c.toNat) :
    ∀ b ∈ encodeChar c, 0x80 ≤ b.toNat := by
  have hvalid := toNat_not_surrogate c
  have hbyte : ∀ n < 256, 0x80 ≤ n → 0x80 ≤ n.toUInt8.toNat := by
    intro n hn hle
    rwa [toNat_toUInt8 hn]
  unfold encodeChar
  rw [if_neg (by omega)]
  split_ifs
  · simp only [List.forall_mem_cons, List.not_mem_nil, false_implies, implies_true, and_true]
    exact ⟨hbyte _ (by omega) (by omega), hbyte _ (by omega) (by omega)⟩
  · simp only [List.forall_mem_cons, List.not_mem_nil, false_implies, implies_true, and_true]
    exact ⟨hbyte _ (by omega) (by omega), hbyte _ (by omega) (by omega),
      hbyte _ (by omega) (by omega)⟩
  · simp only [List.forall_mem_cons, List.not_mem_nil, false_implies, implies_true, and_true]
    exact ⟨hbyte _ (by omega) (by omega), hbyte _ (by omega) (by omega),
      hbyte _ (by omega) (by omega), hbyte _ (by omega) (by omega)⟩

/-! ## A whole text -/

@[simp] theorem encodeList_nil : encodeList [] = [] := rfl

@[simp] theorem encodeList_cons (c : Char) (cs : List Char) :
    encodeList (c :: cs) = encodeChar c ++ encodeList cs := rfl

@[simp] theorem encodeList_append (cs ds : List Char) :
    encodeList (cs ++ ds) = encodeList cs ++ encodeList ds := List.flatMap_append

theorem decodeOnto_cons {b : UInt8} {rest r : Bytes} {c : Char} (h : step b rest = (some c, r))
    (acc : List Char) : decodeOnto acc (b :: rest) = decodeOnto (c :: acc) r := by
  rw [decodeOnto]
  split
  · next c' r' h' =>
      rw [h] at h'
      cases h'
      rfl
  · next h' =>
      rw [h] at h'
      cases h'

theorem decodeOnto_encodeList (acc cs : List Char) :
    decodeOnto acc (encodeList cs) = .ok (acc.reverse ++ cs) := by
  induction cs generalizing acc with
  | nil => simp [decodeOnto]
  | cons c cs ih =>
      obtain ⟨b, tail, hbytes, hstep⟩ := step_encodeChar c
      rw [encodeList_cons, hbytes, List.cons_append, decodeOnto_cons (hstep _), ih]
      simp

/-- Strict reading inverts writing. -/
theorem decode_encode (s : String) : decode (encode s) = .ok s := by
  rw [decode, encode, decodeOnto_encodeList]
  simp [Except.map]

end ProxyWarden.Utf8

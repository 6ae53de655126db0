import Mathlib.Tactic.Ring
import Mathlib.Tactic.SplitIfs
import ProxyWarden.Proofs.Text.Encoding
import ProxyWarden.Traffic.Wire

/-!
# Words on the wire

A number is spelled in groups of seven bits, the lowest first, and every byte but the last one is
marked (`Spelled`). So no spelling is the beginning of another. A word is any spelling of up to ten
groups whose number has 64 bits (`WordText`): nothing else is read as a word (`readWord_eq_some_iff`),
every number of 64 bits is written as one (`wordText_writeWord`), and what is written of a longer
number is refused (`readWord_writeWord_append_of_le`).
-/
namespace ProxyWarden.Traffic.Wire

open Utf8 (toNat_toUInt8)

variable {m n groups place acc : Nat} {b : UInt8} {bs w v r s : Bytes}

/-- The bytes spell a number: seven bits each, the lowest first, all but the last byte marked. -/
inductive Spelled : Nat → Bytes → Prop
  | last {b : UInt8} : b.toNat < 128 → Spelled b.toNat [b]
  | more {b : UInt8} {n : Nat} {w : Bytes} : 128 ≤ b.toNat → Spelled n w →
      Spelled (b.toNat - 128 + 128 * n) (b :: w)

theorem Spelled.ne_nil (h : Spelled n w) : w ≠ [] := by
  cases h with
  | last _ => exact List.cons_ne_nil _ _
  | more _ _ => exact List.cons_ne_nil _ _

/-- Where a spelling ends does not depend on what follows. -/
theorem Spelled.unique (hn : Spelled n w) (hm : Spelled m v) (h : w ++ r = v ++ s) :
    n = m ∧ r = s := by
  induction hn generalizing m v with
  | last hb =>
      cases hm with
      | last _ =>
          obtain ⟨rfl, rfl⟩ := List.cons.inj h
          exact ⟨rfl, rfl⟩
      | more hc _ =>
          obtain ⟨rfl, -⟩ := List.cons.inj h
          exact absurd hb (Nat.not_lt.2 hc)
  | more hb _ ih =>
      cases hm with
      | last hc =>
          obtain ⟨rfl, -⟩ := List.cons.inj h
          exact absurd hc (Nat.not_lt.2 hb)
      | more _ hm =>
          obtain ⟨rfl, htail⟩ := List.cons.inj h
          obtain ⟨rfl, rfl⟩ := ih hm htail
          exact ⟨rfl, rfl⟩

/-! ## Reading -/

theorem readGroups_cons_of_lt (hb : b.toNat < 128) : readGroups place acc (groups + 1) (b :: bs) =
    if groups = 0 ∧ 2 ≤ b.toNat then none else some (acc + b.toNat * place, bs) := by
  simp only [readGroups, UInt8.lt_iff_toNat_lt, UInt8.le_iff_toNat_le, UInt8.reduceToNat, hb,
    if_true]

theorem readGroups_cons_of_le (hb : 128 ≤ b.toNat) : readGroups place acc (groups + 1) (b :: bs) =
    readGroups (place * 128) (acc + (b.toNat - 128) * place) groups bs := by
  simp only [readGroups, UInt8.lt_iff_toNat_lt, UInt8.reduceToNat, Nat.not_lt.2 hb, if_false]

theorem exists_spelled_of_readGroups (h : readGroups place acc (groups + 1) bs = some (m, r)) :
    ∃ n w, Spelled n w ∧ w.length ≤ groups + 1 ∧ n < 2 * 128 ^ groups ∧ bs = w ++ r ∧
      m = acc + n * place := by
  induction groups generalizing place acc bs with
  | zero =>
      cases bs with
      | nil => cases h
      | cons b t =>
          by_cases hb : b.toNat < 128
          · rw [readGroups_cons_of_lt hb] at h
            split_ifs at h with htop
            cases h
            exact ⟨_, [b], .last hb, Nat.le_refl _, by omega, rfl, rfl⟩
          · rw [readGroups_cons_of_le (Nat.not_lt.1 hb)] at h
            cases h
  | succ groups ih =>
      cases bs with
      | nil => cases h
      | cons b t =>
          by_cases hb : b.toNat < 128
          · rw [readGroups_cons_of_lt hb, if_neg (fun htop => Nat.succ_ne_zero _ htop.1)] at h
            cases h
            have hpos : 0 < 128 ^ groups := Nat.pow_pos (by decide)
            exact ⟨_, [b], .last hb, by simp, by rw [Nat.pow_succ]; omega, rfl, rfl⟩
          · have hbyte := b.toNat_lt
            rw [readGroups_cons_of_le (Nat.not_lt.1 hb)] at h
            obtain ⟨n, w, hspelled, hlength, hlt, rfl, rfl⟩ := ih h
            refine ⟨_, b :: w, .more (Nat.not_lt.1 hb) hspelled, Nat.succ_le_succ hlength, ?_,
              rfl, ?_⟩
            · rw [Nat.pow_succ]
              omega
            · ring

theorem Spelled.readGroups_append (h : Spelled n w) (hlength : w.length ≤ groups + 1)
    (hlt : n < 2 * 128 ^ groups) (place acc : Nat) (r : Bytes) :
    readGroups place acc (groups + 1) (w ++ r) = some (acc + n * place, r) := by
  induction h generalizing groups place acc with
  | last hb =>
      rw [List.singleton_append, readGroups_cons_of_lt hb, if_neg]
      rintro ⟨rfl, hle⟩
      omega
  | more hb hspelled ih =>
      have hpos := List.length_pos_iff.2 hspelled.ne_nil
      rw [List.length_cons] at hlength
      obtain ⟨groups, rfl⟩ : ∃ g, groups = g + 1 := ⟨groups - 1, by omega⟩
      rw [Nat.pow_succ] at hlt
      rw [List.cons_append, readGroups_cons_of_le hb, ih (by omega) (by omega)]
      congr 2
      ring

structure WordText (n : Nat) (w : Bytes) : Prop where
  spelled : Spelled n w
  length_le : w.length ≤ 10
  lt : n < Word.values64

theorem readWord_eq_some_iff : readWord bs = some (n, r) ↔ ∃ w, WordText n w ∧ bs = w ++ r := by
  have hvalues : 2 * 128 ^ 9 = Word.values64 := rfl
  constructor
  · intro h
    obtain ⟨m, w, hspelled, hlength, hlt, hbs, rfl⟩ := exists_spelled_of_readGroups h
    rw [Nat.zero_add, Nat.mul_one]
    exact ⟨w, ⟨hspelled, hlength, hvalues ▸ hlt⟩, hbs⟩
  · rintro ⟨w, h, rfl⟩
    rw [readWord, h.spelled.readGroups_append h.length_le (hvalues ▸ h.lt), Nat.zero_add, Nat.mul_one]

theorem WordText.readWord_append (h : WordText n w) (r : Bytes) : readWord (w ++ r) = some (n, r) :=
  readWord_eq_some_iff.2 ⟨w, h, rfl⟩

/-! ## Writing -/

theorem spelled_writeWord (n : Nat) : Spelled n (writeWord n) := by
  induction n using Nat.strongRecOn with
  | ind n ih =>
      rw [writeWord]
      split_ifs with hlt
      · have hbyte := toNat_toUInt8 (n := n) (by omega)
        have hlast := Spelled.last (b := n.toUInt8) (by omega)
        rwa [hbyte] at hlast
      · have hbyte := toNat_toUInt8 (n := n % 128 + 128) (by omega)
        have hmore := Spelled.more (b := (n % 128 + 128).toUInt8) (by omega) (ih (n / 128) (by omega))
        rwa [hbyte, Nat.add_sub_cancel, Nat.mod_add_div] at hmore

theorem length_writeWord_le (h : n < 128 ^ (groups + 1)) :
    (writeWord n).length ≤ groups + 1 := by
  induction groups generalizing n with
  | zero =>
      rw [writeWord, if_pos (by omega)]
      exact Nat.le_refl 1
  | succ groups ih =>
      rw [writeWord]
      split_ifs with hlt
      · exact Nat.succ_le_succ (Nat.zero_le _)
      · rw [Nat.pow_succ] at h
        exact Nat.succ_le_succ (ih (by omega))

theorem wordText_writeWord (h : n < Word.values64) : WordText n (writeWord n) where
  spelled := spelled_writeWord n
  length_le := by
    have hten : Word.values64 ≤ 128 ^ 10 := by decide
    exact length_writeWord_le (Nat.lt_of_lt_of_le h hten)
  lt := h

theorem readWord_writeWord_append_of_le (h : Word.values64 ≤ n) (r : Bytes) :
    readWord (writeWord n ++ r) = none := by
  cases hread : readWord (writeWord n ++ r) with
  | none => rfl
  | some t =>
      obtain ⟨w, hword, happend⟩ := readWord_eq_some_iff.1 hread
      obtain ⟨rfl, -⟩ := (spelled_writeWord n).unique hword.spelled happend
      exact absurd hword.lt (Nat.not_lt.2 h)

end ProxyWarden.Traffic.Wire

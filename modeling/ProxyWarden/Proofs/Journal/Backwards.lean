import Mathlib.Data.List.DropRight
import ProxyWarden.Journal.Tail
import ProxyWarden.Proofs.Text.Pieces

/-!
# Reading backwards is reading forwards

A file read backwards in blocks of any size gives the last of the lines that a forward scan would
count (`Tail.lastLines_eq`). What a search holds after some blocks is a statement about the pieces
of the part of the file that it has read: `Search.Covers`.
-/
namespace ProxyWarden.Tail

/-! ## Blocks -/

theorem flatten_chunksOnto {size : Nat} (hsize : 1 ≤ size) (fuel : Nat) (done : List Bytes)
    (bs : Bytes) (hfuel : bs.length ≤ fuel) :
    (chunksOnto done size fuel bs).flatten = bs.reverse ++ done.flatten := by
  induction fuel generalizing done bs with
  | zero =>
      have hnil : bs = [] := List.eq_nil_of_length_eq_zero (Nat.le_zero.1 hfuel)
      rw [hnil]
      rfl
  | succ fuel ih =>
      unfold chunksOnto
      cases hempty : bs.isEmpty with
      | true =>
          rw [List.isEmpty_iff.1 hempty]
          rfl
      | false =>
          have hdrop : (bs.drop size).length ≤ fuel := by
            rw [List.length_drop]
            omega
          simp only [Bool.false_eq_true, if_false]
          rw [ih _ _ hdrop, List.flatten_cons, ← List.append_assoc, ← List.reverse_append,
            List.take_append_drop]

/-- The blocks are the file, cut up. -/
theorem flatten_blocks {size : Nat} (hsize : 1 ≤ size) (bs : Bytes) :
    (blocks size bs).reverse.flatten = bs := by
  unfold blocks
  rw [List.reverse_reverse, flatten_chunksOnto hsize _ _ _ (by simp)]
  simp

/-! ## Lines that count -/

/-- Those of the lines that hold a JSON value, without the white space around them. -/
def counted (ls : List Bytes) : List Bytes :=
  (ls.map Bytes.trim).filter fun text => !text.isEmpty && Json.isValue text

theorem counted_append (ls ms : List Bytes) : counted (ls ++ ms) = counted ls ++ counted ms := by
  simp [counted]

theorem rtake_append_of_le {α : Type} {n : Nat} (xs : List α) {ys : List α} (h : n ≤ ys.length) :
    (xs ++ ys).rtake n = ys.rtake n := by
  unfold List.rtake
  rw [List.length_append, List.drop_append]
  have hdrop : xs.drop (xs.length + ys.length - n) = [] := List.drop_eq_nil_of_le (by omega)
  have hrest : xs.length + ys.length - n - xs.length = ys.length - n := by omega
  rw [hdrop, hrest, List.nil_append]

theorem rtake_of_length_le {α : Type} {n : Nat} {xs : List α} (h : xs.length ≤ n) :
    xs.rtake n = xs := by
  unfold List.rtake
  rw [Nat.sub_eq_zero_of_le h, List.drop_zero]

namespace Search

variable {s : Search} {n : Nat}

/-- The search has looked at the lines and has found the last of them that count. -/
structure Agrees (s : Search) (n : Nat) (ls : List Bytes) : Prop where
  found : s.found = (counted ls).rtake n
  missing : s.missing = n - (counted ls).length

theorem offer_of_counts {line : Bytes}
    (h : (!(Bytes.trim line).isEmpty && Json.isValue (Bytes.trim line)) = true) :
    s.offer line = { s with found := Bytes.trim line :: s.found, missing := s.missing - 1 } :=
  if_pos h

theorem offer_of_not_counts {line : Bytes}
    (h : (!(Bytes.trim line).isEmpty && Json.isValue (Bytes.trim line)) = false) :
    s.offer line = s := by
  refine if_neg ?_
  rw [h]
  exact Bool.false_ne_true

theorem Agrees.offer {ls : List Bytes} (h : Agrees s n ls) (hm : s.missing ≠ 0) (line : Bytes) :
    Agrees (s.offer line) n (line :: ls) := by
  have hmissing := h.missing
  have hcons : counted (line :: ls) = counted [line] ++ counted ls := counted_append [line] ls
  cases htext : (!(Bytes.trim line).isEmpty && Json.isValue (Bytes.trim line)) with
  | true =>
      have hone : counted [line] = [Bytes.trim line] := by simp [counted, htext]
      have hfound := h.found
      rw [rtake_of_length_le (by omega)] at hfound
      rw [hone, List.singleton_append] at hcons
      rw [offer_of_counts htext]
      refine { found := ?_, missing := ?_ }
      · rw [hcons, rtake_of_length_le (by rw [List.length_cons]; omega)]
        rw [hfound]
      · rw [hcons, List.length_cons]
        dsimp only
        omega
  | false =>
      have hnone : counted [line] = [] := by simp [counted, htext]
      rw [hnone, List.nil_append] at hcons
      rw [offer_of_not_counts htext]
      exact { found := by rw [hcons, h.found], missing := by rw [hcons, h.missing] }

theorem carry_offer (line : Bytes) : (s.offer line).carry = s.carry := by
  cases htext : (!(Bytes.trim line).isEmpty && Json.isValue (Bytes.trim line)) with
  | true => rw [offer_of_counts htext]
  | false => rw [offer_of_not_counts htext]

/-- What a search holds after it has read a part of the file that consists of these pieces: it has
looked at the last of them, and as long as lines are missing only the first is left, which may go on
in the next block and is carried over. -/
def Covers (s : Search) (n : Nat) (ps : List Bytes) : Prop :=
  ∃ front rest, ps = front ++ rest ∧ front ≠ [] ∧ Agrees s n rest ∧
    (s.missing ≠ 0 → front = [s.carry])

theorem Agrees.take {ls : List Bytes} (h : Agrees s n ls) (hm : s.missing ≠ 0) (p : Bytes)
    (ps : List Bytes) : Covers (s.take (p :: ps)) n (ps.reverse ++ (p ++ s.carry) :: ls) := by
  induction ps generalizing s p ls with
  | nil =>
      refine ⟨[p ++ s.carry], ls, rfl, List.cons_ne_nil _ _, ?_, fun _ => rfl⟩
      exact { found := h.found, missing := h.missing }
  | cons q ps ih =>
      have hreset : Agrees { s with carry := [] } n ls :=
        { found := h.found, missing := h.missing }
      have hoffer := hreset.offer hm (p ++ s.carry)
      have hcarry := carry_offer (s := { s with carry := [] }) (p ++ s.carry)
      unfold Search.take
      dsimp only
      split_ifs with hdone
      · refine ⟨(q :: ps).reverse, _, rfl, by simp, hoffer, ?_⟩
        intro hne
        exact absurd hdone hne
      · have hrest := ih hoffer hdone q
        rw [hcarry, List.append_nil] at hrest
        rw [List.reverse_cons, List.append_assoc]
        exact hrest

/-- Once nothing is missing, the part of the file before does not matter. -/
theorem Covers.extend {more done : Bytes} (h : Covers s n (Bytes.pieces done))
    (hm : s.missing = 0) : Covers s n (Bytes.pieces (more ++ done)) := by
  obtain ⟨front, rest, hpieces, hfront, hagrees, -⟩ := h
  obtain ⟨q, qs, rfl⟩ := List.exists_cons_of_ne_nil hfront
  obtain ⟨ps, p, hmore⟩ := (Bytes.pieces more).eq_nil_or_concat.resolve_left
    (Bytes.pieces_ne_nil more)
  refine ⟨ps ++ [p ++ q] ++ qs, rest, ?_, by simp, hagrees, ?_⟩
  · rw [Bytes.pieces_append (by rw [hmore, List.concat_eq_append]) hpieces]
    simp
  · intro hne
    exact absurd hm hne

/-- As long as lines are missing, a block is taken to the part that was read. -/
theorem Covers.take {done : Bytes} (h : Covers s n (Bytes.pieces done)) (hm : s.missing ≠ 0)
    (b : Bytes) : Covers (s.take (Bytes.pieces b).reverse) n (Bytes.pieces (b ++ done)) := by
  obtain ⟨front, rest, hpieces, -, hagrees, hcarry⟩ := h
  rw [hcarry hm, List.singleton_append] at hpieces
  obtain ⟨ps, p, hb⟩ := (Bytes.pieces b).eq_nil_or_concat.resolve_left (Bytes.pieces_ne_nil b)
  rw [List.concat_eq_append] at hb
  have htake := hagrees.take hm p ps.reverse
  rw [List.reverse_reverse, ← Bytes.pieces_append hb hpieces] at htake
  have hreverse : (Bytes.pieces b).reverse = p :: ps.reverse := by
    rw [hb, List.reverse_append]
    rfl
  rwa [hreverse]

theorem Covers.run {done : Bytes} (h : Covers s n (Bytes.pieces done)) (bs : List Bytes)
    (reads : Nat) : ∃ s', s.run Disturbance.none reads bs = .ok s' ∧
      Covers s' n (Bytes.pieces (bs.reverse.flatten ++ done)) := by
  induction bs generalizing s done reads with
  | nil => exact ⟨s, rfl, h⟩
  | cons b bs ih =>
      rw [List.reverse_cons, List.flatten_append, List.flatten_singleton, List.append_assoc]
      unfold Search.run
      by_cases hm : s.missing = 0
      · rw [if_pos hm]
        rw [← List.append_assoc]
        exact ⟨s, rfl, h.extend hm⟩
      · rw [if_neg hm]
        exact ih (h.take hm b) (reads + 1)

/-- Before any read nothing is known of the file, and its end may go on. -/
theorem covers_start (n : Nat) : Covers ⟨[], n, []⟩ n (Bytes.pieces []) := by
  have hagrees : Agrees ⟨[], n, []⟩ n [] :=
    { found := (List.rtake_nil n).symm, missing := rfl }
  exact ⟨[[]], [], rfl, List.cons_ne_nil _ _, hagrees, fun _ => rfl⟩

theorem Covers.finish {ps : List Bytes} (h : Covers s n ps) :
    s.finish = (counted ps).rtake n := by
  obtain ⟨front, rest, rfl, -, hagrees, hcarry⟩ := h
  have hmissing := hagrees.missing
  unfold Search.finish
  by_cases hm : s.missing = 0
  · rw [counted_append, rtake_append_of_le _ (by omega), ← hagrees.found]
    simp [hm]
  · rw [hcarry hm]
    cases hempty : s.carry.isEmpty with
    | true =>
        have hblank : counted [s.carry] = [] := by
          rw [List.isEmpty_iff.1 hempty]
          rfl
        rw [counted_append, hblank, List.nil_append, ← hagrees.found]
        simp
    | false =>
        rw [List.singleton_append, ← (hagrees.offer hm s.carry).found]
        simp [hm]

end Search

/-- Reading backwards finds the last of the lines that count. -/
theorem lastLines_eq (bs : Bytes) (n size : Nat) :
    lastLines bs n size Disturbance.none = .ok ((counted (Bytes.pieces bs)).rtake n) := by
  unfold lastLines
  by_cases hn : n = 0
  · rw [if_pos hn, hn, List.rtake_zero]
  · obtain ⟨s, hrun, hcovers⟩ := (Search.covers_start n).run (blocks (max size 1) bs) 0
    rw [flatten_blocks (by omega), List.append_nil] at hcovers
    rw [if_neg hn, hrun, ← hcovers.finish]
    rfl

/-! ## The scan from the start -/

def isWhiteSpace (b : UInt8) : Bool := [0x20, 0x09, 0x0A, 0x0C, 0x0D].contains b

/-- What a scan of a file from its start keeps: of the texts between newlines, without the white
space around them, those that hold a JSON value. -/
def scan (file : Bytes) : List Bytes :=
  ((file.splitOn Bytes.newline).map fun line =>
    (line.dropWhile isWhiteSpace).rdropWhile isWhiteSpace).filter fun text =>
      text ≠ [] ∧ Json.isValue text = true

theorem isWhiteSpace_eq : isWhiteSpace = Bytes.isBlank := by
  funext b
  rw [Bool.eq_iff_iff]
  simp [isWhiteSpace, Bytes.isBlank, or_assoc]

theorem scan_eq (file : Bytes) : scan file = counted (Bytes.pieces file) := by
  rw [scan, isWhiteSpace_eq, ← Bytes.pieces_eq_splitOn]
  apply List.filter_congr
  intro text _
  cases text <;> simp

/-- Whatever the size of the blocks, an undisturbed search returns the last lines of the scan, in the
order of the file. -/
theorem lastLines_eq_scan (file : Bytes) (n size : Nat) : lastLines file n size .none =
    .ok ((scan file).drop ((scan file).length - min n (scan file).length)) := by
  rw [lastLines_eq, scan_eq, List.rtake]
  congr 2
  omega

end ProxyWarden.Tail

import Mathlib.Data.List.Infix
import Mathlib.Tactic.SplitIfs
import ProxyWarden.Text.Shape

/-!
# Where a shape is found

The row of a text tells of every tail of the shape whether the text fits it (`row_annotate`), so the
place that is found is the first one where the whole shape fits (`seek_eq_some`).
-/
namespace ProxyWarden.Text

namespace Shape

variable {s : Shape} {cs : List Char}

/-! ## Rows -/

theorem first_map_tails (s : Shape) (cs : List Char) :
    Row.first (s.tails.map fun t => fits t cs) = fits s cs := by
  cases s with
  | nil => rfl
  | cons p s => rfl

theorem endRow_eq (s : Shape) : endRow s = s.tails.map fun t => fits t [] := by
  induction s with
  | nil => simp [endRow, fits]
  | cons p s ih =>
      cases p with
      | one p => rw [endRow, ih, List.tails, List.map_cons, fits]
      | many p => rw [endRow, ih, first_map_tails, List.tails, List.map_cons, fits]

theorem stepRow_eq (c : Char) (s : Shape) (cs : List Char) :
    stepRow c s (s.tails.map fun t => fits t cs) = s.tails.map fun t => fits t (c :: cs) := by
  induction s with
  | nil => simp [stepRow, fits]
  | cons p s ih =>
      cases p with
      | one p =>
          rw [List.tails, List.map_cons, List.map_cons, stepRow, List.tail_cons, ih,
            first_map_tails, fits]
      | many p =>
          rw [List.tails, List.map_cons, List.map_cons, stepRow, List.tail_cons, ih,
            first_map_tails, fits]
          rfl

theorem row_annotate (s : Shape) (cs : List Char) :
    (annotate s cs).1 = s.tails.map fun t => fits t cs := by
  induction cs with
  | nil => exact endRow_eq s
  | cons c cs ih =>
      have hstep : (annotate s (c :: cs)).1 = stepRow c s (annotate s cs).1 := rfl
      rw [hstep, ih, stepRow_eq]

theorem first_annotate (s : Shape) (cs : List Char) :
    Row.first (annotate s cs).1 = fits s cs := by
  rw [row_annotate, first_map_tails]

theorem map_fst_annotate (s : Shape) (cs : List Char) : (annotate s cs).2.map Prod.fst = cs := by
  induction cs with
  | nil => rfl
  | cons c cs ih => exact congrArg (c :: ·) ih

/-! ## Finding -/

theorem seek_nil (s : Shape) : seek (annotate s []).1 (annotate s []).2 =
    if fits s [] then some (annotate s []).2 else none := by
  rw [← first_annotate]
  rfl

theorem seek_cons (s : Shape) (c : Char) (cs : List Char) :
    seek (annotate s (c :: cs)).1 (annotate s (c :: cs)).2 =
      if fits s (c :: cs) then some (annotate s (c :: cs)).2
      else seek (annotate s cs).1 (annotate s cs).2 := by
  rw [← first_annotate]
  rfl

/-- What is found is the first place where the text fits the shape. -/
theorem seek_eq_some {found : Annotated}
    (h : seek (annotate s cs).1 (annotate s cs).2 = some found) :
    ∃ before after, cs = before ++ after ∧ found = (annotate s after).2 ∧ fits s after = true ∧
      ∀ before' after', cs = before' ++ after' → fits s after' = true →
        before.length ≤ before'.length := by
  induction cs with
  | nil =>
      rw [seek_nil] at h
      split_ifs at h with hfits
      cases h
      exact ⟨[], [], rfl, rfl, hfits, fun _ _ _ _ => Nat.zero_le _⟩
  | cons c cs ih =>
      rw [seek_cons] at h
      split_ifs at h with hfits
      · cases h
        exact ⟨[], c :: cs, rfl, rfl, hfits, fun _ _ _ _ => Nat.zero_le _⟩
      · obtain ⟨before, after, rfl, hfound, hafter, hfirst⟩ := ih h
        refine ⟨c :: before, after, rfl, hfound, hafter, ?_⟩
        intro before' after' htext hafter'
        cases before' with
        | nil =>
            rw [List.nil_append] at htext
            rw [htext] at hfits
            exact absurd hafter' hfits
        | cons c' before' =>
            exact Nat.succ_le_succ (hfirst before' after' (List.cons.inj htext).2 hafter')

theorem seek_eq_none (h : seek (annotate s cs).1 (annotate s cs).2 = none)
    {before after : List Char} (htext : cs = before ++ after) : ¬ fits s after = true := by
  induction cs generalizing before with
  | nil =>
      rw [seek_nil] at h
      split_ifs at h with hfits
      rwa [(List.append_eq_nil_iff.1 htext.symm).2]
  | cons c cs ih =>
      rw [seek_cons] at h
      split_ifs at h with hfits
      cases before with
      | nil =>
          rw [List.nil_append] at htext
          rwa [← htext]
      | cons c' before => exact ih h (List.cons.inj htext).2

end Shape

end ProxyWarden.Text

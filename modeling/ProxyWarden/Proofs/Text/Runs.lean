import Mathlib.Data.List.TakeWhile

/-!
# Runs

The run of a class at the front of a text ends where something else stands, so it is known by where
it ends (`LeadsWith.eq`).
-/
namespace ProxyWarden.Text

variable {α : Type} {p : α → Bool} {xs run rest : List α}

theorem dropWhile_eq_self (h : ∀ x, xs.head? = some x → p x = false) : xs.dropWhile p = xs := by
  cases xs with
  | nil => rfl
  | cons x xs => rw [List.dropWhile_cons_of_neg (by simp [h x rfl])]

theorem eq_false_of_head?_dropWhile {x : α} (h : (xs.dropWhile p).head? = some x) : p x = false := by
  have hnot := List.head?_dropWhile_not p xs
  rw [h] at hnot
  simpa using hnot

theorem dropWhile_takeWhile_append (xs rest : List α) :
    (xs.takeWhile p ++ rest).dropWhile p = rest.dropWhile p :=
  List.dropWhile_append_of_pos fun _ hx => List.mem_takeWhile_imp hx

/-- A list begins with a run of a class, as long as possible. -/
structure LeadsWith (p : α → Bool) (xs run rest : List α) : Prop where
  text : xs = run ++ rest
  run : ∀ x ∈ run, p x = true
  ends : ∀ x, rest.head? = some x → p x = false

theorem leadsWith_takeWhile (p : α → Bool) (xs : List α) :
    LeadsWith p xs (xs.takeWhile p) (xs.dropWhile p) where
  text := List.takeWhile_append_dropWhile.symm
  run := fun _ hx => List.mem_takeWhile_imp hx
  ends := fun _ hx => eq_false_of_head?_dropWhile hx

namespace LeadsWith

theorem eq (h : LeadsWith p xs run rest) : xs.takeWhile p = run ∧ xs.dropWhile p = rest := by
  have hdrop : xs.dropWhile p = rest := by
    rw [h.text, List.dropWhile_append_of_pos h.run, dropWhile_eq_self h.ends]
  have hsplit : xs.takeWhile p ++ xs.dropWhile p = xs := List.takeWhile_append_dropWhile
  rw [hdrop, h.text] at hsplit
  rw [h.text]
  exact ⟨List.append_cancel_right hsplit, h.text ▸ hdrop⟩

/-- No beginning of the list that consists of the class is longer. -/
theorem length_le (h : LeadsWith p xs run rest) {run' rest' : List α} (htext : xs = run' ++ rest')
    (hrun' : ∀ x ∈ run', p x = true) : run'.length ≤ run.length := by
  by_contra hlt
  have hprefix : run <+: run' :=
    List.prefix_of_prefix_length_le ⟨rest, h.text.symm⟩ ⟨rest', htext.symm⟩ (by omega)
  obtain ⟨further, rfl⟩ := hprefix
  obtain ⟨x, further, rfl⟩ : ∃ x t, further = x :: t := by
    apply List.exists_cons_of_ne_nil
    rintro rfl
    simp at hlt
  have hrest : rest = x :: further ++ rest' := by
    have hsame := h.text.symm.trans htext
    rwa [List.append_assoc, List.append_cancel_left_eq] at hsame
  have hx := h.ends x (by rw [hrest]; rfl)
  rw [hrun' x (by simp)] at hx
  cases hx

theorem head (h : LeadsWith p xs run rest) (hne : run ≠ []) :
    ∀ x, xs.head? = some x → p x = true := by
  obtain ⟨y, ys, rfl⟩ := List.exists_cons_of_ne_nil hne
  intro x hx
  rw [h.text] at hx
  cases hx
  exact h.run _ List.mem_cons_self

end LeadsWith

end ProxyWarden.Text

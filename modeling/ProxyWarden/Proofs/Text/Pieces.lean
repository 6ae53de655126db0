import ProxyWarden.Bytes

/-!
# Pieces of a text

Two texts one after the other have the pieces of both, but for the last piece of the first and the
first piece of the second, which become one (`pieces_append`). So a text that ends its lines has
them as its pieces.
-/
namespace ProxyWarden.Bytes

variable {bs p : Bytes} {ps : List Bytes}

theorem pieces_newline_cons (bs : Bytes) : pieces (newline :: bs) = [] :: pieces bs := by
  obtain ⟨p, ps, hp⟩ := List.exists_cons_of_ne_nil (pieces_ne_nil bs)
  rw [pieces_cons, hp, consPiece, if_pos rfl]

theorem pieces_cons_of_ne {b : UInt8} (hb : b ≠ newline) (h : pieces bs = p :: ps) :
    pieces (b :: bs) = (b :: p) :: ps := by
  rw [pieces_cons, h, consPiece, if_neg hb]

/-- The pieces are what stands between newlines. -/
theorem pieces_eq_splitOn (bs : Bytes) : pieces bs = bs.splitOn newline := by
  induction bs with
  | nil => rfl
  | cons b bs ih =>
      obtain ⟨p, ps, hp⟩ := List.exists_cons_of_ne_nil (pieces_ne_nil bs)
      rw [List.splitOn, List.splitOnP_cons_eq_if_modifyHead, ← List.splitOn, ← ih]
      by_cases hb : b = newline
      · rw [if_pos (beq_iff_eq.2 hb), hb, pieces_newline_cons]
      · rw [if_neg (mt beq_iff_eq.1 hb), pieces_cons_of_ne hb hp, hp]
        rfl

/-- The last piece of one part and the first of the next are one piece of the whole. -/
theorem pieces_append {as q : Bytes} {qs : List Bytes} (ha : pieces as = ps ++ [p])
    (hb : pieces bs = q :: qs) : pieces (as ++ bs) = ps ++ (p ++ q) :: qs := by
  induction as generalizing ps p with
  | nil =>
      have hnil : ps = [] ∧ p = [] := by
        cases ps with
        | nil => simpa using ha.symm
        | cons _ ps => simp at ha
      rw [hnil.1, hnil.2, List.nil_append, hb]
      rfl
  | cons b as ih =>
      rw [List.cons_append]
      by_cases hnewline : b = newline
      · -- A newline starts a new piece, so the first piece is empty.
        rw [hnewline, pieces_newline_cons] at ha
        cases ps with
        | nil => exact absurd (List.cons.inj ha).2 (pieces_ne_nil as)
        | cons first ps =>
            obtain ⟨rfl, hrest⟩ := List.cons.inj ha
            rw [hnewline, pieces_newline_cons, ih hrest]
            rfl
      · obtain ⟨x, xs, hx⟩ := List.exists_cons_of_ne_nil (pieces_ne_nil as)
        rw [pieces_cons_of_ne hnewline hx] at ha
        cases ps with
        | nil =>
            obtain ⟨rfl, rfl⟩ := List.cons.inj ha
            have hfirst : pieces (as ++ bs) = [] ++ (x ++ q) :: qs := ih hx
            exact pieces_cons_of_ne hnewline hfirst
        | cons first ps =>
            obtain ⟨rfl, rfl⟩ := List.cons.inj ha
            have hfirst : pieces (as ++ bs) = (x :: ps) ++ (p ++ q) :: qs := ih hx
            exact pieces_cons_of_ne hnewline hfirst

theorem pieces_of_newline_notMem (h : newline ∉ bs) : pieces bs = [bs] := by
  induction bs with
  | nil => rfl
  | cons b bs ih =>
      have hb : b ≠ newline := fun heq => h (heq ▸ List.mem_cons_self)
      have hbs : newline ∉ bs := fun hmem => h (List.mem_cons_of_mem b hmem)
      exact pieces_cons_of_ne hb (ih hbs)

theorem pieces_line {l : Bytes} (h : newline ∉ l) (rest : Bytes) :
    pieces (l ++ newline :: rest) = l :: pieces rest := by
  have hsplit : pieces (l ++ newline :: rest) = [] ++ (l ++ []) :: pieces rest :=
    pieces_append (pieces_of_newline_notMem h) (pieces_newline_cons rest)
  rw [hsplit, List.append_nil]
  rfl

/-- Lines without newlines, each ended by one, are the pieces but for the empty one at the end. -/
theorem pieces_lines {ls : List Bytes} (h : ∀ l ∈ ls, newline ∉ l) :
    pieces (ls.flatMap fun l => l ++ [newline]) = ls ++ [[]] := by
  induction ls with
  | nil => rfl
  | cons l ls ih =>
      rw [List.forall_mem_cons] at h
      rw [List.flatMap_cons, List.append_assoc, List.singleton_append, pieces_line h.1, ih h.2]
      rfl

theorem lines_of_pieces (h : pieces bs = ps ++ [[]]) : lines bs = ps := by
  rw [lines, h, List.reverse_append]
  exact List.reverse_reverse ps

end ProxyWarden.Bytes

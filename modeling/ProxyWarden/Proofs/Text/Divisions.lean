import Mathlib.Data.List.Forall2
import ProxyWarden.Proofs.Text.Shapes

/-!
# The division that is found

Of all the ways in which a text can be divided, the one that is found starts as early as possible and
makes the first run as long as possible, then the second, and so on: the list of the lengths of its
pieces is the greatest one in the lexicographic order. This is proved of the pieces of the single
parts (`divideOnto_spec`) and carried over to the pieces of the groups (`find?_eq_some_iff`).
-/
namespace ProxyWarden.Text

/-- The lexicographic order of lists of lengths: the first difference decides. -/
def lexLe : List Nat → List Nat → Prop
  | [], _ => True
  | _ :: _, [] => False
  | m :: ms, n :: ns => m < n ∨ m = n ∧ lexLe ms ns

theorem lexLe_cons_iff {m n : Nat} {ms ns : List Nat} :
    lexLe (m :: ms) (n :: ns) ↔ m < n ∨ m = n ∧ lexLe ms ns :=
  Iff.rfl

theorem lexLe_antisymm {ms ns : List Nat} (h : lexLe ms ns) (h' : lexLe ns ms) : ms = ns := by
  induction ms generalizing ns with
  | nil =>
      cases ns with
      | nil => rfl
      | cons n ns => exact h'.elim
  | cons m ms ih =>
      cases ns with
      | nil => exact h.elim
      | cons n ns =>
          rw [lexLe_cons_iff] at h h'
          rcases h with hlt | ⟨rfl, hms⟩
          · omega
          · rcases h' with hlt | ⟨-, hns⟩
            · omega
            · rw [ih hms hns]

def Part.Takes : Part → List Char → Prop
  | .one p, piece => ∃ c, p c = true ∧ piece = [c]
  | .many p, piece => ∀ c ∈ piece, p c = true

namespace Shape

variable {s shape : Shape} {p : Char → Bool} {cs rest run : List Char}
  {pieces : List (List Char)} {k : Nat}

/-! ## Divisions -/

abbrev Divides (s : Shape) (pieces : List (List Char)) : Prop := List.Forall₂ Part.Takes s pieces

theorem fits_many_of_run (hrun : ∀ c ∈ run, p c = true) (h : fits s cs = true) :
    fits (.many p :: s) (run ++ cs) = true := by
  induction run with
  | nil =>
      cases cs with
      | nil => rwa [List.nil_append, fits]
      | cons c cs => rw [List.nil_append, fits, h, Bool.true_or]
  | cons c run ih =>
      rw [List.forall_mem_cons] at hrun
      rw [List.cons_append, fits, hrun.1, ih hrun.2, Bool.and_true, Bool.or_true]

theorem fits_of_divides (h : Divides s pieces) (rest : List Char) :
    fits s (pieces.flatten ++ rest) = true := by
  induction h with
  | nil => rw [fits]
  | @cons part piece s pieces hpiece _ ih =>
      rw [List.flatten_cons, List.append_assoc]
      cases part with
      | one p =>
          obtain ⟨c, hc, rfl⟩ := hpiece
          rw [List.singleton_append, fits, hc, ih, Bool.and_true]
      | many p => exact fits_many_of_run hpiece ih

theorem exists_divides_of_fits (h : fits s cs = true) :
    ∃ pieces rest, Divides s pieces ∧ cs = pieces.flatten ++ rest := by
  induction s, cs using fits.induct with
  | case1 cs => exact ⟨[], cs, .nil, rfl⟩
  | case2 p s =>
      rw [fits] at h
      cases h
  | case3 p s c cs ih =>
      rw [fits, Bool.and_eq_true] at h
      obtain ⟨pieces, rest, hdivides, rfl⟩ := ih h.2
      exact ⟨[c] :: pieces, rest, .cons ⟨c, h.1, rfl⟩ hdivides, rfl⟩
  | case4 p s ih =>
      rw [fits] at h
      obtain ⟨pieces, rest, hdivides, htext⟩ := ih h
      exact ⟨[] :: pieces, rest, .cons (by simp [Part.Takes]) hdivides, htext⟩
  | case5 p s c cs ihskip ihtake =>
      rw [fits, Bool.or_eq_true, Bool.and_eq_true] at h
      rcases h with hskip | ⟨hc, htake⟩
      · obtain ⟨pieces, rest, hdivides, htext⟩ := ihskip hskip
        exact ⟨[] :: pieces, rest, .cons (by simp [Part.Takes]) hdivides, htext⟩
      · obtain ⟨_, rest, hdivides, rfl⟩ := ihtake htake
        cases hdivides with
        | @cons _ piece _ pieces hpiece hdivides =>
            exact ⟨(c :: piece) :: pieces, rest,
              .cons (List.forall_mem_cons.2 ⟨hc, hpiece⟩) hdivides, rfl⟩

/-! ## The preferred division -/

/-- A division of a text, of a part of it at the front, of which no other one comes later in the
lexicographic order of the lengths. -/
structure Longest (s : Shape) (cs : List Char) (pieces : List (List Char)) (rest : List Char) :
    Prop where
  divides : Divides s pieces
  text : cs = pieces.flatten ++ rest
  longest : ∀ others rest', Divides s others → cs = others.flatten ++ rest' →
    lexLe (others.map List.length) (pieces.map List.length)

theorem Longest.one (h : Longest s cs pieces rest) {c : Char} (hc : p c = true) :
    Longest (.one p :: s) (c :: cs) ([c] :: pieces) rest where
  divides := .cons ⟨c, hc, rfl⟩ h.divides
  text := by rw [h.text]; rfl
  longest := by
    intro others rest' hothers htext
    cases hothers with
    | cons hpiece hothers =>
        obtain ⟨c', -, rfl⟩ := hpiece
        rw [List.map_cons, List.map_cons, lexLe_cons_iff]
        exact .inr ⟨rfl, h.longest _ rest' hothers (List.cons.inj htext).2⟩

/-- A run that is as long as possible, and the preferred division of the text after it. -/
theorem Longest.many (h : Longest s cs pieces rest) (hrun : ∀ c ∈ run, p c = true)
    (hmax : ∀ run' cs', run ++ cs = run' ++ cs' → (∀ c ∈ run', p c = true) → fits s cs' = true →
      run'.length ≤ run.length) :
    Longest (.many p :: s) (run ++ cs) (run :: pieces) rest where
  divides := .cons hrun h.divides
  text := by rw [h.text, List.flatten_cons, List.append_assoc]
  longest := by
    intro others rest' hothers htext
    cases hothers with
    | @cons _ run' _ others hrun' hothers =>
        rw [List.flatten_cons, List.append_assoc] at htext
        have hle := hmax _ _ htext hrun' (fits_of_divides hothers rest')
        rw [List.map_cons, List.map_cons, lexLe_cons_iff]
        rcases Nat.lt_or_eq_of_le hle with hlt | heq
        · exact .inl hlt
        · exact .inr ⟨heq, h.longest _ rest' hothers (List.append_inj htext heq.symm).2⟩

/-! ## Walking forward -/

theorem first_drop_row (hk : k < shape.length) (cs : List Char) :
    Row.first ((annotate shape cs).1.drop k) = fits (shape.drop k) cs := by
  rw [row_annotate]
  induction shape generalizing k with
  | nil => cases hk
  | cons part shape ih =>
      cases k with
      | zero => exact first_map_tails (part :: shape) cs
      | succ k =>
          rw [List.tails, List.map_cons, List.drop_succ_cons, List.drop_succ_cons]
          exact ih (Nat.lt_of_succ_lt_succ hk)

/-- A run goes on as long as what follows fits with the run going on. -/
theorem takeRun_cons (hk : shape.drop k = .many p :: s) (piece : List Char) (c : Char)
    (cs : List Char) : takeRun p k piece (annotate shape (c :: cs)).2 =
      if p c && fits (.many p :: s) cs then takeRun p k (c :: piece) (annotate shape cs).2
      else (piece.reverse, (annotate shape (c :: cs)).2) := by
  have hlength : k < shape.length := by
    by_contra hle
    rw [List.drop_eq_nil_of_le (Nat.le_of_not_lt hle)] at hk
    cases hk
  rw [← hk, ← first_drop_row hlength]
  rfl

theorem takeRun_spec (hk : shape.drop k = .many p :: s) (piece : List Char)
    (h : fits (.many p :: s) cs = true) : ∃ run rest, cs = run ++ rest ∧
      takeRun p k piece (annotate shape cs).2 = (piece.reverse ++ run, (annotate shape rest).2) ∧
      (∀ c ∈ run, p c = true) ∧ fits s rest = true ∧
      ∀ run' cs', cs = run' ++ cs' → (∀ c ∈ run', p c = true) → fits s cs' = true →
        run'.length ≤ run.length := by
  induction cs generalizing piece with
  | nil =>
      rw [fits] at h
      refine ⟨[], [], rfl, ?_, by simp, h, ?_⟩
      · rw [List.append_nil]
        rfl
      · intro run' cs' htext _ _
        rw [(List.append_eq_nil_iff.1 htext.symm).1]
  | cons c cs ih =>
      rw [takeRun_cons hk]
      by_cases hgo : (p c && fits (.many p :: s) cs) = true
      · rw [if_pos hgo]
        rw [Bool.and_eq_true] at hgo
        obtain ⟨run, rest, rfl, htake, hrun, hrest, hmax⟩ := ih (c :: piece) hgo.2
        refine ⟨c :: run, rest, rfl, ?_, List.forall_mem_cons.2 ⟨hgo.1, hrun⟩, hrest, ?_⟩
        · rw [htake, List.reverse_cons, List.append_assoc, List.singleton_append]
        · intro run' cs' htext hrun' hcs'
          cases run' with
          | nil => exact Nat.zero_le _
          | cons c' run' =>
              exact Nat.succ_le_succ (hmax run' cs' (List.cons.inj htext).2
                (List.forall_mem_cons.1 hrun').2 hcs')
      · rw [if_neg hgo]
        rw [fits, Bool.or_eq_true, or_iff_left hgo] at h
        refine ⟨[], c :: cs, rfl, by rw [List.append_nil], by simp, h, ?_⟩
        -- Any run that is not empty would let this one go on.
        intro run' cs' htext hrun' hcs'
        cases run' with
        | nil => exact Nat.le_refl 0
        | cons c' run' =>
            obtain ⟨rfl, hrest⟩ := List.cons.inj htext
            rw [List.forall_mem_cons] at hrun'
            refine absurd ?_ hgo
            rw [hrest, List.append_eq, hrun'.1, fits_many_of_run hrun'.2 hcs', Bool.and_true]

theorem divideOnto_spec (hk : shape.drop k = s) (done : List (List Char)) (h : fits s cs = true) :
    ∃ pieces rest, divideOnto done s k (annotate shape cs).2 =
      (done.reverse ++ pieces, (annotate shape rest).2) ∧ Longest s cs pieces rest := by
  induction s generalizing k done cs with
  | nil =>
      refine ⟨[], cs, ?_, .nil, rfl, ?_⟩
      · rw [List.append_nil]
        rfl
      · intro others rest' hothers _
        cases hothers
        trivial
  | cons part s ih =>
      have hnext : shape.drop (k + 1) = s := by
        rw [← List.tail_drop, hk, List.tail_cons]
      cases part with
      | one p =>
          cases cs with
          | nil =>
              rw [fits] at h
              cases h
          | cons c cs =>
              rw [fits, Bool.and_eq_true] at h
              obtain ⟨pieces, rest, hdivide, hlongest⟩ := ih hnext ([c] :: done) h.2
              refine ⟨[c] :: pieces, rest, ?_, hlongest.one h.1⟩
              rw [List.reverse_cons, List.append_assoc, List.singleton_append] at hdivide
              exact hdivide
      | many p =>
          obtain ⟨run, after, rfl, htake, hrun, hafter, hmax⟩ := takeRun_spec hk [] h
          obtain ⟨pieces, rest, hdivide, hlongest⟩ := ih hnext (run :: done) hafter
          refine ⟨run :: pieces, rest, ?_, hlongest.many hrun hmax⟩
          rw [List.reverse_cons, List.append_assoc, List.singleton_append] at hdivide
          rw [divideOnto, htake]
          exact hdivide

/-! ## Groups of parts -/

variable {groups : List Shape} {g : Shape} {ws : List (List Char)} {before : List Char}

/-- A text that a shape can stand for as a whole. -/
def Matches (g : Shape) (w : List Char) : Prop := ∃ pieces, Divides g pieces ∧ pieces.flatten = w

theorem matches_word_iff {w : String} {x : List Char} : Matches (word w) x ↔ x = w.toList := by
  unfold word Matches
  generalize w.toList = w
  induction w generalizing x with
  | nil =>
      simp only [List.map_nil, List.forall₂_nil_left_iff, exists_eq_left, List.flatten_nil]
      exact eq_comm
  | cons c w ih =>
      rw [List.map_cons]
      constructor
      · intro h
        obtain ⟨_, hdivides, rfl⟩ := h
        cases hdivides with
        | cons hpiece hdivides =>
            obtain ⟨c', hc, rfl⟩ := hpiece
            rw [List.flatten_cons, ih.1 ⟨_, hdivides, rfl⟩, beq_iff_eq.1 hc]
            rfl
      · intro h
        obtain ⟨pieces, hdivides, hflatten⟩ := ih.2 rfl
        refine ⟨[c] :: pieces, .cons ⟨c, beq_self_eq_true c, rfl⟩ hdivides, ?_⟩
        rw [List.flatten_cons, hflatten, h]
        rfl

theorem matches_many_iff : Matches [.many p] run ↔ ∀ c ∈ run, p c = true := by
  constructor
  · intro h
    obtain ⟨_, hdivides, rfl⟩ := h
    cases hdivides with
    | cons hpiece hdivides =>
        cases hdivides
        rwa [List.flatten_singleton]
  · intro h
    exact ⟨[run], .cons h .nil, List.flatten_singleton⟩

theorem matches_run_iff : Matches (Shape.run p) run ↔ run ≠ [] ∧ ∀ c ∈ run, p c = true := by
  constructor
  · intro h
    obtain ⟨_, hdivides, rfl⟩ := h
    cases hdivides with
    | cons hpiece hdivides =>
        obtain ⟨c, hc, rfl⟩ := hpiece
        have hmany := matches_many_iff.1 ⟨_, hdivides, rfl⟩
        exact ⟨List.cons_ne_nil _ _, List.forall_mem_cons.2 ⟨hc, hmany⟩⟩
  · intro h
    obtain ⟨c, run, rfl⟩ := List.exists_cons_of_ne_nil h.1
    have hrun := List.forall_mem_cons.1 h.2
    exact ⟨[[c], run], .cons ⟨c, hrun.1, rfl⟩ (.cons hrun.2 .nil), by simp⟩

theorem divides_append_iff {t : Shape} : Divides (s ++ t) pieces ↔
    Divides s (pieces.take s.length) ∧ Divides t (pieces.drop s.length) := by
  constructor
  · intro h
    have htake := List.forall₂_take s.length h
    have hdrop := List.forall₂_drop s.length h
    rw [List.take_left] at htake
    rw [List.drop_left] at hdrop
    exact ⟨htake, hdrop⟩
  · intro h
    have happend : Divides (s ++ t) (pieces.take s.length ++ pieces.drop s.length) :=
      List.rel_append h.1 h.2
    rwa [List.take_append_drop] at happend

theorem matches_regroup (h : Divides groups.flatten pieces) :
    List.Forall₂ Matches groups (regroup groups pieces) := by
  induction groups generalizing pieces with
  | nil => exact .nil
  | cons g groups ih =>
      rw [List.flatten_cons, divides_append_iff] at h
      exact .cons ⟨_, h.1, rfl⟩ (ih h.2)

theorem flatten_regroup (h : Divides groups.flatten pieces) :
    (regroup groups pieces).flatten = pieces.flatten := by
  induction groups generalizing pieces with
  | nil =>
      cases h
      rfl
  | cons g groups ih =>
      rw [List.flatten_cons, divides_append_iff] at h
      rw [regroup, List.flatten_cons, ih h.2, ← List.flatten_append, List.take_append_drop]

theorem exists_regroup_eq (h : List.Forall₂ Matches groups ws) :
    ∃ pieces, Divides groups.flatten pieces ∧ regroup groups pieces = ws := by
  induction h with
  | nil => exact ⟨[], .nil, rfl⟩
  | @cons g w groups ws hw _ ih =>
      obtain ⟨first, hfirst, rfl⟩ := hw
      obtain ⟨pieces, hpieces, rfl⟩ := ih
      refine ⟨first ++ pieces, List.rel_append hfirst hpieces, ?_⟩
      rw [regroup, hfirst.length_eq, List.take_left, List.drop_left]

/-- A shape with at most one run, whose pieces are known by their total length. -/
def IsPlain : Shape → Prop
  | [] => True
  | .one _ :: s => IsPlain s
  | .many _ :: s => ∀ part ∈ s, ∃ p, part = .one p

theorem isPlain_of_ones (h : ∀ part ∈ s, ∃ p, part = .one p) : IsPlain s := by
  induction s with
  | nil => trivial
  | cons part s ih =>
      rw [List.forall_mem_cons] at h
      obtain ⟨⟨p, rfl⟩, hs⟩ := h
      exact ih hs

theorem isPlain_word (w : String) : IsPlain (word w) := by
  apply isPlain_of_ones
  intro part hpart
  obtain ⟨c, -, rfl⟩ := List.mem_map.1 hpart
  exact ⟨_, rfl⟩

theorem isPlain_run (p : Char → Bool) : IsPlain (Shape.run p) := by
  intro part hpart
  cases hpart

theorem length_flatten_of_ones (h : ∀ part ∈ s, ∃ p, part = .one p) (hpieces : Divides s pieces) :
    pieces.flatten.length = s.length := by
  induction hpieces with
  | nil => rfl
  | cons hpiece _ ih =>
      rw [List.forall_mem_cons] at h
      obtain ⟨⟨p, rfl⟩, hs⟩ := h
      obtain ⟨c, -, rfl⟩ := hpiece
      exact congrArg Nat.succ (ih hs)

/-- In a plain shape the first difference between the lengths of the pieces decides which total length
is greater. -/
theorem IsPlain.length_le {others : List (List Char)} {ms ns : List Nat} (hplain : IsPlain s)
    (hpieces : Divides s pieces) (hothers : Divides s others)
    (hle : lexLe (others.map List.length ++ ms) (pieces.map List.length ++ ns)) :
    others.flatten.length < pieces.flatten.length ∨
      others.flatten.length = pieces.flatten.length ∧ lexLe ms ns := by
  induction s generalizing pieces others with
  | nil =>
      cases hpieces
      cases hothers
      exact .inr ⟨rfl, hle⟩
  | cons part s ih =>
      cases hpieces with
      | @cons _ piece _ pieces hpiece hpieces =>
      cases hothers with
      | @cons _ other _ others hother hothers =>
      rw [List.map_cons, List.map_cons, List.cons_append, List.cons_append,
        lexLe_cons_iff] at hle
      rw [List.flatten_cons, List.flatten_cons, List.length_append, List.length_append]
      cases part with
      | one p =>
          obtain ⟨c, -, rfl⟩ := hpiece
          obtain ⟨c', -, rfl⟩ := hother
          rcases hle with hlt | ⟨-, hle⟩
          · exact absurd hlt (Nat.lt_irrefl 1)
          · rcases ih hplain hpieces hothers hle with hlt | ⟨heq, hms⟩
            · exact .inl (Nat.add_lt_add_left hlt 1)
            · exact .inr ⟨congrArg (1 + ·) heq, hms⟩
      | many p =>
          -- What follows the only run has a fixed length.
          have hrest : others.flatten.length = pieces.flatten.length :=
            (length_flatten_of_ones hplain hothers).trans
              (length_flatten_of_ones hplain hpieces).symm
          rcases hle with hlt | ⟨heq, hle⟩
          · left
            omega
          · rcases ih (isPlain_of_ones hplain) hpieces hothers hle with hlt | ⟨-, hms⟩
            · exact absurd hrest (Nat.ne_of_lt hlt)
            · exact .inr ⟨by omega, hms⟩

theorem lengths_regroup_le {others : List (List Char)} (hplain : ∀ g ∈ groups, IsPlain g)
    (hpieces : Divides groups.flatten pieces) (hothers : Divides groups.flatten others)
    (hle : lexLe (others.map List.length) (pieces.map List.length)) :
    lexLe ((regroup groups others).map List.length) ((regroup groups pieces).map List.length) := by
  induction groups generalizing pieces others with
  | nil => trivial
  | cons g groups ih =>
      rw [List.forall_mem_cons] at hplain
      rw [List.flatten_cons, divides_append_iff] at hpieces hothers
      rw [← List.take_append_drop g.length pieces, ← List.take_append_drop g.length others,
        List.map_append, List.map_append] at hle
      rw [regroup, regroup, List.map_cons, List.map_cons, lexLe_cons_iff]
      exact (hplain.1.length_le hpieces.1 hothers.1 hle).imp_right fun hrest =>
        ⟨hrest.1, ih hplain.2 hpieces.2 hothers.2 hrest.2⟩

/-! ## What is found -/

/-- A text with a place where the groups stand: what is before it, the pieces of the groups, and what
follows. -/
structure Splits (groups : List Shape) (cs before : List Char) (ws : List (List Char))
    (rest : List Char) : Prop where
  text : cs = before ++ (ws.flatten ++ rest)
  pieces : List.Forall₂ Matches groups ws

/-- The groups stand nowhere earlier, and at no other lengths of the pieces that come later in the
lexicographic order. -/
structure Prefers (groups : List Shape) (cs before : List Char) (ws : List (List Char))
    (rest : List Char) : Prop extends Splits groups cs before ws rest where
  first : ∀ before' ws' rest', Splits groups cs before' ws' rest' → before.length ≤ before'.length
  longest : ∀ ws' rest', Splits groups cs before ws' rest' →
    lexLe (ws'.map List.length) (ws.map List.length)

theorem Splits.fits {after : List Char} (h : Splits groups cs before ws rest)
    (htext : cs = before ++ after) : fits groups.flatten after = true := by
  obtain ⟨pieces, hdivides, rfl⟩ := exists_regroup_eq h.pieces
  rw [h.text, List.append_right_inj, flatten_regroup hdivides] at htext
  rw [← htext]
  exact fits_of_divides hdivides rest

theorem splits_of_fits {after : List Char} (h : fits groups.flatten after = true)
    (before : List Char) : ∃ ws rest, Splits groups (before ++ after) before ws rest := by
  obtain ⟨pieces, rest, hdivides, rfl⟩ := exists_divides_of_fits h
  refine ⟨regroup groups pieces, rest, ?_, matches_regroup hdivides⟩
  rw [flatten_regroup hdivides]

theorem find?_eq_none_iff : find? groups cs = none ↔
    ∀ before ws rest, ¬ Splits groups cs before ws rest := by
  unfold find?
  dsimp only
  rw [Option.map_eq_none_iff]
  constructor
  · intro h before ws rest hsplits
    exact seek_eq_none h hsplits.text (hsplits.fits hsplits.text)
  · intro h
    cases hseek : seek (annotate groups.flatten cs).1 (annotate groups.flatten cs).2 with
    | none => rfl
    | some found =>
        obtain ⟨before, after, rfl, -, hfits, -⟩ := seek_eq_some hseek
        obtain ⟨ws, rest, hsplits⟩ := splits_of_fits hfits before
        exact absurd hsplits (h before ws rest)

theorem prefers_of_find? (hplain : ∀ g ∈ groups, IsPlain g) (h : find? groups cs = some (ws, rest)) :
    ∃ before, Prefers groups cs before ws rest := by
  unfold find? at h
  dsimp only at h
  rw [Option.map_eq_some_iff] at h
  obtain ⟨found, hseek, hfound⟩ := h
  obtain ⟨before, after, rfl, rfl, hfits, hfirst⟩ := seek_eq_some hseek
  obtain ⟨pieces, tail, hdivide, hlongest⟩ := divideOnto_spec List.drop_zero [] hfits
  rw [hdivide, Prod.mk.injEq, map_fst_annotate] at hfound
  obtain ⟨rfl, rfl⟩ := hfound
  rw [List.reverse_nil, List.nil_append]
  refine ⟨before, ⟨?_, matches_regroup hlongest.divides⟩, ?_, ?_⟩
  · rw [flatten_regroup hlongest.divides, ← hlongest.text]
  · intro before' ws' rest' hsplits
    exact hfirst before' _ hsplits.text (hsplits.fits hsplits.text)
  · intro ws' rest' hsplits
    obtain ⟨others, hothers, rfl⟩ := exists_regroup_eq hsplits.pieces
    have htext := List.append_cancel_left hsplits.text
    rw [flatten_regroup hothers] at htext
    exact lengths_regroup_le hplain hlongest.divides hothers
      (hlongest.longest others rest' hothers htext)

theorem append_inj_of_lengths {ws' : List (List Char)} {rest' : List Char}
    (hlengths : ws.map List.length = ws'.map List.length)
    (htext : ws.flatten ++ rest = ws'.flatten ++ rest') : ws = ws' ∧ rest = rest' := by
  induction ws generalizing ws' with
  | nil =>
      obtain rfl := List.map_eq_nil_iff.1 hlengths.symm
      exact ⟨rfl, htext⟩
  | cons w ws ih =>
      cases ws' with
      | nil => cases hlengths
      | cons w' ws' =>
          obtain ⟨hw, hws⟩ := List.cons.inj hlengths
          rw [List.flatten_cons, List.flatten_cons, List.append_assoc, List.append_assoc] at htext
          obtain ⟨rfl, hrest⟩ := List.append_inj htext hw
          obtain ⟨rfl, rfl⟩ := ih hws hrest
          exact ⟨rfl, rfl⟩

/-- A text is preferably divided in one way only. -/
theorem Prefers.unique {before' : List Char} {ws' : List (List Char)} {rest' : List Char}
    (h : Prefers groups cs before ws rest) (h' : Prefers groups cs before' ws' rest') :
    before = before' ∧ ws = ws' ∧ rest = rest' := by
  have hlength := Nat.le_antisymm (h.first _ _ _ h'.toSplits) (h'.first _ _ _ h.toSplits)
  obtain ⟨rfl, htext⟩ := List.append_inj (h.text.symm.trans h'.text) hlength
  have hlengths := lexLe_antisymm (h'.longest _ _ h.toSplits) (h.longest _ _ h'.toSplits)
  exact ⟨rfl, append_inj_of_lengths hlengths htext⟩

/-- What is found is the preferred division. -/
theorem find?_eq_some_iff (hplain : ∀ g ∈ groups, IsPlain g) :
    find? groups cs = some (ws, rest) ↔ ∃ before, Prefers groups cs before ws rest := by
  refine ⟨prefers_of_find? hplain, ?_⟩
  intro h
  obtain ⟨before, hprefers⟩ := h
  cases hfind : find? groups cs with
  | none => exact absurd hprefers.toSplits (find?_eq_none_iff.1 hfind _ _ _)
  | some found =>
      obtain ⟨before', hfound⟩ := prefers_of_find? hplain hfind
      obtain ⟨-, rfl, rfl⟩ := hfound.unique hprefers
      rfl

end Shape

end ProxyWarden.Text

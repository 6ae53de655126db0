import Mathlib.Tactic.SplitIfs
import ProxyWarden.Disk.Basic

/-!
# Places that stay where they are

Where a path leads depends on the tree and not on what the files hold (`locate_contents`), and a
file made at a missing place is found by the same path afterwards (`locate_create`): the directories
on the way were there before, so none of them is the new file.
-/
namespace ProxyWarden.Disk

variable {d : Disk} {l loc : Location} {names : List Bytes} {x : Node} {b : Bool}

/-! ## Nodes -/

@[simp] theorem node?_contents (d : Disk) (c : List Bytes) (l : Location) :
    ({ d with contents := c } : Disk).node? l = d.node? l := rfl

theorem node?_link_self (d : Disk) (hl : l ≠ []) (x : Node) : (d.link l x).node? l = some x := by
  simp [node?, link, hl]

theorem node?_link_of_ne (d : Disk) {m : Location} (hm : m ≠ l) (x : Node) :
    (d.link l x).node? m = d.node? m := by
  have hkeep : ∀ e : Location × Node, (e.1 == m) = true → (e.1 != l) = true := by
    intro e he
    rw [beq_iff_eq] at he
    simp [he, hm]
  have hfind : ∀ es : List (Location × Node),
      (es.filter fun e => e.1 != l).find? (fun e => e.1 == m) = es.find? fun e => e.1 == m := by
    intro es
    rw [List.find?_filter]
    congr 1
    funext e
    cases he : e.1 == m with
    | true => simp [hkeep e he]
    | false => simp
  simp [node?, link, hfind, Ne.symm hm]

/-! ## Walks -/

theorem walk_contents (d : Disk) (c : List Bytes) (n : Option Node) :
    ({ d with contents := c } : Disk).walk l n names = d.walk l n names := by
  induction names generalizing l n with
  | nil => rfl
  | cons name names ih => simp only [walk, node?_contents, ih]

/-- A walk goes on from a directory only. -/
theorem eq_nil_or_directory_of_walk {n : Option Node} {place : Place}
    (h : d.walk l n names = .ok place) : names = [] ∨ n = some .directory := by
  cases names with
  | nil => exact .inl rfl
  | cons name names =>
      rw [walk.eq_def] at h
      dsimp only at h
      split at h
      · cases h
      · exact .inr rfl
      · cases h

/-- What a walk finds missing is missing in the tree, and it is not the root. -/
theorem node?_of_walk (h : d.walk l (some .directory) names = .ok ⟨loc, none, b⟩) :
    d.node? loc = none ∧ loc ≠ [] := by
  induction names generalizing l with
  | nil => simp [walk] at h
  | cons name names ih =>
      rw [walk] at h
      split_ifs at h with hdot hlast hup hlast hlong
      · cases h
      · exact ih h
      · cases h
      · exact ih h
      · rcases eq_nil_or_directory_of_walk h with rfl | hdir
        · rw [walk] at h
          injection h with hplace
          injection hplace with hloc hnone
          rw [← hloc]
          exact ⟨hnone, by simp⟩
        · dsimp only at h
          rw [hdir] at h
          exact ih h

/-- A walk that ended at a missing place finds what is put there. -/
theorem walk_link (hnone : d.node? loc = none) (hroot : loc ≠ [])
    (h : d.walk l (some .directory) names = .ok ⟨loc, none, b⟩) :
    (d.link loc x).walk l (some .directory) names = .ok ⟨loc, some x, b⟩ := by
  induction names generalizing l with
  | nil => simp [walk] at h
  | cons name names ih =>
      rw [walk] at h ⊢
      split_ifs at h ⊢ with hdot hlast hup hlast hlong
      · cases h
      · exact ih h
      · cases h
      · exact ih h
      · rcases eq_nil_or_directory_of_walk h with rfl | hdir
        · rw [walk] at h ⊢
          injection h with hplace
          injection hplace with hloc _ hb
          rw [hloc, hb, node?_link_self d hroot]
        · dsimp only at h ⊢
          -- A directory stands here, so this is not yet the missing place.
          have hne : l ++ [name] ≠ loc := by
            intro heq
            rw [heq, hnone] at hdir
            cases hdir
          rw [hdir] at h
          rw [node?_link_of_ne d hne, hdir]
          exact ih h

/-- A walk to what is there already goes the same way when something is put at a missing place. -/
theorem walk_link_of_found {other : Location} {y : Node} (hnone : d.node? other = none)
    (h : d.walk l (some .directory) names = .ok ⟨loc, some x, b⟩) :
    (d.link other y).walk l (some .directory) names = .ok ⟨loc, some x, b⟩ := by
  have hne : ∀ {m : Location} {z : Node}, d.node? m = some z → m ≠ other := by
    intro m z hm heq
    rw [heq, hnone] at hm
    cases hm
  induction names generalizing l with
  | nil => exact h
  | cons name names ih =>
      rw [walk] at h ⊢
      split_ifs at h ⊢ with hdot hlast hup hlast hlong
      · exact h
      · exact ih h
      · exact h
      · exact ih h
      · dsimp only at h ⊢
        rcases eq_nil_or_directory_of_walk h with rfl | hdir
        · rw [walk] at h ⊢
          injection h with hplace
          injection hplace with hloc hfound hb
          rw [node?_link_of_ne d (hne hfound), hfound, hloc, hb]
        · rw [hdir] at h
          rw [node?_link_of_ne d (hne hdir), hdir]
          exact ih h

/-! ## Paths -/

theorem locate_contents (d : Disk) (c : List Bytes) (p : Path) :
    ({ d with contents := c } : Disk).locate p = d.locate p := by
  simp only [locate, walk_contents]

theorem locate_setContent (d : Disk) (number : Nat) (bs : Bytes) (p : Path) :
    (d.setContent number bs).locate p = d.locate p :=
  locate_contents d _ p

/-- Where a path leads is settled by the walk along its names. -/
theorem locate_of_walk {d' : Disk} {p : Path} {n m : Option Node}
    (hcurrent : d'.current = d.current)
    (hwalk : ∀ l names b, d.walk l (some .directory) names = .ok ⟨loc, n, b⟩ →
      d'.walk l (some .directory) names = .ok ⟨loc, m, b⟩)
    (h : d.locate p = .ok ⟨loc, n, b⟩) : d'.locate p = .ok ⟨loc, m, b⟩ := by
  unfold locate at h ⊢
  rw [hcurrent]
  by_cases hempty : p = []
  · rw [if_pos hempty] at h
    cases h
  by_cases hzero : p.contains 0 = true
  · rw [if_neg hempty, if_pos hzero] at h
    cases h
  by_cases hlong : maxPath < p.length
  · rw [if_neg hempty, if_neg hzero, if_pos hlong] at h
    cases h
  rw [if_neg hempty, if_neg hzero, if_neg hlong] at h ⊢
  dsimp only at h ⊢
  split at h
  · cases h
  · next place hplace =>
      cases h
      rw [hwalk _ _ _ hplace]

/-- What a path finds missing is missing in the tree. -/
theorem node?_of_locate {p : Path} (h : d.locate p = .ok ⟨loc, none, b⟩) : d.node? loc = none := by
  unfold locate at h
  split at h
  · cases h
  split at h
  · cases h
  split at h
  · cases h
  dsimp only at h
  split at h
  · cases h
  · next place hplace =>
      obtain ⟨l, n, asDirectory⟩ := place
      injection h with hplaces
      injection hplaces with hloc hnone
      subst hloc hnone
      exact (node?_of_walk hplace).1

theorem locate_create {p : Path} {executable : Bool} (h : d.locate p = .ok ⟨loc, none, b⟩) :
    (d.create loc executable).1.locate p =
      .ok ⟨loc, some (.file (d.create loc executable).2 executable), b⟩ := by
  refine (locate_contents (d.link loc _) _ p).trans ?_
  refine locate_of_walk (by rfl) ?_ h
  intro l names b hwalk
  obtain ⟨hnone, hroot⟩ := node?_of_walk hwalk
  exact walk_link hnone hroot hwalk

/-- A path that a file was opened at leads to that file, whether it was there or was made. -/
theorem locate_of_openTarget {d' : Disk} {p : Path} {number : Nat}
    (h : d.openTarget p = .ok (d', .file number)) :
    ∃ loc executable, d'.locate p = .ok ⟨loc, some (.file number executable), false⟩ := by
  unfold openTarget at h
  split at h
  · cases h
  · next place hplace =>
      obtain ⟨loc, found, asDirectory⟩ := place
      cases asDirectory with
      | true => cases h
      | false =>
          rcases found with _ | _ | ⟨n, executable⟩ | _
          · injection h with hmade
            injection hmade with hdisk htarget
            injection htarget with hnumber
            rw [← hdisk, ← hnumber]
            exact ⟨loc, false, locate_create hplace⟩
          · cases h
          · cases h
            exact ⟨loc, executable, hplace⟩
          · cases h

/-- Opening a file leaves every path where it led to something. -/
theorem locate_openTarget {e : Disk} {p q : Path} {t : Target} (hopen : d.openTarget q = .ok (e, t))
    (h : d.locate p = .ok ⟨loc, some x, b⟩) : e.locate p = .ok ⟨loc, some x, b⟩ := by
  unfold openTarget at hopen
  split at hopen
  · cases hopen
  · next place hplace =>
      obtain ⟨other, found, asDirectory⟩ := place
      cases asDirectory with
      | true => cases hopen
      | false =>
          rcases found with _ | _ | ⟨n, executable⟩ | _
          · injection hopen with hmade
            injection hmade with hdisk
            rw [← hdisk]
            refine (locate_contents (d.link other _) _ p).trans ?_
            refine locate_of_walk (by rfl) ?_ h
            intro l names b' hwalk
            exact walk_link_of_found (node?_of_locate hplace) hwalk
          · cases hopen
          · cases hopen
            exact h
          · cases hopen
            exact h

end ProxyWarden.Disk

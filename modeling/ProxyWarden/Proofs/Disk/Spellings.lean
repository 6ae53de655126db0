import Mathlib.Logic.Relation
import ProxyWarden.Proofs.Disk.Places

/-!
# Spellings of a place

Paths with different components may still lead to one place. A dot in front changes nothing, nor
does a name that is left again or a step above the root, and a relative path is short for an
absolute one. These are all the ways: two paths lead to one location exactly if such changes make
their components the same (`location_eq_iff`). Paths that only go down, from the same kind of
beginning, lead to one location only if they are the same (`components_eq_of_location_eq`). On a
disk a path leads to its location or nowhere (`location_of_locate`).
-/
namespace ProxyWarden

namespace Path

variable {start : List Bytes} {cs ds : List Component} {p q : Path}

/-- One change of the components that leads to the same place, seen from a directory. -/
inductive Respelled (start : List Bytes) : List Component → List Component → Prop
  /-- A dot stays where it is. -/
  | here (front rest : List Component) : Respelled start (front ++ .here :: rest) (front ++ rest)
  /-- A name that is left at once need not be entered. -/
  | back (front : List Component) (n : Bytes) (rest : List Component) :
      Respelled start (front ++ .name n :: .up :: rest) (front ++ rest)
  /-- Nothing is above the root. -/
  | top (rest : List Component) : Respelled start (.root :: .up :: rest) (.root :: rest)
  /-- A relative path goes on from the directory. -/
  | relative (cs : List Component) (h : .root ∉ cs) :
      Respelled start cs (.root :: start.map .name ++ cs)

/-- Some changes make the components of both the same. -/
def Alike (start : List Bytes) (p q : Path) : Prop :=
  Relation.Join (Relation.ReflTransGen (Respelled start)) p.components q.components

/-- Both paths only go down, and they begin in the same way. -/
structure BothDown (p q : Path) : Prop where
  left : .up ∉ p.components
  right : .up ∉ q.components
  root : .root ∈ p.components ↔ .root ∈ q.components
  here : .here ∈ p.components ↔ .here ∈ q.components

/-! ## Components -/

/-- A path has at most one component that is neither a name nor a step up, and it is the first. -/
theorem components_eq (p : Path) : ∃ front : List Component,
    (front = [.root] ∨ front = [.here] ∨ front = []) ∧
      p.components = front ++ p.names.filterMap component? := by
  unfold components
  dsimp only
  split_ifs
  · exact ⟨_, .inl rfl, rfl⟩
  · exact ⟨_, .inr (.inl rfl), rfl⟩
  · exact ⟨_, .inr (.inr rfl), rfl⟩

theorem component?_of_blank {n : Bytes} (h : n = [] ∨ n = dot) : component? n = none := if_pos h

@[simp] theorem component?_dotDot : component? dotDot = some .up := rfl

theorem component?_of_name {n : Bytes} (h : ¬(n = [] ∨ n = dot)) (hup : n ≠ dotDot) :
    component? n = some (.name n) := by
  rw [component?, if_neg h, if_neg hup]

theorem component?_eq_some {n : Bytes} {c : Component} (h : component? n = some c) :
    c = .up ∨ c = .name n := by
  unfold component? at h
  split_ifs at h
  · exact .inl (Option.some.inj h).symm
  · exact .inr (Option.some.inj h).symm

theorem mem_filterMap_component? {ns : List Bytes} {c : Component}
    (h : c ∈ ns.filterMap component?) : c = .up ∨ ∃ n, c = .name n := by
  obtain ⟨n, -, hn⟩ := List.mem_filterMap.1 h
  exact (component?_eq_some hn).imp_right fun hname => ⟨n, hname⟩

theorem root_notMem_filterMap (ns : List Bytes) : .root ∉ ns.filterMap component? := by
  intro h
  obtain hup | ⟨n, hname⟩ := mem_filterMap_component? h
  · cases hup
  · cases hname

theorem location_eq (start : List Bytes) (p : Path) : p.location start =
    (p.names.filterMap component?).foldl follow (if p.isAbsolute then [] else start) := by
  unfold location components
  dsimp only
  split_ifs
  · rfl
  · rfl
  · rfl

/-- Components that are all names. -/
theorem exists_names (h : ∀ c ∈ cs, ∃ n, c = .name n) : ∃ ns : List Bytes, cs = ns.map .name := by
  induction cs with
  | nil => exact ⟨[], rfl⟩
  | cons c cs ih =>
      rw [List.forall_mem_cons] at h
      obtain ⟨n, rfl⟩ := h.1
      obtain ⟨ns, rfl⟩ := ih h.2
      exact ⟨n :: ns, rfl⟩

theorem foldl_follow_names (l ns : List Bytes) : (ns.map .name).foldl follow l = l ++ ns := by
  induction ns generalizing l with
  | nil => exact (List.append_nil l).symm
  | cons n ns ih =>
      rw [List.map_cons, List.foldl_cons, ih, follow, List.append_assoc, List.singleton_append]

/-! ## Respelling leads to the same place -/

theorem Respelled.foldl_follow (h : Respelled start cs ds) :
    cs.foldl follow start = ds.foldl follow start := by
  cases h with
  | here front rest => rw [List.foldl_append, List.foldl_append, List.foldl_cons, follow]
  | back front n rest =>
      rw [List.foldl_append, List.foldl_append, List.foldl_cons, List.foldl_cons, follow, follow,
        List.dropLast_concat]
  | top rest => rfl
  | relative cs h =>
      rw [List.cons_append, List.foldl_cons, List.foldl_append, foldl_follow_names, follow,
        List.nil_append]

theorem foldl_follow_of_respelled (h : Relation.ReflTransGen (Respelled start) cs ds) :
    cs.foldl follow start = ds.foldl follow start := by
  induction h with
  | refl => rfl
  | tail _ hstep ih => exact ih.trans hstep.foldl_follow

/-! ## Every path can be respelled by the names on the way to its place -/

/-- Names that were gone through already stand in front of the rest. -/
theorem respelled_from (h : .root ∉ cs) (l : List Bytes) :
    Relation.ReflTransGen (Respelled start) (.root :: l.map .name ++ cs)
      (.root :: (cs.foldl follow l).map .name) := by
  induction cs generalizing l with
  | nil =>
      rw [List.append_nil]
      exact .refl
  | cons c cs ih =>
      rw [List.mem_cons, not_or] at h
      rw [List.foldl_cons]
      cases c with
      | root => exact absurd rfl h.1
      | here => exact .head (.here _ cs) (ih h.2 l)
      | up =>
          obtain rfl | ⟨front, n, hl⟩ := List.eq_nil_or_concat l
          · exact .head (.top cs) (ih h.2 [])
          · rw [hl, List.concat_eq_append, List.map_append, ← List.cons_append, List.append_assoc,
              follow, List.dropLast_concat]
            exact .head (.back _ n cs) (ih h.2 front)
      | name n =>
          have hentered := ih h.2 (l ++ [n])
          rw [List.map_append, ← List.cons_append, List.append_assoc] at hentered
          exact hentered

theorem respelled_location (start : List Bytes) (p : Path) :
    Relation.ReflTransGen (Respelled start) p.components
      (.root :: (p.location start).map .name) := by
  obtain ⟨front, hfront, hp⟩ := components_eq p
  have hsteps := root_notMem_filterMap p.names
  unfold location
  rw [hp]
  obtain rfl | rfl | rfl := hfront
  · exact respelled_from hsteps []
  all_goals
    have hrelative : .root ∉ p.components := by simp [hp, hsteps]
    rw [hp] at hrelative
    exact .head (.relative _ hrelative) (respelled_from hrelative start)

/-- Two paths lead to one location exactly if they can be respelled to be the same. -/
theorem location_eq_iff (start : List Bytes) (p q : Path) :
    p.location start = q.location start ↔ Alike start p q := by
  constructor
  · intro h
    refine ⟨_, respelled_location start p, ?_⟩
    rw [h]
    exact respelled_location start q
  · rintro ⟨cs, hp, hq⟩
    exact (foldl_follow_of_respelled hp).trans (foldl_follow_of_respelled hq).symm

/-! ## Paths that only go down -/

theorem exists_names_of_down (h : .up ∉ p.components) : ∃ (front : List Component) (ns : List Bytes),
    (front = [.root] ∨ front = [.here] ∨ front = []) ∧ p.components = front ++ ns.map .name := by
  obtain ⟨front, hfront, hp⟩ := components_eq p
  have hnames : ∀ c ∈ p.names.filterMap component?, ∃ n, c = .name n := by
    intro c hc
    refine (mem_filterMap_component? hc).resolve_left ?_
    rintro rfl
    exact h (hp ▸ List.mem_append_right front hc)
  obtain ⟨ns, hns⟩ := exists_names hnames
  exact ⟨front, ns, hfront, hns ▸ hp⟩

/-- Paths that only go down from the same kind of beginning have one spelling. -/
theorem components_eq_of_location_eq (h : BothDown p q) (heq : p.location start = q.location start) :
    p.components = q.components := by
  obtain ⟨front, ns, hfront, hp⟩ := exists_names_of_down h.left
  obtain ⟨front', ms, hfront', hq⟩ := exists_names_of_down h.right
  have hroot := h.root
  have hhere := h.here
  have hsame : front = front' := by
    rw [hp, hq] at hroot hhere
    obtain rfl | rfl | rfl := hfront <;> obtain rfl | rfl | rfl := hfront' <;>
      simp at hroot hhere ⊢
  unfold location at heq
  rw [hp, hq, hsame, List.foldl_append, List.foldl_append, foldl_follow_names,
    foldl_follow_names] at heq
  rw [hp, hq, hsame, List.append_cancel_left heq]

end Path

/-! ## On a disk -/

namespace Disk

variable {d : Disk} {p q : Path} {place : Place}

theorem location_of_walk {l : Location} {n : Option Node} {names : List Bytes}
    (h : d.walk l n names = .ok place) :
    place.location = (names.filterMap Path.component?).foldl Path.follow l := by
  induction names generalizing l n with
  | nil =>
      cases h
      rfl
  | cons name names ih =>
      rw [walk.eq_def] at h
      dsimp only at h
      rw [List.filterMap_cons]
      split at h
      · cases h
      · split_ifs at h with hdot hlast hup hlast hlong
        · cases h
          rw [Path.component?_of_blank hdot, List.isEmpty_iff.1 hlast]
          rfl
        · rw [Path.component?_of_blank hdot]
          exact ih h
        · cases h
          rw [hup, Path.component?_dotDot, List.isEmpty_iff.1 hlast]
          rfl
        · rw [hup, Path.component?_dotDot]
          exact ih h
        · rw [Path.component?_of_name hdot hup]
          exact ih h
      · cases h

/-- A slash at the end leaves an empty name, which leads nowhere else. -/
theorem filterMap_kept (names : List Bytes) :
    (if names.getLast? == some [] then names.dropLast else names).filterMap Path.component? =
      names.filterMap Path.component? := by
  split_ifs with h
  · obtain ⟨front, rfl⟩ := List.getLast?_eq_some_iff.1 (beq_iff_eq.1 h)
    rw [List.dropLast_concat, List.filterMap_append]
    exact (List.append_nil _).symm
  · rfl

/-- A path leads to its location, seen from the current directory, or nowhere. -/
theorem location_of_locate (h : d.locate p = .ok place) :
    place.location = p.location d.current := by
  unfold locate at h
  split at h
  · cases h
  split at h
  · cases h
  split at h
  · cases h
  dsimp only at h
  split at h
  · cases h
  · next found hwalk =>
      cases h
      rw [location_of_walk hwalk, filterMap_kept, Path.location_eq]

/-- Two paths that both lead somewhere lead to one place exactly if they can be respelled to be the
same. -/
theorem locate_same_iff {other : Place} (h : d.locate p = .ok place)
    (hother : d.locate q = .ok other) :
    place.location = other.location ↔ Path.Alike d.current p q := by
  rw [location_of_locate h, location_of_locate hother, Path.location_eq_iff]

end Disk

end ProxyWarden

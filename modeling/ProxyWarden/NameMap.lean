/-!
# Maps from names

A finite map from names to values, kept as a list in strictly ascending order of the names, which
is also the order of their UTF-8 bytes. A name occurs at most once, so two maps with the same
entries are equal.
-/
namespace ProxyWarden

structure NameMap (α : Type) where
  entries : List (String × α)
  ascending : entries.Pairwise fun a b => a.1 < b.1

namespace NameMap

variable {α β : Type}

def empty : NameMap α := ⟨[], .nil⟩

instance : EmptyCollection (NameMap α) := ⟨empty⟩

instance : Inhabited (NameMap α) := ⟨empty⟩

@[ext] theorem ext {m n : NameMap α} (h : m.entries = n.entries) : m = n := by
  cases m; cases n; cases h; rfl

instance [DecidableEq α] : DecidableEq (NameMap α) := fun m n =>
  decidable_of_iff (m.entries = n.entries) ⟨ext, fun h => h ▸ rfl⟩

def keys (m : NameMap α) : List String := m.entries.map (·.1)

def size (m : NameMap α) : Nat := m.entries.length

def get? (m : NameMap α) (k : String) : Option α :=
  (m.entries.find? fun e => e.1 == k).map (·.2)

def contains (m : NameMap α) (k : String) : Bool := (m.get? k).isSome

/-- Puts an entry into an ascending list: `f` makes the new value from the old one. -/
def insertEntry (k : String) (f : Option α → α) : List (String × α) → List (String × α)
  | [] => [(k, f none)]
  | e :: es =>
    if k < e.1 then (k, f none) :: e :: es
    else if k = e.1 then (k, f (some e.2)) :: es
    else e :: insertEntry k f es

theorem key_of_mem_insertEntry {k : String} {f : Option α → α} {x : String × α}
    {es : List (String × α)} (h : x ∈ insertEntry k f es) : x.1 = k ∨ x ∈ es := by
  induction es with
  | nil =>
    simp only [insertEntry, List.mem_singleton] at h
    exact .inl (h ▸ rfl)
  | cons e es ih =>
    unfold insertEntry at h
    split at h
    · rcases List.mem_cons.1 h with rfl | h
      · exact .inl rfl
      · exact .inr h
    · split at h
      · rcases List.mem_cons.1 h with rfl | h
        · exact .inl rfl
        · exact .inr (List.mem_cons_of_mem _ h)
      · rcases List.mem_cons.1 h with rfl | h
        · exact .inr List.mem_cons_self
        · exact (ih h).imp_right (List.mem_cons_of_mem _)

theorem lt_of_not_lt_of_ne {a b : String} (h₁ : ¬ a < b) (h₂ : a ≠ b) : b < a :=
  Std.lt_of_le_of_ne (String.not_lt.1 h₁) (Ne.symm h₂)

theorem ascending_insertEntry {k : String} {f : Option α → α} {es : List (String × α)}
    (h : es.Pairwise fun a b => a.1 < b.1) :
    (insertEntry k f es).Pairwise fun a b => a.1 < b.1 := by
  induction es with
  | nil => simp [insertEntry]
  | cons e es ih =>
    rw [List.pairwise_cons] at h
    unfold insertEntry
    split
    · next hk =>
      refine List.pairwise_cons.2 ⟨fun x hx => ?_, List.pairwise_cons.2 h⟩
      rcases List.mem_cons.1 hx with rfl | hx
      · exact hk
      · exact String.lt_trans hk (h.1 x hx)
    · next hk =>
      split
      · next he => exact List.pairwise_cons.2 ⟨fun x hx => he ▸ h.1 x hx, h.2⟩
      · next he =>
        refine List.pairwise_cons.2 ⟨fun x hx => ?_, ih h.2⟩
        rcases key_of_mem_insertEntry hx with hx | hx
        · exact hx ▸ lt_of_not_lt_of_ne hk he
        · exact h.1 x hx

/-- Replaces or adds the value of a name, made from the old value if there is one. -/
def insertWith (m : NameMap α) (k : String) (f : Option α → α) : NameMap α :=
  ⟨insertEntry k f m.entries, ascending_insertEntry m.ascending⟩

/-- Replaces or adds the value of a name. -/
def insert (m : NameMap α) (k : String) (v : α) : NameMap α := m.insertWith k fun _ => v

/-- Keeps the names that satisfy `p`. -/
def restrict (m : NameMap α) (p : String → Bool) : NameMap α :=
  ⟨m.entries.filter fun e => p e.1, m.ascending.filter _⟩

def map (m : NameMap α) (f : α → β) : NameMap β :=
  ⟨m.entries.map fun e => (e.1, f e.2), List.pairwise_map.2 m.ascending⟩

/-- Pairs the values of the names that both maps hold. -/
def meet (m : NameMap α) (n : NameMap β) : NameMap (α × β) :=
  ⟨m.entries.filterMap fun e => (n.get? e.1).map fun b => (e.1, e.2, b), by
    refine List.Pairwise.filterMap _ (fun a b h x hx y hy => ?_) m.ascending
    simp only [Option.map_eq_some_iff] at hx hy
    obtain ⟨_, _, rfl⟩ := hx
    obtain ⟨_, _, rfl⟩ := hy
    exact h⟩

/-- The map of a list of entries, in which a later entry for a name replaces an earlier one. -/
def ofList (es : List (String × α)) : NameMap α := es.foldl (fun m e => m.insert e.1 e.2) empty

end NameMap

end ProxyWarden

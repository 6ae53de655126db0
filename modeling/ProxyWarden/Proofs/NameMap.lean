import Mathlib.Data.List.Sort
import ProxyWarden.NameMap

/-!
# Entries of a map

What a map holds after an insertion (`mem_entries_insert`) and what a map made from a list holds: for
every name the value of the last entry of the list (`mem_entries_ofList`). A map is made again from its
own entries (`ofList_entries`), and a look-up finds what the entries hold (`get?_eq_some_iff`).
-/
namespace ProxyWarden.NameMap

variable {α β : Type} {k : String} {v : α} {x : String × α} {es : List (String × α)}

theorem mem_insertEntry (h : es.Pairwise fun a b => a.1 < b.1) :
    x ∈ insertEntry k (fun _ => v) es ↔ x = (k, v) ∨ x.1 ≠ k ∧ x ∈ es := by
  induction es with
  | nil => simp [insertEntry]
  | cons e es ih =>
      rw [List.pairwise_cons] at h
      -- A name that comes before those of the list is none of them.
      have hbefore : ∀ {l : List (String × α)}, (∀ y ∈ l, k < y.1) →
          (x ∈ l ↔ x.1 ≠ k ∧ x ∈ l) := by
        intro l hl
        refine ⟨fun hx => ⟨?_, hx⟩, And.right⟩
        intro heq
        exact String.lt_irrefl k (heq ▸ hl x hx)
      unfold insertEntry
      split
      · next hlt =>
          have hall : ∀ y ∈ e :: es, k < y.1 := by
            rw [List.forall_mem_cons]
            exact ⟨hlt, fun y hy => String.lt_trans hlt (h.1 y hy)⟩
          rw [List.mem_cons]
          exact or_congr_right (hbefore hall)
      · next hlt =>
          split
          · next heq =>
              have hhead : ¬ (x.1 ≠ k ∧ x = e) := by
                rintro ⟨hne, rfl⟩
                exact hne heq.symm
              rw [List.mem_cons, List.mem_cons, and_or_left, hbefore (heq ▸ h.1)]
              simp [hhead]
          · next hne =>
              have hhead : x = e ↔ x.1 ≠ k ∧ x = e := by
                refine ⟨fun hx => ⟨?_, hx⟩, And.right⟩
                intro heq
                exact hne (by rw [← hx, heq])
              rw [List.mem_cons, List.mem_cons, ih h.2, and_or_left, ← hhead]
              exact or_left_comm

theorem insertEntry_of_lt (h : ∀ y ∈ es, y.1 < k) (f : Option α → α) :
    insertEntry k f es = es ++ [(k, f none)] := by
  induction es with
  | nil => rfl
  | cons e es ih =>
      rw [List.forall_mem_cons] at h
      have hne : k ≠ e.1 := by
        intro heq
        exact String.lt_irrefl k (heq ▸ h.1)
      rw [insertEntry, if_neg (String.lt_asymm h.1), if_neg hne, ih h.2]
      rfl

/-- An insertion replaces the entry of its name and no other. -/
theorem mem_entries_insert (m : NameMap α) :
    x ∈ (m.insert k v).entries ↔ x = (k, v) ∨ x.1 ≠ k ∧ x ∈ m.entries :=
  mem_insertEntry m.ascending

theorem ofList_concat (es : List (String × α)) (e : String × α) :
    ofList (es ++ [e]) = (ofList es).insert e.1 e.2 := by
  rw [ofList, List.foldl_append]
  rfl

/-- A map made from a list holds the value of the last entry of every name. -/
theorem mem_entries_ofList : x ∈ (ofList es).entries ↔ es.reverse.lookup x.1 = some x.2 := by
  induction hn : es.reverse generalizing es with
  | nil =>
      rw [List.reverse_eq_nil_iff] at hn
      simp [hn, ofList, empty]
  | cons e rest ih =>
      have hes : es = rest.reverse ++ [e] := by rw [← List.reverse_reverse es, hn, List.reverse_cons]
      rw [hes, ofList_concat, mem_entries_insert, ih (List.reverse_reverse rest), List.lookup_cons]
      by_cases hkey : x.1 = e.1
      · have hpair : x = (e.1, e.2) ↔ e.2 = x.2 := by
          rw [Prod.ext_iff, eq_comm (a := e.2)]
          simp [hkey]
        simp [hkey, hpair]
      · have hpair : x ≠ (e.1, e.2) := by
          rintro rfl
          exact hkey rfl
        have hbeq : (x.1 == e.1) = false := by simpa using hkey
        simp [hkey, hpair, hbeq]

theorem foldl_insert_entries (m : NameMap α)
    (h : (m.entries ++ es).Pairwise fun a b => a.1 < b.1) :
    (es.foldl (fun m e => m.insert e.1 e.2) m).entries = m.entries ++ es := by
  induction es generalizing m with
  | nil => simp
  | cons e es ih =>
      have hlt : ∀ y ∈ m.entries, y.1 < e.1 :=
        fun y hy => (List.pairwise_append.1 h).2.2 y hy e List.mem_cons_self
      have hentries : (m.insert e.1 e.2).entries = m.entries ++ [e] := insertEntry_of_lt hlt _
      rw [List.foldl_cons, ih, hentries]
      · simp
      · rw [hentries]
        simpa using h

/-- A map is made again from its own entries. -/
theorem ofList_entries (m : NameMap α) : ofList m.entries = m := by
  apply NameMap.ext
  exact foldl_insert_entries empty m.ascending

/-! ## Looking up -/

/-- A name occurs once. -/
theorem eq_of_mem_entries (m : NameMap α) {y : String × α} (hx : x ∈ m.entries)
    (hy : y ∈ m.entries) (h : x.1 = y.1) : x.2 = y.2 := by
  rw [← m.ofList_entries, mem_entries_ofList] at hx hy
  rw [h, hy] at hx
  exact (Option.some.inj hx).symm

theorem get?_eq_some_iff (m : NameMap α) : m.get? k = some v ↔ (k, v) ∈ m.entries := by
  rw [get?, Option.map_eq_some_iff]
  constructor
  · intro h
    obtain ⟨e, he, rfl⟩ := h
    have hkey : e.1 = k := by simpa using List.find?_some he
    exact hkey ▸ List.mem_of_find?_eq_some he
  · intro h
    cases hfind : m.entries.find? fun e => e.1 == k with
    | none =>
        exact absurd (beq_self_eq_true k) (List.find?_eq_none.1 hfind (k, v) h)
    | some e =>
        have hkey : e.1 = k := by simpa using List.find?_some hfind
        exact ⟨e, rfl, m.eq_of_mem_entries (List.mem_of_find?_eq_some hfind) h hkey⟩

/-- A map is what a look-up finds in it. -/
theorem ext_get? {m n : NameMap α} (h : ∀ k, m.get? k = n.get? k) : m = n := by
  apply NameMap.ext
  have : Std.Antisymm fun a b : String × α => a.1 < b.1 :=
    ⟨fun _ _ hlt hgt => absurd hgt (String.lt_asymm hlt)⟩
  have : Std.Irrefl fun a b : String × α => a.1 < b.1 := ⟨fun a => String.lt_irrefl a.1⟩
  apply m.ascending.eq_of_mem_iff n.ascending
  intro e
  rw [← get?_eq_some_iff, ← get?_eq_some_iff, h]

theorem get?_insert_self (m : NameMap α) : (m.insert k v).get? k = some v := by
  rw [get?_eq_some_iff, mem_entries_insert]
  exact .inl rfl

theorem get?_insert_of_ne (m : NameMap α) {j : String} (h : j ≠ k) :
    (m.insert k v).get? j = m.get? j := by
  apply Option.ext
  intro w
  have hpair : (j, w) ≠ (k, v) := fun heq => h (congrArg Prod.fst heq)
  simp only [get?_eq_some_iff, mem_entries_insert, hpair, h, false_or, ne_eq, not_false_eq_true,
    true_and]

theorem insertEntry_eq (h : es.Pairwise fun a b => a.1 < b.1) (f : Option α → α) :
    insertEntry k f es =
      insertEntry k (fun _ => f ((es.find? fun e => e.1 == k).map (·.2))) es := by
  induction es with
  | nil => rfl
  | cons e es ih =>
      rw [List.pairwise_cons] at h
      unfold insertEntry
      split
      · next hlt =>
          -- The names after this one come later still, so the name is none of them.
          have hall : ∀ y ∈ e :: es, k < y.1 := by
            rw [List.forall_mem_cons]
            exact ⟨hlt, fun y hy => String.lt_trans hlt (h.1 y hy)⟩
          have hnone : (e :: es).find? (fun e => e.1 == k) = none := by
            rw [List.find?_eq_none]
            intro y hy hkey
            exact String.lt_irrefl k (beq_iff_eq.1 hkey ▸ hall y hy)
          rw [hnone]
          rfl
      · split
        · next heq =>
            simp [heq]
        · next hne =>
            have hbeq : (e.1 == k) = false := by simpa using Ne.symm hne
            rw [List.find?_cons, hbeq, ih h.2]

/-- Changing the value of a name is inserting the value made from the one that is there. -/
theorem insertWith_eq_insert (m : NameMap α) (f : Option α → α) :
    m.insertWith k f = m.insert k (f (m.get? k)) :=
  NameMap.ext (insertEntry_eq m.ascending f)

theorem get?_map (m : NameMap α) (f : α → β) : (m.map f).get? k = (m.get? k).map f := by
  rw [get?, get?, map, List.find?_map, Option.map_map, Option.map_map]
  rfl

/-- A map made from a list holds of every name what its last entry says. -/
theorem get?_ofList_eq_some_iff : (ofList es).get? k = some v ↔
    ∃ before after, es = before ++ (k, v) :: after ∧ ∀ e ∈ after, e.1 ≠ k := by
  rw [get?_eq_some_iff, mem_entries_ofList, List.lookup_eq_some_iff]
  constructor
  · intro h
    obtain ⟨after, before, hes, hafter⟩ := h
    refine ⟨before.reverse, after.reverse, ?_, ?_⟩
    · rw [← List.reverse_reverse es, hes]
      simp
    · intro e he
      have hne : (k != e.1) = true := hafter e (List.mem_reverse.1 he)
      exact Ne.symm (bne_iff_ne.1 hne)
  · intro h
    obtain ⟨before, after, rfl, hafter⟩ := h
    refine ⟨after.reverse, before.reverse, by simp, ?_⟩
    intro e he
    exact bne_iff_ne.2 (Ne.symm (hafter e (List.mem_reverse.1 he)))

theorem mem_keys_iff (m : NameMap α) : k ∈ m.keys ↔ ∃ v, m.get? k = some v := by
  simp only [keys, List.mem_map, get?_eq_some_iff]
  constructor
  · intro h
    obtain ⟨e, he, rfl⟩ := h
    exact ⟨e.2, he⟩
  · intro h
    obtain ⟨v, hv⟩ := h
    exact ⟨(k, v), hv, rfl⟩

theorem pairwise_keys (m : NameMap α) : m.keys.Pairwise (· < ·) := List.pairwise_map.2 m.ascending

theorem mem_keys_ofList : k ∈ (ofList es).keys ↔ ∃ e ∈ es, e.1 = k := by
  simp only [mem_keys_iff, get?_eq_some_iff, mem_entries_ofList]
  cases hlookup : es.reverse.lookup k with
  | none =>
      have hnone := List.lookup_eq_none_iff.1 hlookup
      constructor
      · intro h
        obtain ⟨v, hv⟩ := h
        cases hv
      · intro h
        obtain ⟨e, he, hkey⟩ := h
        have hne : (k != e.1) = true := hnone e (List.mem_reverse.2 he)
        exact absurd hkey.symm (bne_iff_ne.1 hne)
  | some v =>
      obtain ⟨after, before, hes, -⟩ := List.lookup_eq_some_iff.1 hlookup
      have hmem : (k, v) ∈ es.reverse := by simp [hes]
      exact iff_of_true ⟨v, rfl⟩ ⟨(k, v), List.mem_reverse.1 hmem, rfl⟩

/-! ## Parts and images -/

theorem mem_entries_restrict (m : NameMap α) (p : String → Bool) :
    x ∈ (m.restrict p).entries ↔ p x.1 = true ∧ x ∈ m.entries := by
  rw [and_comm]
  exact List.mem_filter

theorem restrict_restrict (m : NameMap α) (p : String → Bool) :
    (m.restrict p).restrict p = m.restrict p := by
  apply NameMap.ext
  simp [restrict, List.filter_filter]

theorem restrict_map (m : NameMap α) (p : String → Bool) (f : α → β) :
    (m.map f).restrict p = (m.restrict p).map f := by
  apply NameMap.ext
  simp only [restrict, map, List.filter_map, Function.comp_def]

theorem map_eq_self {m : NameMap α} {f : α → α} (h : ∀ e ∈ m.entries, f e.2 = e.2) :
    m.map f = m := by
  apply NameMap.ext
  change m.entries.map _ = m.entries
  rw [List.map_congr_left (g := id), List.map_id]
  intro e he
  rw [h e he]
  rfl

end ProxyWarden.NameMap

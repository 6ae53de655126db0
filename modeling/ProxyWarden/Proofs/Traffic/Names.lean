import ProxyWarden.Proofs.Text.Runs
import ProxyWarden.Traffic.Counter

/-!
# Names of counters

A counter name is read as that of a subject exactly if it is the counter name of that subject, whose
own name is not empty and has no `>` (`ofName?_eq_some_iff`). So a name never counts for two subjects.
-/
namespace ProxyWarden.Traffic.Subject

open Text (LeadsWith leadsWith_takeWhile)

variable {s t : Subject} {kind : Kind} {way : Way} {w cs rest : List Char} {name : String}

/-- What a user or a tag can be called in the name of a counter. -/
def IsName (name : String) : Prop := name ≠ "" ∧ '>' ∉ name.toList

instance (name : String) : Decidable (IsName name) := inferInstanceAs (Decidable (_ ∧ _))

theorem after?_eq_some_iff : after? w cs = some rest ↔ cs = w ++ rest := by
  unfold after?
  split
  · next h =>
      obtain ⟨front, hfront⟩ := List.isPrefixOf_iff_prefix.1 h
      rw [← hfront, List.drop_left, Option.some_inj, List.append_cancel_left_eq]
  · next h =>
      constructor
      · intro hnone
        cases hnone
      · rintro rfl
        exact absurd (List.isPrefixOf_iff_prefix.2 (List.prefix_append w rest)) h

/-- The text behind the name of a subject in a counter name. -/
def wayText (way : Way) : List Char :=
  separator ++ "traffic".toList ++ separator ++ way.name.toList

theorem head?_wayText (way : Way) : (wayText way).head? = some '>' := rfl

theorem way?_eq_some_iff : way? cs = some way ↔ cs = wayText way := by
  unfold way? wayText
  cases hafter : after? (separator ++ "traffic".toList ++ separator) cs with
  | none =>
      constructor
      · intro hnone
        cases hnone
      · intro htext
        cases hafter.symm.trans (after?_eq_some_iff.2 htext)
  | some r =>
      rw [after?_eq_some_iff.1 hafter, List.append_cancel_left_eq]
      dsimp only
      constructor
      · intro hfind
        have hway := List.find?_some (p := fun w : Way => w.name.toList == r) hfind
        exact (beq_iff_eq.1 hway).symm
      · rintro rfl
        cases way with
        | downlink => rfl
        | uplink => rfl

/-- A counter name is the kind, the name of the subject, and the way. -/
theorem counterName_eq (s : Subject) :
    s.counterName = (s.kind.name.toList ++ separator) ++ (s.name.toList ++ wayText s.way) := by
  simp only [counterName, wayText, List.append_assoc]

theorem IsName.leadsWith (h : IsName name) (way : Way) :
    LeadsWith (fun c => c != '>') (name.toList ++ wayText way) name.toList (wayText way) where
  text := rfl
  run := by
    intro c hc
    rw [bne_iff_ne]
    rintro rfl
    exact h.2 hc
  ends := by
    intro c hc
    rw [head?_wayText] at hc
    cases hc
    rfl

theorem isName_ofList (hne : cs ≠ []) (hrun : ∀ c ∈ cs, (c != '>') = true) :
    IsName (String.ofList cs) := by
  unfold IsName
  rw [← String.toList_inj.ne, String.toList_ofList]
  refine ⟨hne, ?_⟩
  intro hmem
  cases hrun '>' hmem

theorem ofKind?_eq_some_iff :
    ofKind? kind cs = some s ↔ s.kind = kind ∧ IsName s.name ∧ cs = s.counterName := by
  unfold ofKind?
  rw [counterName_eq]
  cases hafter : after? (kind.name.toList ++ separator) cs with
  | none =>
      constructor
      · intro hnone
        cases hnone
      · rintro ⟨rfl, -, htext⟩
        cases hafter.symm.trans (after?_eq_some_iff.2 htext)
  | some r =>
      rw [after?_eq_some_iff.1 hafter]
      dsimp only
      constructor
      · intro hread
        have hlead := leadsWith_takeWhile (fun c => c != '>') r
        generalize r.takeWhile (fun c => c != '>') = run at hread hlead
        generalize r.dropWhile (fun c => c != '>') = after at hread hlead
        split at hread
        · cases hread
        · next hempty =>
            rw [Option.map_eq_some_iff] at hread
            obtain ⟨way, hway, rfl⟩ := hread
            refine ⟨rfl, isName_ofList (by simpa using hempty) hlead.run, ?_⟩
            rw [hlead.text, way?_eq_some_iff.1 hway, String.toList_ofList]
      · rintro ⟨rfl, hname, htext⟩
        rw [List.append_cancel_left_eq] at htext
        subst htext
        obtain ⟨hrun, hafter⟩ := (hname.leadsWith s.way).eq
        have hne : s.name.toList.isEmpty = false := by
          rw [List.isEmpty_eq_false_iff, ne_eq, String.toList_eq_nil_iff]
          exact hname.1
        rw [hrun, hafter, hne, way?_eq_some_iff.2 rfl, String.ofList_toList]
        rfl

theorem head?_counterName (s : Subject) : s.counterName.head? = s.kind.name.toList.head? := by
  rw [counterName_eq, List.append_assoc, List.head?_append]
  cases s.kind with
  | user => rfl
  | inbound => rfl
  | outbound => rfl

theorem kind_eq_of_counterName_eq (h : s.counterName = t.counterName) : s.kind = t.kind := by
  have hhead := congrArg List.head? h
  rw [head?_counterName, head?_counterName] at hhead
  generalize s.kind = k at hhead ⊢
  generalize t.kind = l at hhead ⊢
  cases k <;> cases l <;> first | rfl | exact absurd hhead (by decide)

/-- A counter name is read as that of a subject exactly if it is its counter name. -/
theorem ofName?_eq_some_iff :
    ofName? name = some s ↔ IsName s.name ∧ name.toList = s.counterName := by
  unfold ofName?
  constructor
  · intro h
    obtain ⟨kind, -, hkind⟩ := List.exists_of_findSome?_eq_some h
    exact (ofKind?_eq_some_iff.1 hkind).2
  · rintro ⟨hname, htext⟩
    have hread : ofKind? s.kind name.toList = some s := ofKind?_eq_some_iff.2 ⟨rfl, hname, htext⟩
    cases hfound : [Kind.user, .inbound, .outbound].findSome? fun k => ofKind? k name.toList with
    | none =>
        rw [List.findSome?_eq_none_iff] at hfound
        have hnone := hfound s.kind (by cases s.kind <;> simp)
        cases hnone.symm.trans hread
    | some t =>
        obtain ⟨kind, -, hkind⟩ := List.exists_of_findSome?_eq_some hfound
        obtain ⟨rfl, -, htext'⟩ := ofKind?_eq_some_iff.1 hkind
        rw [kind_eq_of_counterName_eq (htext'.symm.trans htext)] at hkind
        exact hkind.symm.trans hread

/-- No name is the counter name of two subjects. -/
theorem counterName_inj (hs : IsName s.name) (ht : IsName t.name)
    (h : s.counterName = t.counterName) : s = t := by
  have hread : ofName? (String.ofList s.counterName) = some s :=
    ofName?_eq_some_iff.2 ⟨hs, String.toList_ofList⟩
  have hread' : ofName? (String.ofList s.counterName) = some t :=
    ofName?_eq_some_iff.2 ⟨ht, by rw [String.toList_ofList, h]⟩
  exact Option.some.inj (hread.symm.trans hread')

example : counterName ⟨.user, "ann", .uplink⟩ = "user>>>ann>>>traffic>>>uplink".toList := by decide

end ProxyWarden.Traffic.Subject

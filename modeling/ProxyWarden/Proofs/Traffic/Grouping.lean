import Mathlib.Algebra.GroupWithZero.Nat
import Mathlib.Data.List.Induction
import ProxyWarden.Proofs.NameMap
import ProxyWarden.Proofs.Traffic.Names
import ProxyWarden.Traffic.Sample

/-!
# What a sample adds up

A sample holds a user or a tag exactly if some counter has a counter name of it, and its volumes are
the sums of the counters of exactly these names, as far as they fit a word. The other counters and the
order of all of them do not matter (`ofCounters_groups`).
-/
namespace ProxyWarden.Traffic

open Subject (IsName counterName)

variable {cs ds : List Counter} {c : Counter} {s : Sample} {kind : Kind} {name : String} {way : Way}

/-- A user or a tag of this name is sampled: the name can stand in a counter name, and is not the tag of
the program's own calls. -/
def IsSampled (kind : Kind) (name : String) : Prop :=
  IsName name ∧ (kind = .user ∨ name ≠ Subject.ownTag)

instance (kind : Kind) (name : String) : Decidable (IsSampled kind name) :=
  inferInstanceAs (Decidable (_ ∧ _))

def Counter.CountsFor (c : Counter) (kind : Kind) (name : String) : Prop :=
  ∃ way, c.name.toList = counterName ⟨kind, name, way⟩

def total (cs : List Counter) (subject : Subject) : Nat :=
  ((cs.filter fun c => c.name.toList == subject.counterName).map (·.value)).sum

/-- The volumes of a user or tag: the sums of its counters, as far as they fit a word. -/
def volume (cs : List Counter) (kind : Kind) (name : String) : Volume where
  sent := min maxWord (total cs ⟨kind, name, .uplink⟩)
  received := min maxWord (total cs ⟨kind, name, .downlink⟩)

theorem eq_volume_iff {v : Volume} : v = volume cs kind name ↔
    v.sent = min maxWord (total cs ⟨kind, name, .uplink⟩) ∧
      v.received = min maxWord (total cs ⟨kind, name, .downlink⟩) := by
  cases v
  simp [volume]

theorem total_concat (cs : List Counter) (c : Counter) (subject : Subject) :
    total (cs ++ [c]) subject =
      total cs subject + if c.name.toList = subject.counterName then c.value else 0 := by
  unfold total
  rw [List.filter_append, List.map_append, List.sum_append]
  by_cases h : c.name.toList = subject.counterName
  · simp [h]
  · simp [h]

theorem total_perm (h : cs.Perm ds) (subject : Subject) : total cs subject = total ds subject :=
  ((h.filter _).map _).sum_nat

/-! ## One counter more -/

namespace Sample

theorem ofCounters_concat (cs : List Counter) (c : Counter) :
    ofCounters (cs ++ [c]) = (ofCounters cs).add c := by
  unfold ofCounters
  rw [List.foldl_append]
  rfl

theorem ofKind_modify (s : Sample) (kind : Kind) (f : NameMap Volume → NameMap Volume) (k : Kind) :
    (s.modify kind f).ofKind k = if k = kind then f (s.ofKind k) else s.ofKind k := by
  cases kind <;> cases k <;> rfl

theorem get?_addTo (s : Sample) (subject : Subject) (n : Nat) (kind : Kind) (name : String) :
    ((s.addTo subject n).ofKind kind).get? name =
      if kind = subject.kind ∧ name = subject.name then
        some ((((s.ofKind kind).get? name).getD .zero).add subject.way n)
      else (s.ofKind kind).get? name := by
  unfold addTo
  rw [ofKind_modify]
  by_cases hkind : kind = subject.kind
  · rw [if_pos hkind, NameMap.insertWith_eq_insert]
    by_cases hname : name = subject.name
    · rw [if_pos ⟨hkind, hname⟩, ← hname, NameMap.get?_insert_self]
    · rw [if_neg fun h => hname h.2, NameMap.get?_insert_of_ne _ hname]
  · rw [if_neg hkind, if_neg fun h => hkind h.1]

theorem isSampled_iff (subject : Subject) (h : IsName subject.name) :
    subject.isSampled = true ↔ IsSampled subject.kind subject.name := by
  unfold Subject.isSampled IsSampled
  cases subject.kind <;> simp [h]

/-- A counter of a sampled user or tag adds to its volume. -/
theorem get?_add_of_named (s : Sample) (hs : IsSampled kind name)
    (hc : c.name.toList = counterName ⟨kind, name, way⟩) :
    ((s.add c).ofKind kind).get? name =
      some ((((s.ofKind kind).get? name).getD .zero).add way c.value) := by
  have hread : Subject.ofName? c.name = some ⟨kind, name, way⟩ :=
    Subject.ofName?_eq_some_iff.2 ⟨hs.1, hc⟩
  unfold add
  rw [hread]
  dsimp only
  rw [if_pos ((isSampled_iff ⟨kind, name, way⟩ hs.1).2 hs), get?_addTo, if_pos ⟨rfl, rfl⟩]

/-- Any other counter leaves the volume as it is. -/
theorem get?_add_of_not_counts (s : Sample) (h : IsSampled kind name → ¬ c.CountsFor kind name) :
    ((s.add c).ofKind kind).get? name = (s.ofKind kind).get? name := by
  unfold add
  cases hread : Subject.ofName? c.name with
  | none => rfl
  | some subject =>
      have hnamed := Subject.ofName?_eq_some_iff.1 hread
      dsimp only
      by_cases hsampled : subject.isSampled = true
      · rw [if_pos hsampled, get?_addTo, if_neg]
        intro hsame
        rw [isSampled_iff subject hnamed.1, ← hsame.1, ← hsame.2] at hsampled
        refine h hsampled ⟨subject.way, ?_⟩
        rw [hnamed.2, hsame.1, hsame.2]
      · rw [if_neg hsampled]

end Sample

/-! ## All counters -/

theorem way_eq_of_counterName_eq {way' : Way} (h : IsName name)
    (heq : counterName ⟨kind, name, way⟩ = counterName ⟨kind, name, way'⟩) : way = way' := by
  have hsame : (⟨kind, name, way⟩ : Subject) = ⟨kind, name, way'⟩ := Subject.counterName_inj h h heq
  injection hsame

theorem volume_concat_of_named (hs : IsSampled kind name)
    (hc : c.name.toList = counterName ⟨kind, name, way⟩) (cs : List Counter) :
    volume (cs ++ [c]) kind name = (volume cs kind name).add way c.value := by
  have hother : ∀ way', way ≠ way' → c.name.toList ≠ counterName ⟨kind, name, way'⟩ := by
    intro way' hne heq
    exact hne (way_eq_of_counterName_eq hs.1 (hc.symm.trans heq))
  unfold volume Volume.add addClamped
  cases way with
  | downlink =>
      have hsent := hother .uplink (by decide)
      simp only [total_concat, if_pos hc, if_neg hsent, Volume.mk.injEq]
      omega
  | uplink =>
      have hreceived := hother .downlink (by decide)
      simp only [total_concat, if_pos hc, if_neg hreceived, Volume.mk.injEq]
      omega

theorem volume_concat_of_not_counts (h : ¬ c.CountsFor kind name) (cs : List Counter) :
    volume (cs ++ [c]) kind name = volume cs kind name := by
  have hnone : ∀ way, c.name.toList ≠ counterName ⟨kind, name, way⟩ := fun way heq => h ⟨way, heq⟩
  simp only [volume, total_concat, if_neg (hnone _), Nat.add_zero]

/-- The volume in a sample, whether or not the sample holds one. -/
theorem getD_ofCounters (hs : IsSampled kind name) (cs : List Counter) :
    (((Sample.ofCounters cs).ofKind kind).get? name).getD .zero = volume cs kind name := by
  induction cs using List.reverseRecOn with
  | nil => cases kind <;> rfl
  | append_singleton cs c ih =>
      rw [Sample.ofCounters_concat]
      by_cases hc : c.CountsFor kind name
      · obtain ⟨way, hway⟩ := hc
        rw [Sample.get?_add_of_named _ hs hway, Option.getD_some, ih, volume_concat_of_named hs hway]
      · rw [Sample.get?_add_of_not_counts _ fun _ => hc, ih, volume_concat_of_not_counts hc]

theorem isSome_ofCounters_iff (cs : List Counter) (kind : Kind) (name : String) :
    (((Sample.ofCounters cs).ofKind kind).get? name).isSome = true ↔
      IsSampled kind name ∧ ∃ c ∈ cs, c.CountsFor kind name := by
  induction cs using List.reverseRecOn with
  | nil => cases kind <;> simp [Sample.ofCounters, Sample.empty, Sample.ofKind, NameMap.get?, NameMap.empty]
  | append_singleton cs c ih =>
      rw [Sample.ofCounters_concat]
      by_cases hc : IsSampled kind name ∧ c.CountsFor kind name
      · obtain ⟨hs, way, hway⟩ := hc
        rw [Sample.get?_add_of_named _ hs hway]
        simp only [Option.isSome_some, true_iff]
        exact ⟨hs, c, by simp, way, hway⟩
      · rw [Sample.get?_add_of_not_counts _ fun hs hcounts => hc ⟨hs, hcounts⟩, ih]
        simp only [List.mem_append, List.mem_singleton, or_and_right, exists_or, exists_eq_left,
          and_or_left, hc, or_false]

/-- A sample holds what is sampled and counted, with the sums of the counters. -/
theorem get?_ofCounters_eq_some_iff {v : Volume} :
    ((Sample.ofCounters cs).ofKind kind).get? name = some v ↔
      (IsSampled kind name ∧ ∃ c ∈ cs, c.CountsFor kind name) ∧ v = volume cs kind name := by
  rw [← isSome_ofCounters_iff, Option.isSome_iff_exists]
  constructor
  · intro h
    have hs := ((isSome_ofCounters_iff cs kind name).1 (by rw [h]; rfl)).1
    have hvolume := getD_ofCounters hs cs
    rw [h] at hvolume
    exact ⟨⟨v, h⟩, hvolume⟩
  · intro h
    obtain ⟨⟨w, hw⟩, rfl⟩ := h
    have hs := ((isSome_ofCounters_iff cs kind name).1 (by rw [hw]; rfl)).1
    have hvolume := getD_ofCounters hs cs
    rw [hw] at hvolume ⊢
    exact congrArg some hvolume

def Sample.Fits (s : Sample) : Prop :=
  ∀ kind name v, (s.ofKind kind).get? name = some v → v.sent ≤ maxWord ∧ v.received ≤ maxWord

theorem fits_ofCounters (cs : List Counter) : (Sample.ofCounters cs).Fits := by
  intro kind name v h
  obtain ⟨hsent, hreceived⟩ := eq_volume_iff.1 (get?_ofCounters_eq_some_iff.1 h).2
  rw [hsent, hreceived]
  exact ⟨Nat.min_le_left _ _, Nat.min_le_left _ _⟩

theorem Sample.ext_get? {s t : Sample}
    (h : ∀ kind name, (s.ofKind kind).get? name = (t.ofKind kind).get? name) : s = t := by
  have husers : s.users = t.users := NameMap.ext_get? (h .user)
  have hinbounds : s.inbounds = t.inbounds := NameMap.ext_get? (h .inbound)
  have houtbounds : s.outbounds = t.outbounds := NameMap.ext_get? (h .outbound)
  cases s
  cases t
  simp_all

/-- Counters that count for the same users and tags, with the same sums, give the same sample. -/
theorem ofCounters_congr
    (hcounts : ∀ kind name, IsSampled kind name →
      ((∃ c ∈ cs, c.CountsFor kind name) ↔ ∃ c ∈ ds, c.CountsFor kind name))
    (hvolume : ∀ kind name, IsSampled kind name → volume cs kind name = volume ds kind name) :
    Sample.ofCounters cs = Sample.ofCounters ds := by
  apply Sample.ext_get?
  intro kind name
  apply Option.ext
  intro v
  rw [get?_ofCounters_eq_some_iff, get?_ofCounters_eq_some_iff]
  by_cases hs : IsSampled kind name
  · rw [hcounts kind name hs, hvolume kind name hs]
  · simp [hs]

theorem ofCounters_perm (h : cs.Perm ds) : Sample.ofCounters cs = Sample.ofCounters ds := by
  apply ofCounters_congr
  · intro kind name _
    simp only [h.mem_iff]
  · intro kind name _
    simp only [volume, total_perm h]

/-- A counter that counts for nothing can be left out. -/
theorem ofCounters_append_cons (hc : ∀ kind name, IsSampled kind name → ¬ c.CountsFor kind name)
    (cs ds : List Counter) :
    Sample.ofCounters (cs ++ c :: ds) = Sample.ofCounters (cs ++ ds) := by
  have hlast : Sample.ofCounters (cs ++ ds ++ [c]) = Sample.ofCounters (cs ++ ds) := by
    rw [Sample.ofCounters_concat]
    apply Sample.ext_get?
    intro kind name
    exact Sample.get?_add_of_not_counts _ (hc kind name)
  rw [← hlast]
  apply ofCounters_perm
  rw [List.append_assoc]
  exact List.Perm.append_left cs (List.perm_append_singleton c ds).symm

/-- A sample holds a user or tag exactly if it is sampled and some counter has a counter name of it, and
then its volumes are the sums of the counters of these names, as far as they fit a word. All other
counters can be left out, and the counters can stand in any order. -/
theorem ofCounters_groups (cs : List Counter) :
    (∀ kind name v, ((Sample.ofCounters cs).ofKind kind).get? name = some v ↔
      ((IsName name ∧ (kind = .user ∨ name ≠ "api")) ∧
        ∃ c ∈ cs, ∃ way, c.name.toList = counterName ⟨kind, name, way⟩) ∧
      v.sent = min maxWord (total cs ⟨kind, name, .uplink⟩) ∧
      v.received = min maxWord (total cs ⟨kind, name, .downlink⟩)) ∧
    (∀ before c after, cs = before ++ c :: after →
      (∀ kind name way, IsName name → (kind = .user ∨ name ≠ "api") →
        c.name.toList ≠ counterName ⟨kind, name, way⟩) →
      Sample.ofCounters cs = Sample.ofCounters (before ++ after)) ∧
    ∀ ds, cs.Perm ds → Sample.ofCounters ds = Sample.ofCounters cs := by
  refine ⟨?_, ?_, fun ds h => (ofCounters_perm h).symm⟩
  · intro kind name v
    rw [get?_ofCounters_eq_some_iff, eq_volume_iff]
    rfl
  · intro before c after hcs hnone
    rw [hcs]
    apply ofCounters_append_cons
    intro kind name hs hcounts
    obtain ⟨way, hway⟩ := hcounts
    exact hnone kind name way hs.1 hs.2 hway

/-- A user whose uplink passes the largest word, an outbound tag of the same name, and the tag of the
program's own calls between them. -/
def sampleCounters : List Counter := [
  ⟨"user>>>ann>>>traffic>>>uplink", 5⟩,
  ⟨"inbound>>>api>>>traffic>>>downlink", 7⟩,
  ⟨"user>>>ann>>>traffic>>>uplink", maxWord⟩,
  ⟨"outbound>>>ann>>>traffic>>>downlink", 3⟩]

theorem ofCounters_groups_sameNames :
    ((Sample.ofCounters sampleCounters).ofKind .user).get? "ann" = some ⟨maxWord, 0⟩ ∧
    Sample.ofCounters sampleCounters =
      Sample.ofCounters (sampleCounters.take 1 ++ sampleCounters.drop 2) ∧
    Sample.ofCounters sampleCounters.reverse = Sample.ofCounters sampleCounters := by
  have hgroups := ofCounters_groups sampleCounters
  refine ⟨(hgroups.1 .user "ann" ⟨maxWord, 0⟩).2 ⟨⟨?_, ?_⟩, ?_⟩, ?_, ?_⟩
  · exact ⟨by decide, .inl rfl⟩
  · exact ⟨_, List.mem_cons_self, .uplink, by decide⟩
  · exact ⟨by decide +kernel, by decide +kernel⟩
  · refine hgroups.2.1 (sampleCounters.take 1) ⟨"inbound>>>api>>>traffic>>>downlink", 7⟩
      (sampleCounters.drop 2) rfl ?_
    intro kind name way hname hsampled htext
    have hown : Subject.ofName? "inbound>>>api>>>traffic>>>downlink" =
        some ⟨.inbound, "api", .downlink⟩ := by decide +kernel
    cases hown.symm.trans (Subject.ofName?_eq_some_iff.2 ⟨hname, htext⟩)
    exact absurd hsampled (by decide)
  · exact hgroups.2.2 sampleCounters.reverse (List.reverse_perm sampleCounters).symm

end ProxyWarden.Traffic

import Mathlib.Data.List.Pairwise
import ProxyWarden.Proofs.Text.Ordering
import ProxyWarden.Proofs.Traffic.Grouping
import ProxyWarden.Traffic.Difference

/-!
# What is reported of two samples

The difference of two samples has one snapshot for everything that both of them hold, the users before
the inbound and these before the outbound tags, and each in the order of the bytes of its names. A
snapshot depends on nothing but the volumes of what it is about (`mem_difference`). The samples list
their entries in any order, since what is found in both of them is sorted
(`difference_reports_common`).
-/
namespace ProxyWarden.Traffic

variable {prev next : Sample} {start stop : Nat} {kind : Kind} {name : String}

/-! ## The order of the snapshots -/

def Kind.rank : Kind → Nat
  | .user => 0
  | .inbound => 1
  | .outbound => 2

def Snapshot.key (s : Snapshot) : Kind × String := (s.kind, s.name)

/-- The kind comes first; of one kind, the bytes of the name decide. -/
def KeyPrecedes (a b : Kind × String) : Prop :=
  a.1.rank < b.1.rank ∨ a.1 = b.1 ∧ Utf8.encode a.2 < Utf8.encode b.2

theorem KeyPrecedes.ne {a b : Kind × String} (h : KeyPrecedes a b) : a ≠ b := by
  intro heq
  rw [heq] at h
  cases h with
  | inl hrank => exact Nat.lt_irrefl _ hrank
  | inr hname => exact List.lt_irrefl _ hname.2

/-! ## What is in the difference -/

/-- The totals are what was added in between; a volume that went down counts as nothing. -/
theorem Snapshot.totals_eq {s : Snapshot} {before after : Volume}
    (h : s = .between kind name before after start stop) (hsent : after.sent ≤ maxWord)
    (hreceived : after.received ≤ maxWord) :
    s.io.rx.total = after.received - before.received ∧ s.io.tx.total = after.sent - before.sent := by
  subst h
  constructor
  · change min (0 + (after.received - before.received)) maxWord = _
    omega
  · change min (0 + (after.sent - before.sent)) maxWord = _
    omega

namespace Sample

/-- The snapshot of an entry of the later sample, if the earlier sample has the entry too. -/
def compared (prev : Sample) (start stop : Nat) (key : Kind × String) (after : Volume) :
    Option Snapshot :=
  ((prev.ofKind key.1).get? key.2).map fun before => .between key.1 key.2 before after start stop

theorem differenceOf_eq (kind : Kind) (prev next : Sample) (start stop : Nat) :
    differenceOf kind prev next start stop =
      (next.ofKind kind).entries.filterMap fun e => prev.compared start stop (kind, e.1) e.2 := by
  unfold differenceOf NameMap.meet compared
  rw [List.map_filterMap]
  simp only [Option.map_map, Function.comp_def]

theorem mem_differenceOf {s : Snapshot} : s ∈ differenceOf kind prev next start stop ↔
    s.kind = kind ∧ ∃ before after, (prev.ofKind kind).get? s.name = some before ∧
      (next.ofKind kind).get? s.name = some after ∧
        s = .between kind s.name before after start stop := by
  rw [differenceOf_eq, List.mem_filterMap]
  unfold compared
  constructor
  · intro h
    obtain ⟨e, he, hs⟩ := h
    rw [Option.map_eq_some_iff] at hs
    obtain ⟨before, hbefore, rfl⟩ := hs
    exact ⟨rfl, before, e.2, hbefore, (NameMap.get?_eq_some_iff _).2 he, rfl⟩
  · intro h
    obtain ⟨-, before, after, hbefore, hafter, hs⟩ := h
    refine ⟨(s.name, after), (NameMap.get?_eq_some_iff _).1 hafter, ?_⟩
    rw [hbefore, hs]
    rfl

/-- A snapshot is in the difference exactly if both samples hold what it is about and it compares the
volumes there. -/
theorem mem_difference {s : Snapshot} : s ∈ prev.difference next start stop ↔
    ∃ before after, (prev.ofKind s.kind).get? s.name = some before ∧
      (next.ofKind s.kind).get? s.name = some after ∧
        s = .between s.kind s.name before after start stop := by
  unfold difference
  rw [List.mem_flatMap]
  constructor
  · intro h
    obtain ⟨kind, -, hs⟩ := h
    obtain ⟨rfl, hcommon⟩ := mem_differenceOf.1 hs
    exact hcommon
  · intro h
    exact ⟨s.kind, by cases s.kind <;> decide, mem_differenceOf.2 ⟨rfl, h⟩⟩

theorem mem_keys_difference : (kind, name) ∈ (prev.difference next start stop).map Snapshot.key ↔
    ((prev.ofKind kind).get? name).isSome ∧ ((next.ofKind kind).get? name).isSome := by
  rw [List.mem_map, Option.isSome_iff_exists, Option.isSome_iff_exists]
  constructor
  · intro h
    obtain ⟨s, hs, hkey⟩ := h
    obtain ⟨before, after, hbefore, hafter, -⟩ := mem_difference.1 hs
    cases hkey
    exact ⟨⟨before, hbefore⟩, after, hafter⟩
  · intro h
    obtain ⟨⟨before, hbefore⟩, after, hafter⟩ := h
    exact ⟨.between kind name before after start stop,
      mem_difference.2 ⟨before, after, hbefore, hafter, rfl⟩, rfl⟩

/-- The users, then the tags of either direction. -/
theorem difference_eq (prev next : Sample) (start stop : Nat) :
    prev.difference next start stop = differenceOf .user prev next start stop ++
      (differenceOf .inbound prev next start stop ++
        differenceOf .outbound prev next start stop) := by
  simp only [difference, List.flatMap_cons, List.flatMap_nil, List.append_nil]

theorem pairwise_differenceOf (kind : Kind) (prev next : Sample) (start stop : Nat) :
    (differenceOf kind prev next start stop).Pairwise fun a b => KeyPrecedes a.key b.key := by
  unfold differenceOf
  rw [List.pairwise_map]
  refine (NameMap.ascending _).imp ?_
  intro a b hlt
  exact .inr ⟨rfl, Utf8.encode_lt_encode_iff.2 hlt⟩

theorem pairwise_difference (prev next : Sample) (start stop : Nat) :
    (prev.difference next start stop).Pairwise fun a b => KeyPrecedes a.key b.key := by
  unfold difference
  rw [List.pairwise_flatMap]
  refine ⟨fun kind _ => pairwise_differenceOf kind prev next start stop, ?_⟩
  have hranks : [Kind.user, .inbound, .outbound].Pairwise fun k l => k.rank < l.rank := by decide
  refine hranks.imp ?_
  intro k l hlt a ha b hb
  obtain ⟨rfl, -⟩ := mem_differenceOf.1 ha
  obtain ⟨rfl, -⟩ := mem_differenceOf.1 hb
  exact .inl hlt

end Sample

/-! ## Sorting what is found -/

/-- Sorting gives the arrangement in which nothing may stand before what is ahead of it. -/
theorem mergeSort_eq_of_perm {α : Type} {le : α → α → Bool} {xs ys : List α}
    (htrans : ∀ a b c, le a b → le b c → le a c) (htotal : ∀ a b, le a b || le b a)
    (h : xs.Perm ys) (hys : ys.Pairwise fun a b => le b a = false) : xs.mergeSort le = ys := by
  have hperm : (xs.mergeSort le).Perm ys := (List.mergeSort_perm xs le).trans h
  have hsorted : ys.Pairwise fun a b => le a b := by
    refine hys.imp ?_
    intro a b hback
    simpa [hback] using htotal a b
  have : Std.Symm fun a b => le a b → le b a → a = b :=
    ⟨fun _ _ heq hba hab => (heq hab hba).symm⟩
  have hantisymm : ∀ ⦃a⦄, a ∈ ys → ∀ ⦃b⦄, b ∈ ys → le a b → le b a → a = b := by
    refine List.Pairwise.forall_of_forall (fun _ _ _ _ => rfl) (hys.imp ?_)
    intro a b hback _ hle
    exact absurd hle (by simp [hback])
  exact hperm.eq_of_pairwise (fun a b ha hb => hantisymm (hperm.subset ha) hb)
    (List.pairwise_mergeSort htrans htotal xs) hsorted

def nameLe (a b : String) : Bool := !decide (Utf8.encode b < Utf8.encode a)

def tagLe (a b : Kind × String) : Bool :=
  decide (a.1.rank < b.1.rank) || a.1 == b.1 && nameLe a.2 b.2

theorem nameLe_iff {a b : String} : nameLe a b = true ↔ a ≤ b := by
  unfold nameLe
  rw [Bool.not_eq_true', decide_eq_false_iff_not, Utf8.encode_lt_encode_iff, String.not_lt]

theorem tagLe_iff {a b : Kind × String} :
    tagLe a b = true ↔ a.1.rank < b.1.rank ∨ a.1 = b.1 ∧ a.2 ≤ b.2 := by
  simp [tagLe, nameLe_iff]

theorem tagLe_trans {a b c : Kind × String} (hab : tagLe a b) (hbc : tagLe b c) : tagLe a c := by
  rw [tagLe_iff] at hab hbc ⊢
  cases hab with
  | inl hlt =>
      cases hbc with
      | inl hlt' => exact .inl (Nat.lt_trans hlt hlt')
      | inr hle => exact .inl (hle.1 ▸ hlt)
  | inr hle =>
      cases hbc with
      | inl hlt => exact .inl (hle.1 ▸ hlt)
      | inr hle' => exact .inr ⟨hle.1.trans hle'.1, String.le_trans hle.2 hle'.2⟩

theorem Kind.rank_inj {k l : Kind} (h : k.rank = l.rank) : k = l := by
  cases k <;> cases l <;> first | rfl | cases h

theorem tagLe_total (a b : Kind × String) : tagLe a b || tagLe b a := by
  rw [Bool.or_eq_true, tagLe_iff, tagLe_iff]
  have hrank := Nat.lt_trichotomy a.1.rank b.1.rank
  have hname := String.le_total a.2 b.2
  by_cases hkind : a.1 = b.1
  · cases hname with
    | inl hle => exact .inl (.inr ⟨hkind, hle⟩)
    | inr hle => exact .inr (.inr ⟨hkind.symm, hle⟩)
  · have hne : a.1.rank ≠ b.1.rank := fun h => hkind (Kind.rank_inj h)
    cases Nat.lt_or_gt_of_ne hne with
    | inl hlt => exact .inl (.inl hlt)
    | inr hgt => exact .inr (.inl hgt)

/-! ## Samples whose entries come in any order -/

/-- The entries of a sample as hash tables list them: the users, and the tags of both directions. -/
structure Listing where
  users : List (String × Volume)
  tags : List ((Kind × String) × Volume)

namespace Listing

def keyed (s : Sample) (kind : Kind) : List ((Kind × String) × Volume) :=
  (s.ofKind kind).entries.map fun e => ((kind, e.1), e.2)

/-- The listing has the entries of the sample, in whatever order. -/
structure Lists (l : Listing) (s : Sample) : Prop where
  users : l.users.Perm s.users.entries
  tags : l.tags.Perm (keyed s .inbound ++ keyed s .outbound)

/-- What is found of a tag before it is made a snapshot. -/
def found? (earlier : Listing) (e : (Kind × String) × Volume) :
    Option ((Kind × String) × Volume × Volume) :=
  (earlier.tags.lookup e.1).map fun before => (e.1, before, e.2)

/-- Looks every user and every tag of the later sample up in the earlier one, and sorts what is found:
the users as snapshots, the tags before they are made snapshots. -/
def difference (earlier later : Listing) (start stop : Nat) : List Snapshot :=
  let users := later.users.filterMap fun e =>
    (earlier.users.lookup e.1).map fun before => Snapshot.between .user e.1 before e.2 start stop
  let tags := later.tags.filterMap (found? earlier)
  users.mergeSort (fun a b => nameLe a.name b.name) ++
    (tags.mergeSort fun a b => tagLe a.1 b.1).map fun e =>
      .between e.1.1 e.1.2 e.2.1 e.2.2 start stop

theorem lookup_eq_some_iff_mem {α β : Type} [BEq α] [LawfulBEq α] {es : List (α × β)} {k : α} {v : β}
    (h : (es.map Prod.fst).Nodup) : es.lookup k = some v ↔ (k, v) ∈ es := by
  rw [List.lookup_eq_some_iff]
  constructor
  · intro hsplit
    obtain ⟨front, back, rfl, -⟩ := hsplit
    simp
  · intro hmem
    obtain ⟨front, back, rfl⟩ := List.append_of_mem hmem
    refine ⟨front, back, rfl, ?_⟩
    intro e he
    rw [bne_iff_ne]
    intro heq
    rw [List.map_append, List.nodup_append] at h
    exact h.2.2 e.1 (List.mem_map_of_mem he) k (by simp) heq.symm

theorem mem_keyed {s : Sample} {e : (Kind × String) × Volume} :
    e ∈ keyed s kind ↔ e.1.1 = kind ∧ (s.ofKind kind).get? e.1.2 = some e.2 := by
  rw [keyed, List.mem_map]
  constructor
  · intro h
    obtain ⟨entry, hentry, rfl⟩ := h
    exact ⟨rfl, (NameMap.get?_eq_some_iff _).2 hentry⟩
  · intro h
    exact ⟨(e.1.2, e.2), (NameMap.get?_eq_some_iff _).1 h.2, by rw [← h.1]⟩

/-- The keys of the tags stand in order, so none of them is there twice. -/
theorem pairwise_keyed (s : Sample) :
    (keyed s .inbound ++ keyed s .outbound).Pairwise fun a b => KeyPrecedes a.1 b.1 := by
  have hkind : ∀ kind, (keyed s kind).Pairwise fun a b => KeyPrecedes a.1 b.1 := by
    intro kind
    unfold keyed
    rw [List.pairwise_map]
    refine (s.ofKind kind).ascending.imp ?_
    intro a b hlt
    exact .inr ⟨rfl, Utf8.encode_lt_encode_iff.2 hlt⟩
  rw [List.pairwise_append]
  refine ⟨hkind .inbound, hkind .outbound, ?_⟩
  intro a ha b hb
  refine .inl ?_
  rw [(mem_keyed.1 ha).1, (mem_keyed.1 hb).1]
  decide

variable {l earlier later : Listing} {s : Sample}

theorem Lists.lookup_users (h : l.Lists s) (name : String) :
    l.users.lookup name = s.users.get? name := by
  have hnodup : (l.users.map Prod.fst).Nodup := by
    rw [(h.users.map Prod.fst).nodup_iff]
    exact s.users.pairwise_keys.imp String.ne_of_lt
  apply Option.ext
  intro v
  rw [lookup_eq_some_iff_mem hnodup, h.users.mem_iff, NameMap.get?_eq_some_iff]

theorem Lists.lookup_tags (h : l.Lists s) (hkind : kind ≠ .user) (name : String) :
    l.tags.lookup (kind, name) = (s.ofKind kind).get? name := by
  have hnodup : (l.tags.map Prod.fst).Nodup := by
    rw [(h.tags.map Prod.fst).nodup_iff]
    exact List.pairwise_map.2 ((pairwise_keyed s).imp KeyPrecedes.ne)
  apply Option.ext
  intro v
  rw [lookup_eq_some_iff_mem hnodup, h.tags.mem_iff, List.mem_append, mem_keyed, mem_keyed]
  cases kind with
  | user => exact absurd rfl hkind
  | inbound => simp
  | outbound => simp

theorem map_between_found (h : earlier.Lists prev) (hkind : kind ≠ .user) (next : Sample)
    (start stop : Nat) : ((keyed next kind).filterMap (found? earlier)).map
        (fun e => Snapshot.between e.1.1 e.1.2 e.2.1 e.2.2 start stop) =
      Sample.differenceOf kind prev next start stop := by
  rw [Sample.differenceOf_eq, keyed, List.filterMap_map, List.map_filterMap]
  simp only [found?, Sample.compared, Function.comp_def, Option.map_map, h.lookup_tags hkind]

theorem nameLe_eq_false {a b : Snapshot} (h : KeyPrecedes a.key b.key) (hkind : a.kind = b.kind) :
    nameLe b.name a.name = false := by
  rw [← Bool.not_eq_true, nameLe_iff, String.not_le, ← Utf8.encode_lt_encode_iff]
  cases h with
  | inl hrank => exact absurd hrank (by simp [Snapshot.key, hkind])
  | inr hname => exact hname.2

theorem tagLe_eq_false {a b : Kind × String} (h : KeyPrecedes a b) : tagLe b a = false := by
  rw [← Bool.not_eq_true, tagLe_iff]
  intro hback
  cases h with
  | inl hrank =>
      cases hback with
      | inl hrank' => exact Nat.lt_asymm hrank hrank'
      | inr hname => exact absurd hrank (by simp [hname.1])
  | inr hname =>
      cases hback with
      | inl hrank => exact absurd hrank (by simp [hname.1])
      | inr hname' =>
          exact String.not_le.2 (Utf8.encode_lt_encode_iff.1 hname.2) hname'.2

theorem users_eq (hearlier : earlier.Lists prev) (hlater : later.Lists next) (start stop : Nat) :
    (later.users.filterMap fun e => (earlier.users.lookup e.1).map fun before =>
        Snapshot.between .user e.1 before e.2 start stop).mergeSort
      (fun a b => nameLe a.name b.name) = Sample.differenceOf .user prev next start stop := by
  refine mergeSort_eq_of_perm ?_ ?_ ?_ ?_
  · intro a b c hab hbc
    exact nameLe_iff.2 (String.le_trans (nameLe_iff.1 hab) (nameLe_iff.1 hbc))
  · intro a b
    rw [Bool.or_eq_true, nameLe_iff, nameLe_iff]
    exact String.le_total a.name b.name
  · simp only [hearlier.lookup_users, Sample.differenceOf_eq]
    exact hlater.users.filterMap _
  · refine (Sample.pairwise_differenceOf .user prev next start stop).imp_of_mem ?_
    intro a b ha hb hprecedes
    have hkind : a.kind = b.kind :=
      (Sample.mem_differenceOf.1 ha).1.trans (Sample.mem_differenceOf.1 hb).1.symm
    exact nameLe_eq_false hprecedes hkind

theorem tags_eq (hearlier : earlier.Lists prev) (hlater : later.Lists next) (start stop : Nat) :
    ((later.tags.filterMap (found? earlier)).mergeSort fun a b => tagLe a.1 b.1).map
        (fun e => Snapshot.between e.1.1 e.1.2 e.2.1 e.2.2 start stop) =
      Sample.differenceOf .inbound prev next start stop ++
        Sample.differenceOf .outbound prev next start stop := by
  rw [← map_between_found hearlier (by decide) next, ← map_between_found hearlier (by decide) next,
    ← List.map_append, ← List.filterMap_append]
  refine congrArg (List.map _) (mergeSort_eq_of_perm (fun _ _ _ => tagLe_trans)
    (fun a b => tagLe_total a.1 b.1) (hlater.tags.filterMap _) ?_)
  -- What is found of a tag keeps the key of the tag.
  refine List.Pairwise.filterMap (found? earlier) ?_ (pairwise_keyed next)
  intro a b hprecedes x hx y hy
  simp only [found?, Option.map_eq_some_iff] at hx hy
  obtain ⟨_, _, rfl⟩ := hx
  obtain ⟨_, _, rfl⟩ := hy
  exact tagLe_eq_false hprecedes

/-- The orders in which the samples list their entries do not matter. -/
theorem difference_eq (hearlier : earlier.Lists prev) (hlater : later.Lists next)
    (start stop : Nat) : earlier.difference later start stop = prev.difference next start stop := by
  rw [Sample.difference_eq, ← users_eq hearlier hlater, ← tags_eq hearlier hlater]
  rfl

end Listing

/-! ## The whole list -/

/-- The difference of two samples reports what both of them hold, and nothing twice: the users, then the
inbound and then the outbound tags, each in strictly ascending order of the bytes of their names. The
totals are what was added, or nothing if a volume went down. What is reported of a user or tag depends
on its own volumes only, and the orders in which the samples list their entries do not matter. -/
theorem difference_reports_common (prev next : Sample) (start stop : Nat) (hnext : next.Fits) :
    ((prev.difference next start stop).Pairwise fun a b =>
      a.kind.rank < b.kind.rank ∨ a.kind = b.kind ∧ Utf8.encode a.name < Utf8.encode b.name) ∧
    ((prev.difference next start stop).map fun s => (s.kind, s.name)).Nodup ∧
    (∀ kind name, (kind, name) ∈ (prev.difference next start stop).map (fun s => (s.kind, s.name)) ↔
      ((prev.ofKind kind).get? name).isSome ∧ ((next.ofKind kind).get? name).isSome) ∧
    (∀ s ∈ prev.difference next start stop, ∃ before after,
      (prev.ofKind s.kind).get? s.name = some before ∧
      (next.ofKind s.kind).get? s.name = some after ∧
      (s.io.rx.total : Int) = max 0 ((after.received : Int) - before.received) ∧
      (s.io.tx.total : Int) = max 0 ((after.sent : Int) - before.sent)) ∧
    (∀ prev' next' : Sample, ∀ kind name,
      (prev'.ofKind kind).get? name = (prev.ofKind kind).get? name →
      (next'.ofKind kind).get? name = (next.ofKind kind).get? name →
      ∀ s, s.kind = kind → s.name = name →
        (s ∈ prev'.difference next' start stop ↔ s ∈ prev.difference next start stop)) ∧
    ∀ earlier later : Listing, earlier.Lists prev → later.Lists next →
      earlier.difference later start stop = prev.difference next start stop := by
  have horder := Sample.pairwise_difference prev next start stop
  refine ⟨horder, ?_, fun _ _ => Sample.mem_keys_difference, ?_, ?_,
    fun _ _ hearlier hlater => Listing.difference_eq hearlier hlater start stop⟩
  · exact List.pairwise_map.2 (horder.imp KeyPrecedes.ne)
  · intro s hs
    obtain ⟨before, after, hbefore, hafter, heq⟩ := Sample.mem_difference.1 hs
    obtain ⟨hsent, hreceived⟩ := hnext _ _ _ hafter
    obtain ⟨hrx, htx⟩ := Snapshot.totals_eq heq hsent hreceived
    exact ⟨before, after, hbefore, hafter, by omega, by omega⟩
  · intro prev' next' kind name hprev hafter s hkind hname
    rw [Sample.mem_difference, Sample.mem_difference, hkind, hname, hprev, hafter]

/-- One name for a user and for tags of both directions, and a user who is gone later. -/
def earlierCounters : List Counter := [
  ⟨"outbound>>>ann>>>traffic>>>uplink", 4⟩, ⟨"user>>>ann>>>traffic>>>uplink", 5⟩,
  ⟨"user>>>Zoe>>>traffic>>>downlink", 1⟩, ⟨"inbound>>>ann>>>traffic>>>downlink", 9⟩,
  ⟨"user>>>bob>>>traffic>>>uplink", 8⟩]

/-- The inbound tag starts again, and there is a new user. -/
def laterCounters : List Counter := [
  ⟨"user>>>Zoe>>>traffic>>>downlink", 7⟩, ⟨"user>>>ann>>>traffic>>>uplink", 25⟩,
  ⟨"user>>>new>>>traffic>>>uplink", 3⟩, ⟨"inbound>>>ann>>>traffic>>>downlink", 2⟩,
  ⟨"outbound>>>ann>>>traffic>>>uplink", 6⟩]

def earlierListing : Listing where
  users := [("bob", ⟨8, 0⟩), ("Zoe", ⟨0, 1⟩), ("ann", ⟨5, 0⟩)]
  tags := [((.outbound, "ann"), ⟨4, 0⟩), ((.inbound, "ann"), ⟨0, 9⟩)]

def laterListing : Listing where
  users := [("new", ⟨3, 0⟩), ("ann", ⟨25, 0⟩), ("Zoe", ⟨0, 7⟩)]
  tags := [((.outbound, "ann"), ⟨6, 0⟩), ((.inbound, "ann"), ⟨0, 2⟩)]

theorem difference_reports_common_restart :
    (earlierListing.difference laterListing 0 1).map
      (fun s => (s.kind, s.name, s.io.rx.total, s.io.tx.total)) =
        [(.user, "Zoe", 6, 0), (.user, "ann", 0, 20), (.inbound, "ann", 0, 0),
          (.outbound, "ann", 0, 2)] ∧
    (Kind.user, "bob") ∉ ((Sample.ofCounters earlierCounters).difference
      (.ofCounters laterCounters) 0 1).map fun s => (s.kind, s.name) := by
  have hreports := difference_reports_common (.ofCounters earlierCounters)
    (.ofCounters laterCounters) 0 1 (fits_ofCounters laterCounters)
  constructor
  · rw [hreports.2.2.2.2.2 earlierListing laterListing ⟨by decide +kernel, by decide +kernel⟩
      ⟨by decide +kernel, by decide +kernel⟩]
    decide +kernel
  · rw [hreports.2.2.1 .user "bob"]
    decide +kernel

end ProxyWarden.Traffic

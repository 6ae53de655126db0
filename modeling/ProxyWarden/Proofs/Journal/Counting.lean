import Mathlib.Data.List.Basic
import ProxyWarden.Journal.Access
import ProxyWarden.Proofs.Journal.Backwards
import ProxyWarden.Proofs.Journal.Decoding

/-!
# What counts as a line

The last lines of an access journal are taken before it is known which of them are records. So lines
that are no records but hold a JSON value use up places, and a line that is a record only without
the white space around it is found from the end of the file but not by a scan. The last connections
are the last of all connections exactly if none of this shows
(`AccessJournal.lastConnections_eq_rtake_iff`).
-/
namespace ProxyWarden

/-! ## Taking before reading -/

section
variable {α β : Type}

theorem length_filterMap_rtake_le (f : α → Option β) (xs : List α) (n : Nat) :
    ((xs.rtake n).filterMap f).length ≤ (xs.filterMap f).length :=
  ((List.drop_sublist _ _).filterMap f).length_le

theorem filterMap_rtake_cons_of_none {f : α → Option β} {x : α} (hx : f x = none) (xs : List α)
    (n : Nat) : ((x :: xs).rtake n).filterMap f = (xs.rtake n).filterMap f := by
  by_cases hn : n ≤ xs.length
  · rw [← List.singleton_append, Tail.rtake_append_of_le [x] hn]
  · rw [Tail.rtake_of_length_le (by rw [List.length_cons]; omega),
      Tail.rtake_of_length_le (by omega), List.filterMap_cons_none hx]

/-- The last items give the last of the values, however many are asked for, exactly if every item
after one with a value has a value too. -/
theorem filterMap_rtake_iff (f : α → Option β) (xs : List α) :
    (∀ n, (xs.rtake n).filterMap f = (xs.filterMap f).rtake n) ↔
      xs.Pairwise fun x y => (f x).isSome → (f y).isSome := by
  induction xs with
  | nil => simp
  | cons x xs ih =>
      rw [List.pairwise_cons, ← ih]
      cases hx : f x with
      | none => simp [filterMap_rtake_cons_of_none hx, List.filterMap_cons_none hx]
      | some b =>
          have hle : (xs.filterMap f).length ≤ xs.length := List.length_filterMap_le f xs
          have hwhole : ∀ n, xs.length < n → ((x :: xs).rtake n).filterMap f =
              ((x :: xs).filterMap f).rtake n := by
            intro n hn
            have hlength := List.length_filterMap_le f (x :: xs)
            rw [List.length_cons] at hlength
            rw [Tail.rtake_of_length_le (by rw [List.length_cons]; omega),
              Tail.rtake_of_length_le (by omega)]
          have hpart : ∀ n, n ≤ xs.length → (x :: xs).rtake n = xs.rtake n :=
            fun n hn => Tail.rtake_append_of_le [x] hn
          rw [List.filterMap_cons_some hx] at hwhole ⊢
          constructor
          · intro h
            have hall : ∀ y ∈ xs, (f y).isSome = true := by
              rw [← List.filterMap_length_eq_length]
              by_contra hne
              -- So many items hold one value too few.
              have hfew := congrArg List.length (h ((xs.filterMap f).length + 1))
              have hbound := length_filterMap_rtake_le f xs ((xs.filterMap f).length + 1)
              have hright : (b :: xs.filterMap f).rtake ((xs.filterMap f).length + 1) =
                  b :: xs.filterMap f := Tail.rtake_of_length_le (by simp)
              rw [hpart _ (by omega), hright, List.length_cons] at hfew
              omega
            have hsame := (List.filterMap_length_eq_length).2 hall
            refine ⟨fun y hy _ => hall y hy, fun n => ?_⟩
            by_cases hn : n ≤ xs.length
            · rw [← hpart n hn, h n]
              exact Tail.rtake_append_of_le [b] (by omega)
            · rw [Tail.rtake_of_length_le (by omega), Tail.rtake_of_length_le (by omega)]
          · rintro ⟨hall, h⟩ n
            have hsame := (List.filterMap_length_eq_length).2 fun y hy => hall y hy rfl
            by_cases hn : n ≤ xs.length
            · rw [hpart n hn, h n]
              exact (Tail.rtake_append_of_le [b] (by omega)).symm
            · exact hwhole n (by omega)

/-- A reader that finds more finds the same values exactly if it finds the same of each item. -/
theorem filterMap_eq_filterMap_iff {f g : α → Option β} (hfg : ∀ x b, g x = some b → f x = some b)
    (xs : List α) : xs.filterMap f = xs.filterMap g ↔ ∀ x ∈ xs, f x = g x := by
  have hle : ∀ ys : List α, (ys.filterMap g).length ≤ (ys.filterMap f).length := by
    intro ys
    induction ys with
    | nil => exact Nat.le_refl _
    | cons y ys ih =>
        cases hg : g y with
        | none =>
            rw [List.filterMap_cons_none hg]
            exact Nat.le_trans ih (((List.sublist_cons_self y ys).filterMap f).length_le)
        | some b =>
            rw [List.filterMap_cons_some hg, List.filterMap_cons_some (hfg y b hg)]
            exact Nat.succ_le_succ ih
  constructor
  · intro h
    induction xs with
    | nil => simp
    | cons x xs ih =>
        rw [List.forall_mem_cons]
        cases hg : g x with
        | some b =>
            rw [List.filterMap_cons_some hg, List.filterMap_cons_some (hfg x b hg)] at h
            exact ⟨hfg x b hg, ih (List.cons.inj h).2⟩
        | none =>
            cases hf : f x with
            | none =>
                rw [List.filterMap_cons_none hg, List.filterMap_cons_none hf] at h
                exact ⟨rfl, ih h⟩
            | some b =>
                have hlength := congrArg List.length h
                rw [List.filterMap_cons_none hg, List.filterMap_cons_some hf,
                  List.length_cons] at hlength
                have hmore := hle xs
                omega
  · exact List.filterMap_congr

end

/-! ## Lines of a file -/

theorem Bytes.pieces_eq_lines (bs : Bytes) : pieces bs = lines bs ++ [[]] ∨ pieces bs = lines bs := by
  unfold lines
  split
  · next ps hps =>
      left
      rw [← List.reverse_cons, ← hps, List.reverse_reverse]
  · exact .inr (List.reverse_reverse _).symm

theorem Tail.counted_pieces (bs : Bytes) : counted (Bytes.pieces bs) = counted (Bytes.lines bs) := by
  rcases Bytes.pieces_eq_lines bs with hpieces | hpieces
  · have hblank : counted [[]] = [] := rfl
    rw [hpieces, counted_append, hblank, List.append_nil]
  · rw [hpieces]

theorem Json.isValue_nil : isValue [] = false := by
  unfold isValue skipValue
  rw [skipFrom_value_nil rfl]
  rfl

theorem Tail.counted_eq (ls : List Bytes) :
    counted ls = (ls.map Bytes.trim).filter Json.isValue := by
  have hvalue : ∀ text : Bytes, (!text.isEmpty && Json.isValue text) = Json.isValue text := by
    intro text
    cases text with
    | nil => rw [Json.isValue_nil, Bool.and_false]
    | cons b r => rfl
  simp only [counted, hvalue]

namespace Connection

theorem ofLine?_eq_none_of_blank {l : Bytes} (h : Bytes.trim l = []) : ofLine? l = none := by
  cases hline : ofLine? l with
  | none => rfl
  | some c =>
      have htrim := ofLine?_trim hline
      rw [h] at htrim
      cases htrim

/-- Every line that is a record without the white space around it counts. -/
theorem filterMap_counted (ls : List Bytes) :
    (Tail.counted ls).filterMap ofLine? = ls.filterMap fun l => ofLine? (Bytes.trim l) := by
  rw [Tail.counted_eq, List.filterMap_filter, List.filterMap_map]
  apply List.filterMap_congr
  intro l _
  dsimp only [Function.comp_apply]
  split_ifs with hvalue
  · rfl
  · cases hline : ofLine? (Bytes.trim l) with
    | none => rfl
    | some c => exact absurd (isValue_of_ofLine? hline) hvalue

/-- As long as white space does not matter, what comes after a record among the lines that count is
what comes after it in the file. -/
theorem pairwise_counted_iff {ls : List Bytes} (h : ∀ l ∈ ls, ofLine? (Bytes.trim l) = ofLine? l) :
    (Tail.counted ls).Pairwise (fun x y => (ofLine? x).isSome → (ofLine? y).isSome) ↔
      ls.Pairwise fun l l' => (ofLine? l).isSome → Json.isValue (Bytes.trim l') →
        (ofLine? l').isSome := by
  rw [Tail.counted_eq, List.pairwise_filter, List.pairwise_map]
  apply List.Pairwise.iff_of_mem
  intro l l' hl hl'
  rw [h l hl, h l' hl']
  constructor
  · intro hcounted hrecord hvalue
    obtain ⟨c, hc⟩ := Option.isSome_iff_exists.1 hrecord
    exact hcounted (isValue_of_ofLine? (ofLine?_trim hc)) hvalue hrecord
  · intro hlines _ hvalue hrecord
    exact hlines hrecord hvalue

end Connection

namespace AccessJournal

theorem filterMap_scanLines (text : Bytes) :
    (scanLines text).filterMap Connection.ofLine? = text.lines.filterMap Connection.ofLine? := by
  rw [scanLines, List.filterMap_filter]
  apply List.filterMap_congr
  intro l _
  split_ifs with hblank
  · rfl
  · rw [Bool.not_eq_true, Bool.not_eq_false', List.isEmpty_iff] at hblank
    exact (Connection.ofLine?_eq_none_of_blank hblank).symm

variable {a : AccessJournal} {d : Disk} {number : Nat} {executable : Bool}

theorem lastConnections_of_pos (hfind : d.find a.journal.path = .ok (.file number executable))
    {n : Int} (hn : 0 < n) : a.lastConnections n false d =
      .ok (((Tail.counted (d.content number).lines).rtake n.toNat).filterMap
        Connection.ofLine?) := by
  have htail := Tail.lastLines_eq (d.content number) n.toNat Tail.blockSize
  rw [Tail.counted_pieces] at htail
  have hlines : lastLines n (d.content number) false = .ok _ := (if_pos hn).trans htail
  unfold lastConnections
  rw [hfind]
  dsimp only
  rw [hlines]

theorem lastConnections_zero (hfind : d.find a.journal.path = .ok (.file number executable)) :
    a.lastConnections 0 false d =
      .ok ((d.content number).lines.filterMap Connection.ofLine?) := by
  have hlines : lastLines 0 (d.content number) false = .ok (scanLines (d.content number)) := rfl
  unfold lastConnections
  rw [hfind]
  dsimp only
  rw [hlines]
  exact congrArg Except.ok (filterMap_scanLines _)

/-- The lines of a file from which any number of the last connections is read like all of them. -/
structure Uniform (ls : List Bytes) : Prop where
  /-- White space around a line never decides whether it is a record. -/
  trimmed : ∀ l ∈ ls, Connection.ofLine? (Bytes.trim l) = Connection.ofLine? l
  /-- After a record, every line that holds a JSON value is a record. -/
  unmixed : ls.Pairwise fun l l' => (Connection.ofLine? l).isSome →
    Json.isValue (Bytes.trim l') → (Connection.ofLine? l').isSome

theorem uniform_iff (ls : List Bytes) : Uniform ls ↔
    (Tail.counted ls).filterMap Connection.ofLine? = ls.filterMap Connection.ofLine? ∧
      ∀ n, ((Tail.counted ls).rtake n).filterMap Connection.ofLine? =
        ((Tail.counted ls).filterMap Connection.ofLine?).rtake n := by
  rw [filterMap_rtake_iff, Connection.filterMap_counted,
    filterMap_eq_filterMap_iff fun l c h => Connection.ofLine?_trim h]
  constructor
  · intro h
    exact ⟨h.trimmed, (Connection.pairwise_counted_iff h.trimmed).2 h.unmixed⟩
  · rintro ⟨htrimmed, hcounted⟩
    exact ⟨htrimmed, (Connection.pairwise_counted_iff htrimmed).1 hcounted⟩

/-- The last `n` connections are the last `n` of all connections, for every `n`, exactly if the lines
of the file are uniform. -/
theorem lastConnections_eq_rtake_iff
    (hfind : d.find a.journal.path = .ok (.file number executable)) :
    ∃ all, a.lastConnections 0 false d = .ok all ∧
      ((∀ n : Int, 0 < n → a.lastConnections n false d = .ok (all.rtake n.toNat)) ↔
        Uniform (d.content number).lines) := by
  refine ⟨_, lastConnections_zero hfind, ?_⟩
  rw [uniform_iff]
  constructor
  · intro h
    have hlast : ∀ n, 0 < n → ((Tail.counted (d.content number).lines).rtake n).filterMap
        Connection.ofLine? = ((d.content number).lines.filterMap Connection.ofLine?).rtake n := by
      intro n hn
      have hpositive : 0 < (n : Int) := Int.natCast_pos.2 hn
      have hboth := (lastConnections_of_pos hfind hpositive).symm.trans (h n hpositive)
      exact Except.ok.inj hboth
    have hall : (Tail.counted (d.content number).lines).filterMap Connection.ofLine? =
        (d.content number).lines.filterMap Connection.ofLine? := by
      -- More are asked for than either way can find.
      have hmany := hlast ((Tail.counted (d.content number).lines).length +
        ((d.content number).lines.filterMap Connection.ofLine?).length + 1) (by omega)
      rwa [Tail.rtake_of_length_le (by omega), Tail.rtake_of_length_le (by omega)] at hmany
    refine ⟨hall, fun n => ?_⟩
    cases n with
    | zero => rw [List.rtake_zero, List.rtake_zero, List.filterMap_nil]
    | succ n => rw [hall, hlast (n + 1) (Nat.succ_pos n)]
  · rintro ⟨hall, hlast⟩ n hn
    rw [lastConnections_of_pos hfind hn, hlast, hall]

/-! ## Lines of other programs -/

def firstJournal : AccessJournal := ⟨⟨Bytes.ofAscii "access.log", ⟨.file 0, .append⟩⟩⟩

def diskWith (text : Bytes) : Disk :=
  (Disk.fresh.create [Bytes.ofAscii "work", Bytes.ofAscii "access.log"] false).1.setContent 0 text

def passing (client : String) : Connection := {
  client := client
  server := "tcp:example.com:443"
  proto := .tcp
  inbound := "in"
  outbound := "out"
  user := AccessLine.unknownUser }

def foreignLine : Bytes := Bytes.ofAscii "\x7b\"other\":true\x7d\n"

/-- Lines of another program before a record, blanks and what is no JSON value after it. -/
def foreignBefore : Bytes :=
  foreignLine ++ (passing "a").toLine 0 ++ Bytes.ofAscii " \nx\n\t" ++ (passing "b").toLine 1

theorem lastConnections_eq_rtake_iff_foreignBefore :
    (diskWith foreignBefore).find firstJournal.journal.path = .ok (.file 0 false) ∧
      firstJournal.lastConnections 0 false (diskWith foreignBefore) =
        .ok [passing "a", passing "b"] ∧
      ∀ n : Int, 0 < n → firstJournal.lastConnections n false (diskWith foreignBefore) =
        .ok ([passing "a", passing "b"].rtake n.toNat) := by
  have hfind : (diskWith foreignBefore).find firstJournal.journal.path = .ok (.file 0 false) := rfl
  have huniform : Uniform ((diskWith foreignBefore).content 0).lines := by
    constructor
    · decide +kernel
    · decide +kernel
  have hscan : firstJournal.lastConnections 0 false (diskWith foreignBefore) =
      .ok [passing "a", passing "b"] := by decide +kernel
  obtain ⟨all, hall, hiff⟩ := lastConnections_eq_rtake_iff hfind
  cases hscan.symm.trans hall
  exact ⟨hfind, hscan, hiff.2 huniform⟩

/-- A line of another program behind a record hides it from who asks for one connection. -/
theorem lastConnections_hidden_by_foreignLine :
    ∃ text all, (diskWith text).find firstJournal.journal.path = .ok (.file 0 false) ∧
      firstJournal.lastConnections 0 false (diskWith text) = .ok all ∧
      firstJournal.lastConnections 1 false (diskWith text) ≠ .ok (all.rtake 1) := by
  have hone : firstJournal.lastConnections 1 false
      (diskWith ((passing "a").toLine 0 ++ foreignLine)) = .ok [] := by decide +kernel
  have hscan : firstJournal.lastConnections 0 false
      (diskWith ((passing "a").toLine 0 ++ foreignLine)) = .ok [passing "a"] := by decide +kernel
  refine ⟨_, _, rfl, hscan, ?_⟩
  rw [hone]
  intro hsame
  cases hsame

end AccessJournal

end ProxyWarden

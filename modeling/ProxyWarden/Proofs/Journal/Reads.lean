import Mathlib.Algebra.Order.Floor.Div
import Mathlib.Order.Bounds.Basic
import ProxyWarden.Journal.Reader
import ProxyWarden.Proofs.Journal.Backwards

/-!
# The reads of a search

A reader goes back from the end of the file block by block, and finds what the search in the blocks
of the file finds (`readLastLines_fst`). How far it goes is a matter of the file alone: it stops
where the file starts or the blocks show enough lines (`isDone_after_iff`). So it is known of every
disturbance whether it comes in time (`lastLines_disturbed`).
-/
namespace ProxyWarden.Tail

variable {file : Bytes} {n size : Nat} {d : Disturbance}

/-! ## The blocks, one after the other -/

theorem chunksOnto_congr {f g : Nat} {bs : Bytes} (hsize : 1 ≤ size) (done : List Bytes)
    (hf : bs.length ≤ f) (hg : bs.length ≤ g) :
    chunksOnto done size f bs = chunksOnto done size g bs := by
  induction f generalizing g bs done with
  | zero =>
      rw [List.eq_nil_of_length_eq_zero (Nat.le_zero.1 hf)]
      cases g <;> rfl
  | succ f ih =>
      cases g with
      | zero =>
          rw [List.eq_nil_of_length_eq_zero (Nat.le_zero.1 hg)]
          rfl
      | succ g =>
          unfold chunksOnto
          cases hempty : bs.isEmpty with
          | true => rfl
          | false =>
              have hlength : (bs.drop size).length = bs.length - size := List.length_drop
              exact ih _ (by omega) (by omega)

theorem chunksOnto_append (done : List Bytes) (size fuel : Nat) (bs : Bytes) :
    chunksOnto done size fuel bs = chunksOnto [] size fuel bs ++ done := by
  induction fuel generalizing done bs with
  | zero => rfl
  | succ fuel ih =>
      unfold chunksOnto
      split_ifs
      · rfl
      · rw [ih, ih [_], List.append_assoc, List.singleton_append]

theorem blocks_nil (size : Nat) : blocks size [] = [] := rfl

/-- The first block is the end of the file, and the others are those of what is before it. -/
theorem blocks_eq_cons {bs : Bytes} (hsize : 1 ≤ size) (hbs : bs ≠ []) :
    blocks size bs = bs.rtake size :: blocks size (bs.rdrop size) := by
  have hlength : bs.length = bs.length - 1 + 1 := by
    have hpos := List.length_pos_of_ne_nil hbs
    omega
  have hdrop : (bs.reverse.drop size).length = bs.length - size := by simp
  have hchunks : chunksOnto [] size bs.length bs.reverse =
      chunksOnto [] size (bs.rdrop size).length (bs.rdrop size).reverse ++ [bs.rtake size] := by
    rw [hlength, chunksOnto, if_neg (by simpa using hbs), chunksOnto_append,
      List.rtake_eq_reverse_take_reverse, List.rdrop_eq_reverse_drop_reverse, List.reverse_reverse,
      List.length_reverse]
    rw [chunksOnto_congr hsize [] (by omega) (Nat.le_refl _)]
  rw [blocks, hchunks, List.reverse_append]
  rfl

theorem read_before {pos : Nat} (hpos : pos ≤ file.length) :
    (Block.before size pos).read file = (file.take pos).rtake (max size 1) := by
  have hstart : pos - min pos (max size 1) = pos - max size 1 := by omega
  have hlength : pos - (pos - max size 1) = min pos (max size 1) := by omega
  rw [Block.read, Block.before, List.rtake, List.length_take_of_le hpos, List.drop_take, hstart,
    hlength]

theorem take_start_before {pos : Nat} (hpos : pos ≤ file.length) :
    file.take (Block.before size pos).start = (file.take pos).rdrop (max size 1) := by
  have hstart : pos - min pos (max size 1) = pos - max size 1 := by omega
  have hmin : min (pos - max size 1) pos = pos - max size 1 := by omega
  rw [Block.before, List.rdrop, List.length_take_of_le hpos, List.take_take, hstart, hmin]

theorem read_append_drop (file : Bytes) (size pos : Nat) :
    (Block.before size pos).read file ++ file.drop pos =
      file.drop (Block.before size pos).start := by
  have hend : (Block.before size pos).start + (Block.before size pos).length = pos := by
    simp only [Block.before]
    omega
  have hsplit := List.take_append_drop (Block.before size pos).length
    (file.drop (Block.before size pos).start)
  rwa [List.drop_drop, hend] at hsplit

/-! ## A reader is a search in the blocks -/

namespace Reader

variable {r : Reader}

theorem isDone_iff : r.isDone = true ↔ r.pos = 0 ∨ r.search.missing = 0 := by
  rw [isDone, Bool.or_eq_true, beq_iff_eq, beq_iff_eq]

theorem run_of_isDone (h : r.isDone = true) : r.run file size d = (.ok (), r) := by
  rw [run, if_pos h]

theorem run_of_error {e : TailError} (h : r.isDone = false)
    (he : d.error? r.reads.length = some e) : r.run file size d = (.error e, r) := by
  rw [run, h, he]
  rfl

theorem run_of_undisturbed (h : r.isDone = false) (he : d.error? r.reads.length = none) :
    r.run file size d = (r.next file size).run file size d := by
  rw [run, h, he]
  rfl

/-- A search turns to its next block like a reader. -/
theorem search_run_cons {s : Search} {reads : Nat} {b : Bytes} {bs : List Bytes}
    (hm : s.missing ≠ 0) : s.run d reads (b :: bs) =
      match d.error? reads with
      | some e => .error e
      | none => (s.take (Bytes.pieces b).reverse).run d (reads + 1) bs := by
  rw [Search.run, if_neg hm, Disturbance.error?]
  cases d.cancelled reads with
  | true => rfl
  | false => cases d.failure? reads <;> rfl

theorem blocks_take_pos (hpos : r.pos ≤ file.length) (h : r.pos ≠ 0) :
    blocks (max size 1) (file.take r.pos) =
      (Block.before size r.pos).read file ::
        blocks (max size 1) (file.take (r.next file size).pos) := by
  have hne : file.take r.pos ≠ [] := by
    intro hnil
    have hlength := congrArg List.length hnil
    rw [List.length_take_of_le hpos, List.length_nil] at hlength
    exact h hlength
  rw [blocks_eq_cons (Nat.le_max_right size 1) hne, read_before hpos]
  congr 2
  exact (take_start_before hpos).symm

/-- The reads of a reader are the blocks of the file that it has still to read. -/
theorem search_run (hpos : r.pos ≤ file.length) (size : Nat) (d : Disturbance) :
    ((r.run file size d).1.map fun _ => (r.run file size d).2.search) =
      r.search.run d r.reads.length (blocks (max size 1) (file.take r.pos)) := by
  induction r using Reader.run.induct file size d with
  | case1 r hdone =>
      rw [run_of_isDone hdone]
      -- At the start of the file no block is left; with enough lines found none is looked at.
      rcases isDone_iff.1 hdone with hstart | hmissing
      · rw [hstart, List.take_zero, blocks_nil]
        rfl
      · cases blocks (max size 1) (file.take r.pos) with
        | nil => rfl
        | cons b bs =>
            rw [Search.run, if_pos hmissing]
            rfl
  | case2 r hdone e he =>
      have hgoes := not_or.1 (mt isDone_iff.2 hdone)
      rw [run_of_error (Bool.eq_false_iff.2 hdone) he, blocks_take_pos hpos hgoes.1,
        search_run_cons hgoes.2, he]
      rfl
  | case3 r hdone he ih =>
      have hgoes := not_or.1 (mt isDone_iff.2 hdone)
      have hnext := pos_next_lt (Bool.eq_false_iff.2 hdone) file size
      rw [run_of_undisturbed (Bool.eq_false_iff.2 hdone) he, ih (by omega),
        blocks_take_pos hpos hgoes.1, search_run_cons hgoes.2, he]
      rfl

end Reader

theorem readLastLines_eq (file : Bytes) (n size : Nat) (d : Disturbance) :
    readLastLines file n size d =
      (((Reader.start file n).run file size d).1.map fun _ =>
        ((Reader.start file n).run file size d).2.search.finish,
        ((Reader.start file n).run file size d).2.reads) := by
  unfold readLastLines
  split_ifs with hn
  · rw [Reader.run_of_isDone (Reader.isDone_iff.2 (.inr hn)), hn]
    rfl
  · rfl

/-- Reading from the places of the blocks finds what is found in the blocks. -/
theorem readLastLines_fst (file : Bytes) (n size : Nat) (d : Disturbance) :
    (readLastLines file n size d).1 = lastLines file n size d := by
  have hrun := (Reader.start file n).search_run (Nat.le_refl file.length) size d
  have htake : file.take (Reader.start file n).pos = file := List.take_length
  rw [htake] at hrun
  rw [readLastLines_eq]
  unfold lastLines
  split_ifs with hn
  · rw [Reader.run_of_isDone (Reader.isDone_iff.2 (.inr hn)), hn]
    rfl
  · change _ = ((Reader.start file n).search.run d (Reader.start file n).reads.length _).map _
    rw [← hrun]
    cases ((Reader.start file n).run file size d).1 <;> rfl

/-! ## How far a reader has to go -/

/-- The lines that the last `reads` blocks show to be preceded by a newline, and that count. -/
def shown (file : Bytes) (size reads : Nat) : List Bytes :=
  counted (Bytes.pieces (file.rtake (reads * size))).tail

/-- After so many blocks there is nothing left to read, or enough lines are shown. -/
def Suffices (file : Bytes) (n size reads : Nat) : Prop :=
  reads = file.length ⌈/⌉ size ∨ n ≤ (shown file size reads).length

theorem Search.Covers.missing_eq_zero_iff {s : Search} {ps : List Bytes} (h : Covers s n ps) :
    s.missing = 0 ↔ n ≤ (counted ps.tail).length := by
  obtain ⟨front, rest, rfl, hfront, hagrees, hcarry⟩ := h
  have hmissing := hagrees.missing
  obtain ⟨p, front, rfl⟩ := List.exists_cons_of_ne_nil hfront
  rw [List.cons_append, List.tail_cons, counted_append, List.length_append]
  constructor
  · intro hm
    omega
  · intro hle
    by_contra hm
    obtain ⟨-, rfl⟩ := List.cons.inj (hcarry hm)
    have hnil : counted [] = [] := rfl
    rw [hnil, List.length_nil] at hle
    omega

namespace Reader

def after (file : Bytes) (n size : Nat) : Nat → Reader
  | 0 => start file n
  | reads + 1 => (after file n size reads).next file size

theorem pos_after (hsize : 1 ≤ size) (reads : Nat) :
    (after file n size reads).pos = file.length - reads * size := by
  induction reads with
  | zero => simp [after, start]
  | succ reads ih =>
      simp only [after, next, Block.before, ih]
      rw [Nat.add_mul]
      omega

/-- The blocks follow each other backwards from the end of the file. -/
theorem reads_after (hsize : 1 ≤ size) (reads : Nat) : (after file n size reads).reads.reverse =
    (List.range reads).map fun i => Block.before size (file.length - i * size) := by
  induction reads with
  | zero => rfl
  | succ reads ih =>
      rw [List.range_succ, List.map_append, ← ih, List.map_singleton, ← pos_after hsize reads]
      exact List.reverse_cons

theorem length_reads_after (reads : Nat) : (after file n size reads).reads.length = reads := by
  induction reads with
  | zero => rfl
  | succ reads ih => exact congrArg Nat.succ ih

/-- Up to where it has read, a reader knows what there is to know. -/
theorem covers_after {reads : Nat}
    (h : ∀ i < reads, (after file n size i).isDone = false) :
    Search.Covers (after file n size reads).search n
      (Bytes.pieces (file.drop (after file n size reads).pos)) := by
  induction reads with
  | zero =>
      have hnil : file.drop (start file n).pos = [] := List.drop_length
      rw [after, hnil]
      exact Search.covers_start n
  | succ reads ih =>
      have hdone : ¬ (after file n size reads).isDone = true :=
        Bool.eq_false_iff.1 (h reads (Nat.lt_succ_self reads))
      have hbefore := ih fun i hi => h i (Nat.lt_succ_of_lt hi)
      have hnext := hbefore.take (not_or.1 (mt isDone_iff.2 hdone)).2
        ((Block.before size (after file n size reads).pos).read file)
      rwa [read_append_drop] at hnext

/-- When a reader stops. -/
theorem isDone_after_iff {reads : Nat} (hsize : 1 ≤ size)
    (h : ∀ i < reads, (after file n size i).isDone = false) :
    (after file n size reads).isDone = true ↔
      file.length ⌈/⌉ size ≤ reads ∨ n ≤ (shown file size reads).length := by
  rw [isDone_iff, (covers_after h).missing_eq_zero_iff, pos_after hsize,
    ceilDiv_le_iff_le_mul (by omega), Nat.sub_eq_zero_iff_le, Nat.mul_comm size reads]
  rfl

variable {least reads : Nat}

theorem isDone_after_of_lt (hsize : 1 ≤ size)
    (hleast : IsLeast {reads | Suffices file n size reads} least) (hlt : reads < least) :
    (after file n size reads).isDone = false := by
  induction reads using Nat.strong_induction_on with
  | _ reads ih =>
      have hnot : ¬ Suffices file n size reads := fun hsuffices =>
        absurd (hleast.2 hsuffices) (Nat.not_le_of_lt hlt)
      have hblocks : least ≤ file.length ⌈/⌉ size := hleast.2 (.inl rfl)
      rw [Bool.eq_false_iff, ne_eq, isDone_after_iff hsize fun i hi => ih i hi (hi.trans hlt)]
      intro hdone
      rcases hdone with hall | hshown
      · omega
      · exact hnot (.inr hshown)

theorem isDone_after_least (hsize : 1 ≤ size)
    (hleast : IsLeast {reads | Suffices file n size reads} least) :
    (after file n size least).isDone = true := by
  rw [isDone_after_iff hsize fun i hi => isDone_after_of_lt hsize hleast hi]
  exact hleast.1.imp_left fun hall => Nat.le_of_eq hall.symm

theorem run_start (h : ∀ i < reads, (after file n size i).isDone = false ∧ d.error? i = none) :
    (start file n).run file size d = (after file n size reads).run file size d := by
  induction reads with
  | zero => rfl
  | succ reads ih =>
      have hlast := h reads (Nat.lt_succ_self reads)
      rw [ih fun i hi => h i (Nat.lt_succ_of_lt hi), run_of_undisturbed hlast.1]
      · rfl
      · rw [length_reads_after]
        exact hlast.2

end Reader

/-! ## Disturbances -/

variable {least : Nat}

/-- What comes after the last read, or not at all, changes nothing. -/
theorem readLastLines_of_undisturbed (hsize : 1 ≤ size)
    (hleast : IsLeast {reads | Suffices file n size reads} least)
    (hd : ∀ i < least, d.error? i = none) : readLastLines file n size d =
      (.ok (Reader.after file n size least).search.finish, (Reader.after file n size least).reads) := by
  rw [readLastLines_eq,
    Reader.run_start fun i hi => ⟨Reader.isDone_after_of_lt hsize hleast hi, hd i hi⟩,
    Reader.run_of_isDone (Reader.isDone_after_least hsize hleast)]
  rfl

/-- The first disturbance before the last read ends the search. -/
theorem readLastLines_of_disturbed {reads : Nat} {e : TailError} (hsize : 1 ≤ size)
    (hleast : IsLeast {reads | Suffices file n size reads} least) (hlt : reads < least)
    (hd : ∀ i < reads, d.error? i = none) (he : d.error? reads = some e) :
    readLastLines file n size d = (.error e, (Reader.after file n size reads).reads) := by
  have hgoes : ∀ i ≤ reads, (Reader.after file n size i).isDone = false := fun i hi =>
    Reader.isDone_after_of_lt hsize hleast (Nat.lt_of_le_of_lt hi hlt)
  have herror : d.error? (Reader.after file n size reads).reads.length = some e := by
    rw [Reader.length_reads_after, he]
  rw [readLastLines_eq, Reader.run_start fun i hi => ⟨hgoes i (Nat.le_of_lt hi), hd i hi⟩,
    Reader.run_of_error (hgoes reads (Nat.le_refl reads)) herror]
  rfl

theorem exists_least (file : Bytes) (n size : Nat) :
    ∃ least, IsLeast {reads | Suffices file n size reads} least := by
  classical
  have hexists : ∃ reads, Suffices file n size reads := ⟨_, .inl rfl⟩
  exact ⟨Nat.find hexists, Nat.find_spec hexists, fun _ h => Nat.find_min' hexists h⟩

theorem error?_none (reads : Nat) : Disturbance.none.error? reads = none := rfl

theorem error?_cancelAfter (k reads : Nat) :
    Disturbance.error? ⟨some k, none⟩ reads = if k ≤ reads then some .cancelled else none := by
  unfold Disturbance.error? Disturbance.cancelled Disturbance.failure?
  simp

theorem error?_failOn (f reads : Nat) (e : IoError) :
    Disturbance.error? ⟨none, some (f, e)⟩ reads = if f = reads + 1 then some (.io e) else none := by
  unfold Disturbance.error? Disturbance.cancelled Disturbance.failure?
  split_ifs <;> simp_all

theorem lastLines_of_undisturbed (hsize : 1 ≤ size)
    (hleast : IsLeast {reads | Suffices file n size reads} least)
    (hd : ∀ i < least, d.error? i = none) : lastLines file n size d = lastLines file n size .none := by
  rw [← readLastLines_fst, ← readLastLines_fst, readLastLines_of_undisturbed hsize hleast hd,
    readLastLines_of_undisturbed hsize hleast fun i _ => error?_none i]

theorem lastLines_of_disturbed {reads : Nat} {e : TailError} (hsize : 1 ≤ size)
    (hleast : IsLeast {reads | Suffices file n size reads} least) (hlt : reads < least)
    (hd : ∀ i < reads, d.error? i = none) (he : d.error? reads = some e) :
    lastLines file n size d = .error e := by
  rw [← readLastLines_fst, readLastLines_of_disturbed hsize hleast hlt hd he]

/-- A search that is disturbed before its last read returns no lines. -/
theorem undisturbed_of_lastLines_eq_ok {lines : List Bytes} (hsize : 1 ≤ size)
    (hleast : IsLeast {reads | Suffices file n size reads} least)
    (h : lastLines file n size d = .ok lines) : ∀ i < least, d.error? i = none := by
  intro i
  induction i using Nat.strong_induction_on with
  | _ i ih =>
      intro hi
      cases he : d.error? i with
      | none => rfl
      | some e =>
          have hends := lastLines_of_disturbed hsize hleast hi
            (fun j hj => ih j hj (hj.trans hi)) he
          cases h.symm.trans hends

theorem lastLines_cancelAfter (hsize : 1 ≤ size)
    (hleast : IsLeast {reads | Suffices file n size reads} least) (k : Nat) :
    lastLines file n size ⟨some k, none⟩ =
      if k < least then .error .cancelled else lastLines file n size .none := by
  split_ifs with hk
  · apply lastLines_of_disturbed hsize hleast hk
    · intro i hi
      rw [error?_cancelAfter, if_neg (Nat.not_le_of_lt hi)]
    · rw [error?_cancelAfter, if_pos (Nat.le_refl k)]
  · apply lastLines_of_undisturbed hsize hleast
    intro i hi
    rw [error?_cancelAfter, if_neg (by omega)]

theorem lastLines_failOn (hsize : 1 ≤ size)
    (hleast : IsLeast {reads | Suffices file n size reads} least) {f : Nat} (hf : 1 ≤ f)
    (e : IoError) : lastLines file n size ⟨none, some (f, e)⟩ =
      if f ≤ least then .error (.io e) else lastLines file n size .none := by
  split_ifs with hle
  · have hlt : f - 1 < least := by omega
    apply lastLines_of_disturbed hsize hleast hlt
    · intro i hi
      rw [error?_failOn, if_neg (by omega)]
    · rw [error?_failOn, if_pos (by omega)]
  · apply lastLines_of_undisturbed hsize hleast
    intro i hi
    rw [error?_failOn, if_neg (by omega)]

/-- A search reads as many blocks as it takes to show enough lines, or all, one before the other
from the end of the file. It is cancelled if the cancellation comes before the last of these reads,
and fails if one of these reads does; otherwise nothing changes. Lines that it returns are never
only a part of what it looks for. -/
theorem lastLines_disturbed (hsize : 1 ≤ size) (file : Bytes) (n : Nat) :
    ∃ least, IsLeast {reads | Suffices file n size reads} least ∧
      (∀ d, (readLastLines file n size d).1 = lastLines file n size d) ∧
      (readLastLines file n size .none).2.reverse =
        ((List.range least).map fun i => Block.before size (file.length - i * size)) ∧
      (∀ k, lastLines file n size ⟨some k, none⟩ =
        if k < least then .error .cancelled else lastLines file n size .none) ∧
      (∀ f e, 1 ≤ f → lastLines file n size ⟨none, some (f, e)⟩ =
        if f ≤ least then .error (.io e) else lastLines file n size .none) ∧
      ∀ d lines, lastLines file n size d = .ok lines →
        lines = (counted (Bytes.pieces file)).rtake n := by
  obtain ⟨least, hleast⟩ := exists_least file n size
  refine ⟨least, hleast, readLastLines_fst file n size, ?_, lastLines_cancelAfter hsize hleast,
    fun f e hf => lastLines_failOn hsize hleast hf e, ?_⟩
  · rw [readLastLines_of_undisturbed hsize hleast fun i _ => error?_none i,
      Reader.reads_after hsize]
  · intro d lines hlines
    rw [lastLines_of_undisturbed hsize hleast (undisturbed_of_lastLines_eq_ok hsize hleast hlines),
      lastLines_eq] at hlines
    exact (Except.ok.inj hlines).symm

/-! ## A small file in blocks of three bytes -/

/-- The lines `1`, `x`, `[2]` and `3`, the last one not ended. Only `x` holds no value. -/
def sampleFile : Bytes := Bytes.ofAscii "1\nx\n[2]\n3"

/-- The second read shows that `[2]` is a line. -/
theorem isLeast_sampleFile : IsLeast {reads | Suffices sampleFile 2 3 reads} 2 := by
  have hshown : (shown sampleFile 3 0).length = 0 ∧ (shown sampleFile 3 1).length = 1 ∧
      (shown sampleFile 3 2).length = 2 := by
    decide +kernel
  have hblocks : sampleFile.length ⌈/⌉ 3 = 3 := by decide +kernel
  refine ⟨.inr (Nat.le_of_eq hshown.2.2.symm), ?_⟩
  intro reads hreads
  by_contra hlt
  obtain rfl | rfl : reads = 0 ∨ reads = 1 := by omega
  all_goals rcases hreads with hall | hle <;> omega

/-- Two lines need two of the three blocks. A cancellation after the second read and a failure of
the third come too late. -/
theorem lastLines_disturbed_sampleFile :
    (readLastLines sampleFile 2 3 .none).2.reverse = [⟨6, 3⟩, ⟨3, 3⟩] ∧
    lastLines sampleFile 2 3 ⟨some 1, none⟩ = .error .cancelled ∧
    lastLines sampleFile 2 3 ⟨some 2, none⟩ = lastLines sampleFile 2 3 .none ∧
    lastLines sampleFile 2 3 ⟨none, some (2, .other "disk failure")⟩ =
      .error (.io (.other "disk failure")) ∧
    lastLines sampleFile 2 3 ⟨none, some (3, .other "disk failure")⟩ =
      lastLines sampleFile 2 3 .none := by
  have hsize : 1 ≤ 3 := by decide
  obtain ⟨least, hleast, -, hreads, hcancel, hfail, -⟩ := lastLines_disturbed hsize sampleFile 2
  obtain rfl := hleast.unique isLeast_sampleFile
  exact ⟨hreads, hcancel 1, hcancel 2, hfail 2 _ (by decide), hfail 3 _ (by decide)⟩

end ProxyWarden.Tail

import Mathlib.Data.List.DropRight
import ProxyWarden.Journal.Pair
import ProxyWarden.Proofs.Dispatch.Lines
import ProxyWarden.Proofs.Journal.ReadBack
import ProxyWarden.Proofs.Line.Access

/-!
# Lines sorted into two journals

The lines of the core go to two journals, each of which is rotated for itself. Whatever the order is,
the access journal holds the connections that the lines since its last rotation describe, the core
journal holds the log lines among the unmarked ones since its own, and the last unmarked line is
remembered over rotations (`Journals.perform_sorts`). A write to one journal leaves the other's file
alone, which carries the account of both (`Journals.Sorted`) from one deed to the next.
-/
namespace ProxyWarden

/-! ## One journal at a time -/

/-- The disk afterwards differs in what one file holds at most. -/
inductive Disk.ChangedAt (number : Nat) (d : Disk) : Disk → Prop where
  | not : ChangedAt number d d
  | content (bs : Bytes) : ChangedAt number d (d.setContent number bs)

variable {d e : Disk} {number other : Nat}

theorem Journal.Keeps.of_changedAt {α : Type} {F : RecordFormat α} {j : Journal} {xs : List α}
    (h : j.Keeps F d number xs) (hne : other ≠ number) (hchange : d.ChangedAt other e) :
    j.Keeps F e number xs := by
  cases hchange with
  | not => exact h
  | content bs => exact h.setContent_of_ne hne bs

theorem AccessJournal.Keeps.writeLine {a : AccessJournal} {cs : List Connection}
    (h : a.Keeps d number cs) (line : String) (now : Nat) :
    ∃ b e, a.writeLine line now d = ⟨.ok (), b, e⟩ ∧ d.ChangedAt number e ∧
      b.Keeps e number (cs ++ (AccessLine.parse? line).toList) := by
  unfold AccessJournal.writeLine
  cases AccessLine.parse? line with
  | none =>
      rw [Option.toList_none, List.append_nil]
      exact ⟨a, d, rfl, .not, h⟩
  | some c =>
      obtain ⟨b, bs, hrecord, hafter⟩ := h.record c now
      exact ⟨b, _, hrecord, .content bs, hafter⟩

namespace CoreJournal

/-- The journal's file is made of records of the log lines, in their order. -/
def Keeps (c : CoreJournal) (d : Disk) (number : Nat) (es : List CoreEntry) : Prop :=
  c.journal.Keeps CoreEntry.format d number es

variable {c : CoreJournal} {es : List CoreEntry}

theorem Keeps.writeLine (h : c.Keeps d number es) (line : String) (now : Nat) :
    ∃ b e, c.writeLine line now d = ⟨.ok (), b, e⟩ ∧ d.ChangedAt number e ∧
      b.Keeps e number (es ++ (CoreLine.parse? line).toList) ∧
      b.journal.path = c.journal.path ∧ b.lastLine = line := by
  unfold CoreJournal.writeLine
  cases CoreLine.parse? line with
  | none =>
      rw [Option.toList_none, List.append_nil]
      exact ⟨_, d, rfl, .not, h, rfl, rfl⟩
  | some entry =>
      obtain ⟨k, bs, happend, hafter⟩ := Journal.Keeps.append h entry now
      have hline : c.journal.append (entry.toLine now) d = .ok (k, d.setContent number bs) := by
        rw [CoreEntry.toLine_eq]
        exact happend
      dsimp only
      rw [hline]
      exact ⟨_, _, rfl, .content bs, hafter, Journal.path_of_append hline, rfl⟩

theorem Keeps.rotate (h : c.Keeps d number es) :
    ∃ b, c.rotate d = ⟨.ok (), b, d.setContent number []⟩ ∧
      b.Keeps (d.setContent number []) number [] ∧ b.journal.path = c.journal.path ∧
      b.lastLine = c.lastLine := by
  obtain ⟨k, hrotate, hafter⟩ := Journal.Keeps.rotate h
  refine ⟨{ c with journal := k }, ?_, hafter, Journal.path_of_rotate hrotate, rfl⟩
  rw [CoreJournal.rotate, hrotate]

theorem journal_open? {path : Path} {before : Disk} (h : open? path before = .ok (c, d)) :
    Journal.open? path before = .ok (c.journal, d) ∧ c.lastLine = "" := by
  unfold open? at h
  cases hopen : Journal.open? path before with
  | error e =>
      rw [hopen] at h
      cases h
  | ok opened =>
      rw [hopen] at h
      cases h
      exact ⟨rfl, rfl⟩

end CoreJournal

namespace Journals

/-! ## Deeds -/

inductive Deed where
  | forward (line : String) (now : Nat)
  | rotateAccess
  | rotateCore
deriving DecidableEq, Repr

def performOne (j : Journals) (d : Disk) : Deed → Effect Journals
  | .forward line now => j.forward line now d
  | .rotateAccess => j.rotateAccess d
  | .rotateCore => j.rotateCore d

/-- Performs deeds in their order, up to the first that fails. -/
def perform (j : Journals) (d : Disk) : List Deed → Except JournalError (Journals × Disk)
  | [] => .ok (j, d)
  | deed :: deeds =>
    let effect := j.performOne d deed
    match effect.result with
    | .error e => .error e
    | .ok () => effect.journal.perform effect.disk deeds

def Deed.line? : Deed → Option String
  | forward line _ => some line
  | rotateAccess => none
  | rotateCore => none

def forwarded (deeds : List Deed) : List String := deeds.filterMap Deed.line?

/-- The lines forwarded since the last such rotation. -/
def forwardedSince (rotation : Deed) (deeds : List Deed) : List String :=
  forwarded (deeds.rtakeWhile fun deed => deed ≠ rotation)

def unmarked (ls : List String) : List String :=
  ls.filter fun l => ¬ AccessLine.marker <:+: l.toList

theorem forwarded_concat (deeds : List Deed) (deed : Deed) :
    forwarded (deeds ++ [deed]) = forwarded deeds ++ forwarded [deed] :=
  List.filterMap_append

theorem forwardedSince_concat_self (rotation : Deed) (deeds : List Deed) :
    forwardedSince rotation (deeds ++ [rotation]) = [] := by
  rw [forwardedSince, List.rtakeWhile_concat_neg]
  · rfl
  · simp

theorem forwardedSince_concat_of_ne {rotation deed : Deed} (hne : deed ≠ rotation)
    (deeds : List Deed) :
    forwardedSince rotation (deeds ++ [deed]) =
      forwardedSince rotation deeds ++ forwarded [deed] := by
  rw [forwardedSince, List.rtakeWhile_concat_pos, forwarded_concat]
  · rfl
  · simpa using hne

theorem unmarked_concat_of_marked {l : String} (h : AccessLine.marker <:+: l.toList)
    (ls : List String) : unmarked (ls ++ [l]) = unmarked ls := by
  simp [unmarked, h]

theorem unmarked_concat_of_not_marked {l : String} (h : ¬ AccessLine.marker <:+: l.toList)
    (ls : List String) : unmarked (ls ++ [l]) = unmarked ls ++ [l] := by
  simp [unmarked, h]

/-! ## The account of both journals -/

structure Sorted (q : Path) (j : Journals) (d : Disk) (n m : Nat) (done : List Deed) : Prop where
  access : j.access.Keeps d n ((forwardedSince .rotateAccess done).filterMap AccessLine.parse?)
  core : j.core.Keeps d m
    ((unmarked (forwardedSince .rotateCore done)).filterMap CoreLine.parse?)
  path_eq : j.core.journal.path = q
  last : j.core.lastLine = (unmarked (forwarded done)).getLast?.getD ""

variable {q : Path} {j : Journals} {n m : Nat} {done : List Deed}

theorem filterMap_concat {α β : Type} (f : α → Option β) (xs : List α) (x : α) :
    (xs ++ [x]).filterMap f = xs.filterMap f ++ (f x).toList := by
  rw [List.filterMap_append]
  cases h : f x <;> simp [h]

/-- The account of one more line. -/
theorem Sorted.of_forward {line : String} {now : Nat}
    (haccess : j.access.Keeps d n
      ((forwardedSince .rotateAccess done ++ [line]).filterMap AccessLine.parse?))
    (hcore : j.core.Keeps d m
      ((unmarked (forwardedSince .rotateCore done ++ [line])).filterMap CoreLine.parse?))
    (hpath : j.core.journal.path = q)
    (hlast : j.core.lastLine = (unmarked (forwarded done ++ [line])).getLast?.getD "") :
    Sorted q j d n m (done ++ [.forward line now]) := by
  constructor
  · rw [forwardedSince_concat_of_ne (by simp)]
    exact haccess
  · rw [forwardedSince_concat_of_ne (by simp)]
    exact hcore
  · exact hpath
  · rw [forwarded_concat]
    exact hlast

theorem Sorted.forward_marked (h : Sorted q j d n m done) (hne : n ≠ m) {line : String}
    (hmarked : AccessLine.marker <:+: line.toList) (now : Nat) :
    ∃ k e, j.forward line now d = ⟨.ok (), k, e⟩ ∧ Sorted q k e n m (done ++ [.forward line now]) := by
  have hchannel := (Dispatch.ofLine_eq_access_iff line).2 hmarked
  obtain ⟨b, e, hwrite, hchange, hkeeps⟩ := h.access.writeLine line now
  refine ⟨{ j with access := b }, e, ?_, ?_⟩
  · rw [forward, hchannel]
    dsimp only
    rw [hwrite]
  · apply Sorted.of_forward
    · rw [filterMap_concat]
      exact hkeeps
    · rw [unmarked_concat_of_marked hmarked]
      exact Journal.Keeps.of_changedAt h.core hne hchange
    · exact h.path_eq
    · rw [unmarked_concat_of_marked hmarked]
      exact h.last

theorem Sorted.forward_not_marked (h : Sorted q j d n m done) (hne : n ≠ m) {line : String}
    (hplain : ¬ AccessLine.marker <:+: line.toList) (now : Nat) :
    ∃ k e, j.forward line now d = ⟨.ok (), k, e⟩ ∧ Sorted q k e n m (done ++ [.forward line now]) := by
  have hchannel : Dispatch.Channel.ofLine line = .core := by
    cases hline : Dispatch.Channel.ofLine line with
    | access => exact absurd ((Dispatch.ofLine_eq_access_iff line).1 hline) hplain
    | core => rfl
  -- The line describes no connection, so the account of the access journal stays as it is.
  have hnone : AccessLine.parse? line = none := by
    cases hparse : AccessLine.parse? line with
    | none => rfl
    | some c => exact absurd (AccessLine.marker_infix_of_parse? hparse) hplain
  obtain ⟨b, e, hwrite, hchange, hkeeps, hpath, hlast⟩ := h.core.writeLine line now
  refine ⟨{ j with core := b }, e, ?_, ?_⟩
  · rw [forward, hchannel]
    dsimp only
    rw [hwrite]
  · apply Sorted.of_forward
    · rw [filterMap_concat, hnone, Option.toList_none, List.append_nil]
      exact Journal.Keeps.of_changedAt h.access hne.symm hchange
    · rw [unmarked_concat_of_not_marked hplain, filterMap_concat]
      exact hkeeps
    · exact hpath.trans h.path_eq
    · rw [unmarked_concat_of_not_marked hplain, List.getLast?_concat]
      exact hlast

theorem Sorted.rotateAccess (h : Sorted q j d n m done) (hne : n ≠ m) :
    ∃ k e, j.rotateAccess d = ⟨.ok (), k, e⟩ ∧ Sorted q k e n m (done ++ [.rotateAccess]) := by
  have hnothing : forwarded [.rotateAccess] = [] := rfl
  obtain ⟨b, hrotate, hkeeps⟩ := h.access.rotate
  refine ⟨{ j with access := b }, d.setContent n [], ?_, ?_⟩
  · rw [Journals.rotateAccess, hrotate]
  · constructor
    · rw [forwardedSince_concat_self]
      exact hkeeps
    · rw [forwardedSince_concat_of_ne (by simp), hnothing, List.append_nil]
      exact Journal.Keeps.setContent_of_ne h.core hne []
    · exact h.path_eq
    · rw [forwarded_concat, hnothing, List.append_nil]
      exact h.last

theorem Sorted.rotateCore (h : Sorted q j d n m done) (hne : n ≠ m) :
    ∃ k e, j.rotateCore d = ⟨.ok (), k, e⟩ ∧ Sorted q k e n m (done ++ [.rotateCore]) := by
  have hnothing : forwarded [.rotateCore] = [] := rfl
  obtain ⟨b, hrotate, hkeeps, hpath, hlast⟩ := h.core.rotate
  refine ⟨{ j with core := b }, d.setContent m [], ?_, ?_⟩
  · rw [Journals.rotateCore, hrotate]
  · constructor
    · rw [forwardedSince_concat_of_ne (by simp), hnothing, List.append_nil]
      exact Journal.Keeps.setContent_of_ne h.access hne.symm []
    · rw [forwardedSince_concat_self]
      exact hkeeps
    · exact hpath.trans h.path_eq
    · rw [forwarded_concat, hnothing, List.append_nil]
      exact hlast.trans h.last

/-- A deed succeeds and does to the journals what it does to the account. -/
theorem Sorted.performOne (h : Sorted q j d n m done) (hne : n ≠ m) (deed : Deed) :
    ∃ k e, j.performOne d deed = ⟨.ok (), k, e⟩ ∧ Sorted q k e n m (done ++ [deed]) := by
  cases deed with
  | forward line now =>
      by_cases hmarked : AccessLine.marker <:+: line.toList
      · exact h.forward_marked hne hmarked now
      · exact h.forward_not_marked hne hmarked now
  | rotateAccess => exact h.rotateAccess hne
  | rotateCore => exact h.rotateCore hne

theorem Sorted.perform (h : Sorted q j d n m done) (hne : n ≠ m) (deeds : List Deed) :
    ∃ k e, j.perform d deeds = .ok (k, e) ∧ Sorted q k e n m (done ++ deeds) := by
  induction deeds generalizing j d done with
  | nil =>
      rw [List.append_nil]
      exact ⟨j, d, rfl, h⟩
  | cons deed deeds ih =>
      obtain ⟨k, e, hone, hafter⟩ := h.performOne hne deed
      obtain ⟨k', e', hrest, hdone⟩ := ih hafter
      refine ⟨k', e', ?_, ?_⟩
      · rw [Journals.perform, hone]
        exact hrest
      · rw [List.append_assoc] at hdone
        exact hdone

/-! ## From the opening on -/

inductive Opened (p q : Path) (before : Disk) : Journals → Disk → Prop where
  | accessFirst {a : AccessJournal} {c : CoreJournal} {mid after : Disk} :
      AccessJournal.open? p before = .ok (a, mid) → CoreJournal.open? q mid = .ok (c, after) →
      Opened p q before ⟨a, c⟩ after
  | coreFirst {a : AccessJournal} {c : CoreJournal} {mid after : Disk} :
      CoreJournal.open? q before = .ok (c, mid) → AccessJournal.open? p mid = .ok (a, after) →
      Opened p q before ⟨a, c⟩ after

theorem Opened.sorted {p q : Path} {before : Disk} (h : Opened p q before j d)
    (haccess : j.access.journal.handle.target = .file n)
    (hcore : j.core.journal.handle.target = .file m)
    (hn : d.contents[n]? = some []) (hm : d.contents[m]? = some []) : Sorted q j d n m [] := by
  cases h with
  | accessFirst ha hc =>
      have ha' := AccessJournal.journal_open? ha
      obtain ⟨hc', hlast⟩ := CoreJournal.journal_open? hc
      constructor
      · exact (Journal.holds_of_open?_open? ha' hc' haccess hn).keeps_nil
      · exact (Journal.holds_of_open? hc' hcore hm).keeps_nil
      · exact (Journal.openTarget_of_open? hc').1
      · exact hlast
  | coreFirst hc ha =>
      have ha' := AccessJournal.journal_open? ha
      obtain ⟨hc', hlast⟩ := CoreJournal.journal_open? hc
      constructor
      · exact (Journal.holds_of_open? ha' haccess hn).keeps_nil
      · exact (Journal.holds_of_open?_open? hc' ha' hcore hm).keeps_nil
      · exact (Journal.openTarget_of_open? hc').1
      · exact hlast

/-- The journals are opened at two files that are empty. Whatever lines are then forwarded and
whichever journal is rotated in between, nothing fails. The connections read back are those that the
lines since the access journal's last rotation describe, the core journal holds the log lines among
the unmarked lines since its own, and the last unmarked line of all is remembered. -/
theorem perform_sorts {p q : Path} {before : Disk} (hopen : Opened p q before j d)
    (haccess : j.access.journal.handle.target = .file n)
    (hcore : j.core.journal.handle.target = .file m) (hne : n ≠ m)
    (hn : d.contents[n]? = some []) (hm : d.contents[m]? = some []) (deeds : List Deed) :
    ∃ k e text, j.perform d deeds = .ok (k, e) ∧
      k.access.lastConnections 0 false e =
        .ok ((forwardedSince .rotateAccess deeds).filterMap AccessLine.parse?) ∧
      e.read q = .ok text ∧
      text.lines.map CoreEntry.ofLine? =
        ((unmarked (forwardedSince .rotateCore deeds)).filterMap CoreLine.parse?).map some ∧
      k.core.lastLine = (unmarked (forwarded deeds)).getLast?.getD "" := by
  have hstart := hopen.sorted haccess hcore hn hm
  obtain ⟨k, e, hperform, hsorted⟩ := hstart.perform hne deeds
  rw [List.nil_append] at hsorted
  obtain ⟨text, hread, hlines⟩ := Journal.Keeps.read_eq hsorted.core
  rw [hsorted.path_eq] at hread
  exact ⟨k, e, text, hperform, hsorted.access.lastConnections 0, hread, hlines, hsorted.last⟩

/-- Lines of all kinds, with a rotation of each journal in between. -/
def interleaved : List Deed := [
  .forward "from 10.0.0.1:1 accepted tcp:a:1 [in >> out]" 0,
  .rotateAccess,
  .forward "12:00 [Info] up" 1,
  .rotateCore,
  .forward "from 10.0.0.1:2 accepted udp:b:1 [in >> out] email: u" 2,
  .forward "12:01 [Warning] accepted" 3,
  .forward "12:02 [Warning] low" 4,
  .forward "not a log line" 5]

theorem perform_sorts_interleaved :
    ∃ j d k e text, Opened (Bytes.ofAscii "access.log") (Bytes.ofAscii "core.log") Disk.fresh j d ∧
      j.access.journal.handle.target = .file 0 ∧ j.core.journal.handle.target = .file 1 ∧
      d.contents[0]? = some [] ∧ d.contents[1]? = some [] ∧
      j.perform d interleaved = .ok (k, e) ∧
      k.access.lastConnections 0 false e =
        .ok [⟨"10.0.0.1:2", "udp:b:1", .udp, "in", "out", "u"⟩] ∧
      e.read (Bytes.ofAscii "core.log") = .ok text ∧
      text.lines.map CoreEntry.ofLine? = [some ⟨"Warning", "low"⟩] ∧
      k.core.lastLine = "not a log line" := by
  have hopen : Opened (Bytes.ofAscii "access.log") (Bytes.ofAscii "core.log") Disk.fresh _ _ :=
    .accessFirst rfl rfl
  have hconnections : (forwardedSince .rotateAccess interleaved).filterMap AccessLine.parse? =
      [⟨"10.0.0.1:2", "udp:b:1", .udp, "in", "out", "u"⟩] := by decide +kernel
  have hentries : (unmarked (forwardedSince .rotateCore interleaved)).filterMap CoreLine.parse? =
      [⟨"Warning", "low"⟩] := by decide +kernel
  have hlast : (unmarked (forwarded interleaved)).getLast?.getD "" = "not a log line" := by
    decide +kernel
  obtain ⟨k, e, text, hperform, hread, htext, hlines, hline⟩ :=
    perform_sorts hopen rfl rfl (by decide) rfl rfl interleaved
  rw [hconnections] at hread
  rw [hentries] at hlines
  rw [hlast] at hline
  exact ⟨_, _, k, e, text, hopen, rfl, rfl, rfl, rfl, hperform, hread, htext, hlines, hline⟩

end Journals

end ProxyWarden

import ProxyWarden.Proofs.Journal.Counting
import ProxyWarden.Proofs.Journal.ReadBack
import ProxyWarden.Proofs.Json.Merging

/-!
# Records behind failed writes

A write that fails leaves what it has put down of its line. The next record goes on behind it on
the same line, and no reader finds a record there, as an object behind unfinished text completes
nothing (`Json.isValue_merged`). So the connections read back are those whose records started a line
of their own, and they are all that were reported as recorded exactly if no record was written behind
what a failed write had left (`AccessJournal.lastConnections_tryAll`).
-/
namespace ProxyWarden

open Json

namespace Journal

variable {j : Journal} {d : Disk} {number : Nat} {text l : Bytes}

/-- A failed write leaves the journal at the end of what it has put down. -/
theorem Holds.appendTorn (h : j.Holds d number text) (line : Bytes) (written : Nat) :
    ∃ k, j.appendTorn line written d = (k, d.setContent number (text ++ line.take written)) ∧
      k.Holds (d.setContent number (text ++ line.take written)) number
        (text ++ line.take written) := by
  obtain ⟨k, happend, hafter⟩ := h.append (line.take written)
  refine ⟨k, ?_, hafter⟩
  rw [Journal.append, h.write_eq] at happend
  rw [Journal.appendTorn, h.write_eq]
  exact Except.ok.inj happend

/-- A record starts with the key of its time. -/
theorem IsRecord.exists_keyed (h : IsRecord l) :
    ∃ r, l = keyed 't'.toUInt8 r ∧ skipValue l = .ok [] := by
  obtain ⟨now, msg, fields, rfl⟩ := h
  have hbytes := encodeList_write_object ("time", Stamp.text now)
    (("level", "INFO") :: ("msg", msg) :: fields) []
  have hskip := skipValue_textObject ("time", Stamp.text now)
    (("level", "INFO") :: ("msg", msg) :: fields) []
  have hkey : body "time" = 't'.toUInt8 :: Bytes.ofAscii "ime" := rfl
  rw [List.append_nil] at hbytes hskip
  rw [quotedThen, hkey] at hbytes
  exact ⟨_, hbytes, hskip⟩

theorem isKeyByte_time : IsKeyByte 't'.toUInt8 where
  solid := rfl
  colon := by decide
  comma := by decide
  closer f := by
    cases f with
    | list => decide
    | object => decide

/-- Behind an opening brace no record is read, nor anything else. -/
theorem IsRecord.ofLine?_behind (h : IsRecord l) (u : Bytes) :
    Connection.ofLine? ('\x7b'.toUInt8 :: (u ++ l)) = none := by
  obtain ⟨r, rfl, hwhole⟩ := h.exists_keyed
  rw [Option.eq_none_iff_forall_ne_some]
  intro c hread
  have hvalue := Connection.isValue_of_ofLine? hread
  rw [isValue_merged isKeyByte_time hwhole u] at hvalue
  cases hvalue

end Journal

theorem Connection.isRecord_text (c : Connection) (now : Nat) : Journal.IsRecord (c.text now) :=
  Connection.format.isRecord c now

namespace AccessJournal

inductive Attempt where
  | whole (op : Operation)
  /-- A connection is to be recorded, and the write fails before the end of its line. -/
  | torn (c : Connection) (now written : Nat) (partly : written < (c.toLine now).length)
      (error : OsError)

def Attempt.isTorn : Attempt → Bool
  | .whole _ => false
  | .torn .. => true

def tryOne (a : AccessJournal) (d : Disk) : Attempt → Effect AccessJournal
  | .whole op => a.performOne d op
  | .torn c now written _ error =>
    let left := a.journal.appendTorn (c.toLine now) written d
    ⟨.error (.write error), ⟨left.1⟩, left.2⟩

/-- The connections reported as recorded since the last rotation, after one more attempt. -/
def Attempt.reportedAfter (cs : List Connection) :
    Attempt → Except JournalError Unit → List Connection
  | .whole op, .ok () => op.recordedAfter cs
  | _, _ => cs

/-- A journal, its disk, and the connections reported as recorded since the last rotation. -/
structure Tried where
  journal : AccessJournal
  disk : Disk
  reported : List Connection

def Tried.next (u : Tried) (t : Attempt) : Tried :=
  let effect := u.journal.tryOne u.disk t
  ⟨effect.journal, effect.disk, t.reportedAfter u.reported effect.result⟩

/-- What attempts leave, the latest first. -/
def tryAll (a : AccessJournal) (d : Disk) : List Attempt → Tried
  | [] => ⟨a, d, []⟩
  | t :: ts => (a.tryAll d ts).next t

/-- What failed writes have put down since the last line was ended. -/
def unfinished : List Attempt → Bytes
  | [] => []
  | .whole .reopen :: ts => unfinished ts
  | .whole _ :: _ => []
  | .torn c now written _ _ :: ts => unfinished ts ++ (c.toLine now).take written

/-- The connections whose records start a line of their own, since the last rotation. -/
def landed : List Attempt → List Connection
  | [] => []
  | .whole (.record c _) :: ts => if unfinished ts = [] then landed ts ++ [c] else landed ts
  | .whole .rotate :: _ => []
  | .whole .reopen :: ts => landed ts
  | .torn .. :: ts => landed ts

/-- Since the last rotation no record was written behind what a failed write had left. -/
def Intact : List Attempt → Prop
  | [] => True
  | .whole (.record ..) :: ts => Intact ts ∧ unfinished ts = []
  | .whole .rotate :: _ => True
  | .whole .reopen :: ts => Intact ts
  | .torn .. :: ts => Intact ts

/-! ## Unfinished lines -/

/-- A part of a line does not reach to its end. -/
theorem take_toLine {c : Connection} {now written : Nat}
    (partly : written < (c.toLine now).length) :
    (c.toLine now).take written = (c.text now).take written := by
  rw [Connection.toLine_eq] at partly ⊢
  rw [List.length_append, List.length_singleton] at partly
  exact List.take_append_of_le_length (Nat.le_of_lt_succ partly)

theorem newline_notMem_unfinished (ts : List Attempt) : Bytes.newline ∉ unfinished ts := by
  induction ts with
  | nil => exact List.not_mem_nil
  | cons t ts ih =>
      cases t with
      | whole op =>
          cases op with
          | record c now => exact List.not_mem_nil
          | rotate => exact List.not_mem_nil
          | reopen => exact ih
      | torn c now written partly error =>
          rw [unfinished, take_toLine partly, List.mem_append, not_or]
          exact ⟨ih, fun hmem => (c.isRecord_text now).newline_notMem (List.mem_of_mem_take hmem)⟩

/-- What failed writes have put down starts with an opening brace. -/
theorem unfinished_eq (ts : List Attempt) :
    unfinished ts = [] ∨ ∃ u, unfinished ts = '\x7b'.toUInt8 :: u := by
  induction ts with
  | nil => exact .inl rfl
  | cons t ts ih =>
      cases t with
      | whole op =>
          cases op with
          | record c now => exact .inl rfl
          | rotate => exact .inl rfl
          | reopen => exact ih
      | torn c now written partly error =>
          rw [unfinished, take_toLine partly]
          obtain hnil | ⟨u, hu⟩ := ih
          · rw [hnil, List.nil_append]
            cases written with
            | zero => exact .inl List.take_zero
            | succ written =>
                obtain ⟨r, hr⟩ := (c.isRecord_text now).exists_eq
                rw [hr, List.take_succ_cons]
                exact .inr ⟨_, rfl⟩
          · rw [hu, List.cons_append]
            exact .inr ⟨_, rfl⟩

/-! ## Reading lines -/

/-- A file of lines and what stands behind the last of them. -/
theorem filterMap_lines_append {ls : List Bytes} {u : Bytes} (hls : ∀ l ∈ ls, Bytes.newline ∉ l)
    (hu : Bytes.newline ∉ u) :
    (Bytes.lines (Journal.fileOf ls ++ u)).filterMap Connection.ofLine? =
      ls.filterMap Connection.ofLine? ++ (Connection.ofLine? u).toList := by
  have hpieces : Bytes.pieces (Journal.fileOf ls ++ u) = ls ++ [u] :=
    Bytes.pieces_append (Bytes.pieces_lines hls) (Bytes.pieces_of_newline_notMem hu)
  have hempty : Connection.ofLine? [] = none := Connection.ofLine?_eq_none_of_blank rfl
  have hlast : [u].filterMap Connection.ofLine? = (Connection.ofLine? u).toList := rfl
  rw [← hlast, ← List.filterMap_append, ← hpieces]
  obtain hlines | hlines := Bytes.pieces_eq_lines (Journal.fileOf ls ++ u)
  · rw [hlines, List.filterMap_append, List.filterMap_cons_none hempty]
    exact (List.append_nil _).symm
  · rw [hlines]

/-- Behind what failed writes have put down a record is not read. -/
theorem ofLine?_unfinished_append (ts : List Attempt) (c : Connection) (now : Nat) :
    Connection.ofLine? (unfinished ts ++ c.text now) =
      if unfinished ts = [] then some c else none := by
  obtain hnil | ⟨u, hu⟩ := unfinished_eq ts
  · rw [hnil, if_pos rfl, List.nil_append]
    exact c.ofLine?_text now
  · rw [hu, if_neg (List.cons_ne_nil _ u), List.cons_append]
    exact (c.isRecord_text now).ofLine?_behind u

/-- What is read in the line that a record ends is what the record adds to the landed ones. -/
theorem landed_record (ts : List Attempt) (c : Connection) (now : Nat) :
    landed (.whole (.record c now) :: ts) =
      landed ts ++ (Connection.ofLine? (unfinished ts ++ c.text now)).toList := by
  rw [ofLine?_unfinished_append, landed]
  split_ifs
  · rfl
  · exact (List.append_nil _).symm

/-! ## What is reported -/

/-- The reported connections include the landed ones, and are these exactly if nothing was written
behind what a failed write had left. A failed write costs one of them at most; what is unfinished may
still cost one. -/
structure Accounted (ts : List Attempt) (reported : List Connection) : Prop where
  sublist : (landed ts).Sublist reported
  intact : reported = landed ts ↔ Intact ts
  cost : reported.length + (if unfinished ts = [] then 0 else 1) ≤
    (landed ts).length + ts.countP Attempt.isTorn

section
variable {ts : List Attempt} {cs : List Connection}

theorem accounted_nil : Accounted [] [] where
  sublist := List.Sublist.refl []
  intact := by simp [landed, Intact]
  cost := Nat.le_refl 0

theorem accounted_rotate (ts : List Attempt) : Accounted (.whole .rotate :: ts) [] where
  sublist := List.Sublist.refl []
  intact := by simp [landed, Intact]
  cost := Nat.zero_le _

theorem Accounted.reopen (h : Accounted ts cs) : Accounted (.whole .reopen :: ts) cs :=
  ⟨h.sublist, h.intact, h.cost⟩

theorem Accounted.record_of_clean (h : Accounted ts cs) (hclean : unfinished ts = [])
    (c : Connection) (now : Nat) : Accounted (.whole (.record c now) :: ts) (cs ++ [c]) := by
  have hlanded : landed (.whole (.record c now) :: ts) = landed ts ++ [c] := if_pos hclean
  have hcost := h.cost
  rw [if_pos hclean] at hcost
  refine ⟨?_, ?_, ?_⟩
  · rw [hlanded]
    exact h.sublist.append (List.Sublist.refl [c])
  · rw [hlanded, List.append_cancel_right_eq, h.intact]
    exact ⟨fun hintact => ⟨hintact, hclean⟩, fun hboth => hboth.1⟩
  · have hended : unfinished (.whole (.record c now) :: ts) = [] := rfl
    rw [hlanded, List.countP_cons_of_neg Bool.false_ne_true, List.length_append,
      List.length_append, if_pos hended]
    omega

/-- The record that is lost is the one that a failed write before it costs. -/
theorem Accounted.record_of_unfinished (h : Accounted ts cs) (hleft : unfinished ts ≠ [])
    (c : Connection) (now : Nat) : Accounted (.whole (.record c now) :: ts) (cs ++ [c]) := by
  have hlanded : landed (.whole (.record c now) :: ts) = landed ts := if_neg hleft
  have hcost := h.cost
  rw [if_neg hleft] at hcost
  refine ⟨?_, ?_, ?_⟩
  · rw [hlanded]
    exact h.sublist.trans (List.sublist_append_left _ _)
  · rw [hlanded]
    constructor
    · intro hall
      have hlength := h.sublist.length_le
      rw [← hall, List.length_append, List.length_singleton] at hlength
      exact absurd hlength (Nat.not_succ_le_self _)
    · intro hintact
      exact absurd hintact.2 hleft
  · rw [hlanded, List.countP_cons_of_neg Bool.false_ne_true, List.length_append]
    exact hcost

theorem Accounted.record (h : Accounted ts cs) (c : Connection) (now : Nat) :
    Accounted (.whole (.record c now) :: ts) (cs ++ [c]) := by
  by_cases hclean : unfinished ts = []
  · exact h.record_of_clean hclean c now
  · exact h.record_of_unfinished hclean c now

theorem Accounted.torn (h : Accounted ts cs) (c : Connection) (now written : Nat)
    (partly : written < (c.toLine now).length) (error : OsError) :
    Accounted (.torn c now written partly error :: ts) cs := by
  refine ⟨h.sublist, h.intact, ?_⟩
  have hcost : cs.length + 1 ≤ (landed ts).length + (ts.countP Attempt.isTorn + 1) := by
    have hbefore := h.cost
    omega
  rw [List.countP_cons_of_pos rfl]
  refine Nat.le_trans (Nat.add_le_add_left ?_ _) hcost
  split_ifs
  · exact Nat.zero_le 1
  · exact Nat.le_refl 1

end

/-! ## What is in the file -/

/-- The file is made of lines, in which exactly the landed connections are read, and of what failed
writes have put down behind them. -/
structure Leaves (ts : List Attempt) (u : Tried) (number : Nat) : Prop where
  file : ∃ ls, (∀ l ∈ ls, Bytes.newline ∉ l) ∧ ls.filterMap Connection.ofLine? = landed ts ∧
    u.journal.journal.Holds u.disk number (Journal.fileOf ls ++ unfinished ts)
  accounted : Accounted ts u.reported

namespace Leaves

variable {ts : List Attempt} {u : Tried} {number : Nat}

/-- A record ends the line that it stands on, whether it starts it or not. -/
theorem record (h : Leaves ts u number) (c : Connection) (now : Nat) :
    Leaves (.whole (.record c now) :: ts) (u.next (.whole (.record c now))) number := by
  obtain ⟨ls, hls, hread, hholds⟩ := h.file
  obtain ⟨k, happend, hafter⟩ := hholds.append (c.toLine now)
  have hnext : u.next (.whole (.record c now)) = ⟨⟨k⟩, u.disk.setContent number
      (Journal.fileOf ls ++ unfinished ts ++ c.toLine now), u.reported ++ [c]⟩ := by
    rw [Tried.next, tryOne, performOne, AccessJournal.record, happend]
    rfl
  have hfile : Journal.fileOf ls ++ unfinished ts ++ c.toLine now =
      Journal.fileOf (ls ++ [unfinished ts ++ c.text now]) ++ [] := by
    rw [Connection.toLine_eq, List.append_assoc, ← List.append_assoc (unfinished ts),
      Journal.fileOf_append_line, List.append_nil]
  rw [hfile] at hafter hnext
  rw [hnext]
  refine ⟨⟨_, ?_, ?_, hafter⟩, h.accounted.record c now⟩
  · rw [List.forall_mem_append, List.forall_mem_singleton, List.mem_append, not_or]
    exact ⟨hls, newline_notMem_unfinished ts, (c.isRecord_text now).newline_notMem⟩
  · rw [List.filterMap_append, hread, landed_record]
    rfl

theorem torn (h : Leaves ts u number) (c : Connection) (now written : Nat)
    (partly : written < (c.toLine now).length) (error : OsError) :
    Leaves (.torn c now written partly error :: ts) (u.next (.torn c now written partly error))
      number := by
  obtain ⟨ls, hls, hread, hholds⟩ := h.file
  obtain ⟨k, htorn, hafter⟩ := hholds.appendTorn (c.toLine now) written
  have hnext : u.next (.torn c now written partly error) = ⟨⟨k⟩, u.disk.setContent number
      (Journal.fileOf ls ++ unfinished ts ++ (c.toLine now).take written), u.reported⟩ := by
    rw [Tried.next, tryOne, htorn]
    rfl
  rw [List.append_assoc] at hafter hnext
  rw [hnext]
  exact ⟨⟨ls, hls, hread, hafter⟩, h.accounted.torn c now written partly error⟩

theorem rotate (h : Leaves ts u number) :
    Leaves (.whole .rotate :: ts) (u.next (.whole .rotate)) number := by
  obtain ⟨ls, -, -, hholds⟩ := h.file
  obtain ⟨k, hrotate, hafter⟩ := hholds.rotate
  have hnext : u.next (.whole .rotate) = ⟨⟨k⟩, u.disk.setContent number [], []⟩ := by
    rw [Tried.next, tryOne, performOne, AccessJournal.rotate, hrotate]
    rfl
  rw [hnext]
  exact ⟨⟨[], by simp, rfl, hafter⟩, accounted_rotate ts⟩

theorem reopen (h : Leaves ts u number) :
    Leaves (.whole .reopen :: ts) (u.next (.whole .reopen)) number := by
  obtain ⟨ls, hls, hread, hholds⟩ := h.file
  obtain ⟨k, hopen, hafter⟩ := hholds.reopen
  have hnext : u.next (.whole .reopen) = ⟨⟨k⟩, u.disk, u.reported⟩ := by
    rw [Tried.next, tryOne, performOne, open?, hopen]
    rfl
  rw [hnext]
  exact ⟨⟨ls, hls, hread, hafter⟩, h.accounted.reopen⟩

theorem next (h : Leaves ts u number) (t : Attempt) : Leaves (t :: ts) (u.next t) number := by
  cases t with
  | whole op =>
      cases op with
      | record c now => exact h.record c now
      | rotate => exact h.rotate
      | reopen => exact h.reopen
  | torn c now written partly error => exact h.torn c now written partly error

theorem tryAll {a : AccessJournal} {d : Disk} (h : Leaves [] ⟨a, d, []⟩ number)
    (ts : List Attempt) : Leaves ts (a.tryAll d ts) number := by
  induction ts with
  | nil => exact h
  | cons t ts ih => exact ih.next t

theorem lastConnections (h : Leaves ts u number) : u.journal.lastConnections 0 false u.disk =
    .ok (landed ts ++ (Connection.ofLine? (unfinished ts)).toList) := by
  obtain ⟨ls, hls, hread, hholds⟩ := h.file
  obtain ⟨executable, hfind⟩ := hholds.find_eq
  rw [lastConnections_zero hfind, hholds.content_eq,
    filterMap_lines_append hls (newline_notMem_unfinished ts), hread]

end Leaves

/-- A journal is opened at a file that is empty, and writes to it may fail after any part of their
line. The connections read back are those whose records started a line, and what the unfinished line
at the end is read as. All that were reported as recorded are among the former exactly if no record
was written behind what a failed write had left, and each failure costs at most one of them. -/
theorem lastConnections_tryAll {a : AccessJournal} {d before : Disk} {number : Nat} {path : Path}
    (hopen : open? path before = .ok (a, d)) (hfile : a.journal.handle.target = .file number)
    (hempty : d.contents[number]? = some []) (ts : List Attempt) :
    (a.tryAll d ts).journal.lastConnections 0 false (a.tryAll d ts).disk =
        .ok (landed ts ++ (Connection.ofLine? (unfinished ts)).toList) ∧
      (landed ts).Sublist (a.tryAll d ts).reported ∧
      ((a.tryAll d ts).reported = landed ts ↔ Intact ts) ∧
      (a.tryAll d ts).reported.length ≤ (landed ts).length + ts.countP Attempt.isTorn := by
  have hholds := Journal.holds_of_open? (journal_open? hopen) hfile hempty
  have hstart : Leaves [] ⟨a, d, []⟩ number := ⟨⟨[], by simp, rfl, hholds⟩, accounted_nil⟩
  have hleaves := hstart.tryAll ts
  exact ⟨hleaves.lastConnections, hleaves.accounted.sublist, hleaves.accounted.intact,
    Nat.le_trans (Nat.le_add_right _ _) hleaves.accounted.cost⟩

/-- A write fails after ten bytes, and the last one before the newline; the latest attempt is the
first of the list. -/
def tornTwice : List Attempt := [
  .torn (passing "d") 3 ((passing "d").text 3).length (by decide +kernel) .noSpace,
  .whole (.record (passing "c") 2),
  .torn (passing "b") 1 10 (by decide +kernel) .noSpace,
  .whole (.record (passing "a") 0)]

theorem lastConnections_tryAll_tornTwice :
    ∃ a d, open? (Bytes.ofAscii "access.log") Disk.fresh = .ok (a, d) ∧
      a.journal.handle.target = .file 0 ∧ d.contents[0]? = some [] ∧
      (a.tryAll d tornTwice).journal.lastConnections 0 false (a.tryAll d tornTwice).disk =
        .ok [passing "a", passing "d"] ∧
      (a.tryAll d tornTwice).reported = [passing "a", passing "c"] ∧ ¬ Intact tornTwice := by
  have hopen : open? (Bytes.ofAscii "access.log") Disk.fresh =
      .ok (⟨⟨Bytes.ofAscii "access.log", ⟨.file 0, .append⟩⟩⟩,
        (Disk.fresh.create [Bytes.ofAscii "work", Bytes.ofAscii "access.log"] false).1) := rfl
  obtain ⟨hread, -, hintact, -⟩ := lastConnections_tryAll hopen rfl rfl tornTwice
  have hlanded : landed tornTwice = [passing "a"] := by decide +kernel
  have hlast : Connection.ofLine? (unfinished tornTwice) = some (passing "d") := by decide +kernel
  rw [hlanded, hlast] at hread
  refine ⟨_, _, hopen, rfl, rfl, hread, by decide +kernel, ?_⟩
  intro hwhole
  have hall := hintact.2 hwhole
  rw [hlanded] at hall
  revert hall
  decide +kernel

/-- One byte of a line that failed, and the next record is lost although it was written. -/
theorem record_lost_behind_brace :
    ∃ a d ts, open? (Bytes.ofAscii "access.log") Disk.fresh = .ok (a, d) ∧
      (a.tryAll d ts).reported = [passing "b"] ∧
      (a.tryAll d ts).journal.lastConnections 0 false (a.tryAll d ts).disk = .ok [] := by
  refine ⟨_, _, [.whole (.record (passing "b") 1),
    .torn (passing "a") 0 1 (by decide +kernel) .noSpace], rfl, ?_, ?_⟩
  · decide +kernel
  · decide +kernel

end AccessJournal

end ProxyWarden

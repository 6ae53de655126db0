import ProxyWarden.Proofs.Journal.Records

/-!
# What is recorded is what is read back

An access journal that nobody else touches is recorded to, rotated and opened anew, in any order.
The connections read back are those recorded since the last rotation, in their order, or the last
of them (`AccessJournal.lastConnections_perform`). Each operation leaves a file of records
(`AccessJournal.Keeps.performOne`), and both ways of reading find every record of such a file.
-/
namespace ProxyWarden.AccessJournal

inductive Operation where
  | record (c : Connection) (now : Nat)
  | rotate
  /-- The journal is closed and opened again at its path. -/
  | reopen
deriving DecidableEq, Repr

def performOne (a : AccessJournal) (d : Disk) : Operation → Effect AccessJournal
  | .record c now => a.record c now d
  | .rotate => a.rotate d
  | .reopen =>
    match open? a.journal.path d with
    | .error e => ⟨.error e, a, d⟩
    | .ok (b, d') => ⟨.ok (), b, d'⟩

/-- Performs operations in their order, up to the first that fails. -/
def perform (a : AccessJournal) (d : Disk) :
    List Operation → Except JournalError (AccessJournal × Disk)
  | [] => .ok (a, d)
  | op :: ops =>
    let effect := a.performOne d op
    match effect.result with
    | .error e => .error e
    | .ok () => effect.journal.perform effect.disk ops

/-- The connections recorded since the last rotation, after one more operation. -/
def Operation.recordedAfter (cs : List Connection) : Operation → List Connection
  | record c _ => cs ++ [c]
  | rotate => []
  | reopen => cs

/-- The connections that the operations record after their last rotation, oldest first. -/
def recorded (ops : List Operation) : List Connection := ops.foldl Operation.recordedAfter []

/-! ## What the file holds -/

/-- The journal's file is made of records of the connections, in their order. -/
def Keeps (a : AccessJournal) (d : Disk) (number : Nat) (cs : List Connection) : Prop :=
  a.journal.Keeps Connection.format d number cs

variable {a : AccessJournal} {d : Disk} {number : Nat} {cs : List Connection}

theorem Keeps.record (h : a.Keeps d number cs) (c : Connection) (now : Nat) :
    ∃ b bs, a.record c now d = ⟨.ok (), b, d.setContent number bs⟩ ∧
      b.Keeps (d.setContent number bs) number (cs ++ [c]) := by
  obtain ⟨k, bs, happend, hafter⟩ := Journal.Keeps.append h c now
  have hline : a.journal.append (c.toLine now) d = .ok (k, d.setContent number bs) := by
    rw [Connection.toLine_eq]
    exact happend
  refine ⟨⟨k⟩, bs, ?_, hafter⟩
  rw [AccessJournal.record, hline]

theorem Keeps.rotate (h : a.Keeps d number cs) :
    ∃ b, a.rotate d = ⟨.ok (), b, d.setContent number []⟩ ∧
      b.Keeps (d.setContent number []) number [] := by
  obtain ⟨k, hrotate, hafter⟩ := Journal.Keeps.rotate h
  refine ⟨⟨k⟩, ?_, hafter⟩
  rw [AccessJournal.rotate, hrotate]

/-- One operation succeeds and does to the file what it does to the list of connections. -/
theorem Keeps.performOne (h : a.Keeps d number cs) (op : Operation) :
    ∃ b e, a.performOne d op = ⟨.ok (), b, e⟩ ∧ b.Keeps e number (op.recordedAfter cs) := by
  cases op with
  | record c now =>
      obtain ⟨b, bs, hrecord, hafter⟩ := h.record c now
      exact ⟨b, _, hrecord, hafter⟩
  | rotate =>
      obtain ⟨b, hrotate, hafter⟩ := h.rotate
      exact ⟨b, _, hrotate, hafter⟩
  | reopen =>
      obtain ⟨k, hopen, hafter⟩ := Journal.Keeps.reopen h
      refine ⟨⟨k⟩, d, ?_, hafter⟩
      simp only [AccessJournal.performOne, open?, hopen, Except.map]

theorem Keeps.perform (h : a.Keeps d number cs) (ops : List Operation) :
    ∃ b e, a.perform d ops = .ok (b, e) ∧
      b.Keeps e number (ops.foldl Operation.recordedAfter cs) := by
  induction ops generalizing a d cs with
  | nil => exact ⟨a, d, rfl, h⟩
  | cons op ops ih =>
      obtain ⟨b, e, hone, hkeeps⟩ := h.performOne op
      obtain ⟨b', e', hrest, hkeeps'⟩ := ih hkeeps
      refine ⟨b', e', ?_, hkeeps'⟩
      rw [AccessJournal.perform, hone]
      exact hrest

/-! ## What is read -/

theorem lastLines_fileOf (n : Int) {ls : List Bytes} (h : ∀ l ∈ ls, Journal.IsRecord l) :
    lastLines n (Journal.fileOf ls) false = .ok (if 0 < n then ls.rtake n.toNat else ls) := by
  unfold lastLines
  by_cases hn : 0 < n
  · have htail := Tail.lastLines_eq (Journal.fileOf ls) n.toNat Tail.blockSize
    rw [Journal.counted_fileOf h] at htail
    rw [if_pos hn, if_pos hn]
    exact htail
  · rw [if_neg hn, if_neg hn, scan, Journal.scanLines_fileOf h]
    rfl

theorem Keeps.lastConnections (h : a.Keeps d number cs) (n : Int) :
    a.lastConnections n false d = .ok (if 0 < n then cs.rtake n.toNat else cs) := by
  obtain ⟨rs, rfl, hholds⟩ := h
  obtain ⟨executable, hfind⟩ := hholds.find_eq
  unfold AccessJournal.lastConnections
  rw [hfind]
  dsimp only
  rw [hholds.content_eq, lastLines_fileOf n (Connection.format.isRecord_of_mem_texts rs)]
  dsimp only
  have hread := fun rs => Connection.format.filterMap_read?_texts rs
  split
  · rw [RecordFormat.texts, List.rtake, List.length_map, ← List.map_drop]
    refine congrArg Except.ok ((hread (rs.drop _)).trans ?_)
    rw [List.rtake, List.length_map, List.map_drop]
  · exact congrArg Except.ok (hread rs)

theorem journal_open? {path : Path} {before : Disk} (h : open? path before = .ok (a, d)) :
    Journal.open? path before = .ok (a.journal, d) := by
  unfold open? at h
  cases hopen : Journal.open? path before with
  | error e =>
      rw [hopen] at h
      cases h
  | ok opened =>
      rw [hopen] at h
      cases h
      rfl

/-- A journal is opened at a file that is empty. Whatever is then done with it, nothing fails, and
the connections read back are those recorded since the last rotation: all of them, or the last
`n`. -/
theorem lastConnections_perform {path : Path} {before : Disk}
    (hopen : open? path before = .ok (a, d)) (hfile : a.journal.handle.target = .file number)
    (hempty : d.contents[number]? = some []) (ops : List Operation) :
    ∃ b e, a.perform d ops = .ok (b, e) ∧ ∀ n : Int, b.lastConnections n false e =
      .ok (if 0 < n then (recorded ops).rtake n.toNat else recorded ops) := by
  have hstart : a.Keeps d number [] := (Journal.holds_of_open? (journal_open? hopen) hfile hempty).keeps_nil
  obtain ⟨b, e, hperform, hkeeps⟩ := hstart.perform ops
  exact ⟨b, e, hperform, hkeeps.lastConnections⟩

/-- A connection whose fields would break a line, or end a string, if they were not escaped. -/
def unruly (user : String) : Connection := {
  client := "a\"b\nc"
  server := "\x00\\"
  proto := .udp
  inbound := ""
  outbound := "\x7b é \x7d"
  user := user }

/-- Records before and after a rotation, the last one through a fresh handle. -/
def rotatedAndReopened : List Operation :=
  [.record (unruly "first") 0, .rotate, .record (unruly "second") 5, .reopen,
    .record (unruly "third") 7]

theorem lastConnections_perform_rotatedAndReopened :
    ∃ a d b e, open? (Bytes.ofAscii "access.log") Disk.fresh = .ok (a, d) ∧
      a.journal.handle.target = .file 0 ∧ d.contents[0]? = some [] ∧
      a.perform d rotatedAndReopened = .ok (b, e) ∧
      b.lastConnections 0 false e = .ok [unruly "second", unruly "third"] ∧
      b.lastConnections 1 false e = .ok [unruly "third"] := by
  have hopen : open? (Bytes.ofAscii "access.log") Disk.fresh =
      .ok (⟨⟨Bytes.ofAscii "access.log", ⟨.file 0, .append⟩⟩⟩,
        (Disk.fresh.create [Bytes.ofAscii "work", Bytes.ofAscii "access.log"] false).1) := rfl
  obtain ⟨b, e, hperform, hread⟩ := lastConnections_perform hopen rfl rfl rotatedAndReopened
  exact ⟨_, _, b, e, hopen, rfl, rfl, hperform, hread 0, hread 1⟩

end ProxyWarden.AccessJournal

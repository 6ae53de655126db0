import ProxyWarden.Journal.Record
import ProxyWarden.Proofs.Journal.Holding

/-!
# Where a record lands

Other programs may add to a journal's file or cut it down while the journal is open. Until its first
rotation a journal still writes at the end of the file. After a rotation it writes where its own last
write ended (`Journal.position`), so a record follows what was there exactly if the file has that
length (`Journal.Reached.read_append_iff`); otherwise it covers bytes of others or leaves a gap.
-/
namespace ProxyWarden

theorem Disk.overlay_eq_append_iff {data : Bytes} (hdata : data ≠ []) (old : Bytes) (n : Nat) :
    overlay old n data = old ++ data ↔ n = old.length := by
  constructor
  · intro h
    have hpositive : 0 < data.length := List.length_pos_iff.2 hdata
    have hlength := congrArg List.length h
    simp only [overlay, List.length_append, List.length_take, List.length_replicate,
      List.length_drop] at hlength
    omega
  · rintro rfl
    exact overlay_length old data

/-- Another program gives a file a length: it cuts it down, or fills it up with zero bytes. -/
def Disk.resizeFile (d : Disk) (p : Path) (length : Nat) : Except OsError Disk :=
  match d.find p with
  | .error e => .error e
  | .ok .directory => .error .isDirectory
  | .ok .fullDevice => .ok d
  | .ok (.file number _) =>
    let old := d.content number
    .ok (d.setContent number (old.take length ++ List.replicate (length - old.length) 0))

namespace Journal

inductive Act where
  /-- The journal is closed and opened again. -/
  | reopen
  | rotate
  | append (line : Bytes)
  /-- A write fails after so many bytes of a line. -/
  | tear (line : Bytes) (written : Nat)
  | othersAppend (bs : Bytes)
  | othersResize (length : Nat)
deriving DecidableEq, Repr

/-- The journal and the disk after an act that succeeds. -/
def undergo (j : Journal) (d : Disk) : Act → Option (Journal × Disk)
  | .reopen => (open? j.path d).toOption
  | .rotate => (j.rotate d).toOption
  | .append line => (j.append line d).toOption
  | .tear line written => some (j.appendTorn line written d)
  | .othersAppend bs => (d.appendFile j.path bs).toOption.map fun e => (j, e)
  | .othersResize length => (d.resizeFile j.path length).toOption.map fun e => (j, e)

/-- What a journal comes to that is opened at a file, and the acts on the way, the last one first. -/
inductive Reached (path : Path) (number : Nat) : List Act → Journal → Disk → Prop where
  | opened {before d : Disk} {j : Journal} {text : Bytes} : open? path before = .ok (j, d) →
      j.handle.target = .file number → d.contents[number]? = some text → Reached path number [] j d
  | after {acts : List Act} {act : Act} {j k : Journal} {d e : Disk} :
      Reached path number acts j d → j.undergo d act = some (k, e) →
      Reached path number (act :: acts) k e

/-- The journal's own place in the file: none as long as it writes at the end wherever that is, and
after a rotation the number of bytes that it has written since. -/
def position : List Act → Option Nat
  | [] => none
  | .reopen :: _ => none
  | .rotate :: _ => some 0
  | .append line :: acts => (position acts).map fun n => n + line.length
  | .tear line written :: acts => (position acts).map fun n => n + (line.take written).length
  | .othersAppend _ :: acts => position acts
  | .othersResize _ :: acts => position acts

def modeAt : Option Nat → WriteMode
  | none => .append
  | some n => .offset n

/-- What the file holds after a record was written at such a place. -/
def contentAt (own : Option Nat) (old record : Bytes) : Bytes :=
  own.elim (old ++ record) fun n => Disk.overlay old n record

theorem written_modeAt (own : Option Nat) (old record : Bytes) :
    Disk.written old (modeAt own) record =
      (contentAt own old record, modeAt (own.map fun n => n + record.length)) := by
  cases own with
  | none => rfl
  | some n => rfl

theorem contentAt_eq_append_iff {record : Bytes} (hrecord : record ≠ []) (own : Option Nat)
    (old : Bytes) :
    contentAt own old record = old ++ record ↔ ∀ n, own = some n → n = old.length := by
  cases own with
  | none => simp [contentAt]
  | some n =>
      have hplace := Disk.overlay_eq_append_iff hrecord old n
      simpa [contentAt] using hplace

variable {path : Path} {number : Nat} {acts : List Act} {act : Act} {j k : Journal} {d e : Disk}
variable {text : Bytes}

/-- The journal is on its file, and its handle has the place that the acts give it. -/
structure Stands (path : Path) (number : Nat) (own : Option Nat) (j : Journal) (d : Disk)
    (text : Bytes) : Prop extends OnFile j d number text where
  path_eq : j.path = path
  mode_eq : j.handle.mode = modeAt own

theorem Stands.write {own : Option Nat} (h : Stands path number own j d text) (data : Bytes) :
    ∃ h' e, d.write j.handle data = .ok (e, h') ∧
      Stands path number (own.map fun n => n + data.length) ⟨j.path, h'⟩ e
        (contentAt own text data) := by
  have hwrite := h.write_eq data
  rw [h.mode_eq, written_modeAt] at hwrite
  exact ⟨_, _, hwrite, h.setContent _ _, h.path_eq, rfl⟩

/-- Whatever happens, the journal stays on its file. -/
theorem Stands.undergo (h : Stands path number (position acts) j d text)
    (hact : j.undergo d act = some (k, e)) :
    ∃ text', Stands path number (position (act :: acts)) k e text' := by
  cases act with
  | reopen =>
      rw [Journal.undergo, h.open?_eq] at hact
      cases hact
      exact ⟨text, ⟨h.place, rfl, h.content⟩, h.path_eq, rfl⟩
  | rotate =>
      rw [Journal.undergo, h.rotate_eq] at hact
      cases hact
      exact ⟨[], h.setContent [] (.offset 0), h.path_eq, rfl⟩
  | append line =>
      obtain ⟨h', e', hwrite, hstands⟩ := h.write line
      rw [Journal.undergo, append, hwrite] at hact
      cases hact
      exact ⟨_, hstands⟩
  | tear line written =>
      obtain ⟨h', e', hwrite, hstands⟩ := h.write (line.take written)
      rw [Journal.undergo, appendTorn, hwrite] at hact
      cases hact
      exact ⟨_, hstands⟩
  | othersAppend bs =>
      have hwrite : d.appendFile j.path bs = .ok (d.setContent number (text ++ bs)) := by
        unfold Disk.appendFile Disk.openAppend
        rw [h.openTarget_eq]
        dsimp only
        rw [Disk.write]
        dsimp only
        rw [h.content_eq]
        rfl
      rw [Journal.undergo, hwrite] at hact
      cases hact
      have hfile := h.setContent (text ++ bs) j.handle.mode
      exact ⟨text ++ bs, ⟨hfile.place, h.target, hfile.content⟩, h.path_eq, h.mode_eq⟩
  | othersResize length =>
      obtain ⟨executable, hfind⟩ := h.find_eq
      rw [Journal.undergo, Disk.resizeFile, hfind] at hact
      cases hact
      have hfile := fun bs => h.setContent bs j.handle.mode
      exact ⟨_, ⟨(hfile _).place, h.target, (hfile _).content⟩, h.path_eq, h.mode_eq⟩

theorem Reached.stands (h : Reached path number acts j d) :
    ∃ text, Stands path number (position acts) j d text := by
  induction h with
  | @opened before d j text hopen htarget hcontent =>
      have hholds := holds_of_open? hopen htarget hcontent
      obtain ⟨hpath, hmode, -⟩ := openTarget_of_open? hopen
      exact ⟨text, hholds.toOnFile, hpath, hmode⟩
  | after _ hact ih =>
      obtain ⟨text, hstands⟩ := ih
      exact hstands.undergo hact

theorem line_ne_nil (now : Nat) (msg : String) (fields : List (String × Json.Value)) :
    line now msg fields ≠ [] := by
  simp [line]

theorem Reached.read_append (h : Reached path number acts j d) (data : Bytes) :
    ∃ old k e, d.read path = .ok old ∧ j.append data d = .ok (k, e) ∧
      e.read path = .ok (contentAt (position acts) old data) := by
  obtain ⟨old, hstands⟩ := h.stands
  obtain ⟨h', e, hwrite, hafter⟩ := hstands.write data
  have hold := hstands.read_eq
  have hnew := hafter.read_eq
  rw [hstands.path_eq] at hold hnew
  refine ⟨old, ⟨j.path, h'⟩, e, hold, ?_, hnew⟩
  rw [append, hwrite]

/-- A record is always written, and lands where the acts before put it. It follows exactly what the
file held just before if the journal was not rotated since it was opened, or if the file is as long
as what the journal wrote since the last rotation; in all other cases it doesn't. -/
theorem Reached.read_append_iff (h : Reached path number acts j d) (now : Nat) (msg : String)
    (fields : List (String × Json.Value)) :
    ∃ old k e, d.read path = .ok old ∧ j.append (line now msg fields) d = .ok (k, e) ∧
      e.read path = .ok (contentAt (position acts) old (line now msg fields)) ∧
      (e.read path = .ok (old ++ line now msg fields) ↔
        ∀ n, position acts = some n → n = old.length) := by
  obtain ⟨old, k, e, hold, happend, hnew⟩ := h.read_append (line now msg fields)
  refine ⟨old, k, e, hold, happend, hnew, ?_⟩
  rw [hnew, ← contentAt_eq_append_iff (line_ne_nil now msg fields)]
  constructor
  · exact Except.ok.inj
  · exact congrArg Except.ok

/-! ## Journals that are not alone -/

def logPath : Path := Bytes.ofAscii "access.log"

/-- A journal opened on an empty disk. -/
theorem open?_logPath : open? logPath Disk.fresh = .ok (⟨logPath, ⟨.file 0, .append⟩⟩,
    (Disk.fresh.create [Bytes.ofAscii "work", logPath] false).1) := rfl

/-- After a rotation and a write of three bytes others cut the file down to one and add two. -/
def cutAndRefilled : List Act := [.othersAppend (Bytes.ofAscii "yz"), .othersResize 1,
  .append (Bytes.ofAscii "abc"), .rotate]

theorem read_append_iff_cutAndRefilled :
    ∃ j d k e, Reached logPath 0 cutAndRefilled j d ∧ d.read logPath = .ok (Bytes.ofAscii "ayz") ∧
      j.append (line 0 "" []) d = .ok (k, e) ∧
      e.read logPath = .ok (Bytes.ofAscii "ayz" ++ line 0 "" []) := by
  have hopened : Reached logPath 0 [] _ _ := .opened open?_logPath rfl rfl
  have hrotated : Reached logPath 0 [.rotate] _ _ := .after hopened rfl
  have hwritten : Reached logPath 0 [.append (Bytes.ofAscii "abc"), .rotate] _ _ :=
    .after hrotated rfl
  have hcut : Reached logPath 0 [.othersResize 1, .append (Bytes.ofAscii "abc"), .rotate] _ _ :=
    .after hwritten rfl
  have hreached : Reached logPath 0 cutAndRefilled _ _ := .after hcut rfl
  obtain ⟨old, k, e, hold, happend, -, hiff⟩ := hreached.read_append_iff 0 "" []
  have hread : Except.ok old = Except.ok (Bytes.ofAscii "ayz") := hold.symm.trans rfl
  cases hread
  refine ⟨_, _, k, e, hreached, rfl, happend, hiff.2 ?_⟩
  intro n hn
  exact (Option.some.inj hn).symm

/-- What others add to the file after a rotation. -/
def addedByOthers : List Act := [.othersAppend (Bytes.ofAscii "outside\n"), .rotate]

def aConnection : Connection := {
  client := "10.0.0.1:1"
  server := "tcp:example.com:443"
  proto := .tcp
  inbound := "in"
  outbound := "out"
  user := AccessLine.unknownUser }

/-- The next record covers what others added after a rotation. -/
theorem record_covers_addedByOthers :
    ∃ j d old k e, Reached logPath 0 addedByOthers j d ∧ d.read logPath = .ok old ∧
      j.append (aConnection.toLine 0) d = .ok (k, e) ∧
      e.read logPath ≠ .ok (old ++ aConnection.toLine 0) := by
  have hopened : Reached logPath 0 [] _ _ := .opened open?_logPath rfl rfl
  have hrotated : Reached logPath 0 [.rotate] _ _ := .after hopened rfl
  have hreached : Reached logPath 0 addedByOthers _ _ := .after hrotated rfl
  obtain ⟨old, k, e, hold, happend, hnew⟩ := hreached.read_append (aConnection.toLine 0)
  have hread : Except.ok old = Except.ok (Bytes.ofAscii "outside\n") := hold.symm.trans rfl
  cases hread
  refine ⟨_, _, _, k, e, hreached, rfl, happend, ?_⟩
  rw [hnew]
  intro hfollows
  have hrecord : aConnection.toLine 0 ≠ [] := line_ne_nil 0 Connection.message aConnection.fields
  have hplace := (contentAt_eq_append_iff hrecord _ _).1 (Except.ok.inj hfollows)
  exact absurd (hplace 0 rfl) (by decide)

end Journal

end ProxyWarden

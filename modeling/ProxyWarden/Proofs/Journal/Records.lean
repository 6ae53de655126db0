import ProxyWarden.Journal.Access
import ProxyWarden.Proofs.Journal.Backwards
import ProxyWarden.Proofs.Journal.Decoding
import ProxyWarden.Proofs.Journal.Holding
import ProxyWarden.Proofs.Json.Fields

/-!
# Records as they are written

A record is one line: it holds no newline but the one at its end, no white space stands around it,
and it is one JSON value (`Journal.IsRecord`). A format says how values are written as records and
read back (`RecordFormat`); connections and core log lines have one each. A journal that only takes
records of its format and is rotated keeps a file of them (`Journal.Keeps`).
-/
namespace ProxyWarden

open Json

namespace Journal

/-- The line of a record without its end, if its fields are texts. -/
def recordText (now : Nat) (msg : String) (fields : List (String × String)) : Bytes :=
  Utf8.encodeList (Value.object ((("time", Stamp.text now) :: ("level", "INFO") :: ("msg", msg)
    :: fields).map textField)).write

def IsRecord (l : Bytes) : Prop := ∃ now msg fields, l = recordText now msg fields

theorem isRecord_recordText (now : Nat) (msg : String) (fields : List (String × String)) :
    IsRecord (recordText now msg fields) := ⟨now, msg, fields, rfl⟩

namespace IsRecord

variable {l : Bytes}

theorem exists_eq (h : IsRecord l) : ∃ r, l = '\x7b'.toUInt8 :: (r ++ ['\x7d'.toUInt8]) := by
  obtain ⟨now, msg, fields, rfl⟩ := h
  exact exists_textObject_eq _ _

theorem ne_nil (h : IsRecord l) : l ≠ [] := by
  obtain ⟨r, rfl⟩ := h.exists_eq
  exact List.cons_ne_nil _ _

theorem newline_notMem (h : IsRecord l) : Bytes.newline ∉ l := by
  obtain ⟨now, msg, fields, rfl⟩ := h
  intro hmem
  have hle : 0x20 ≤ Bytes.newline.toNat := le_of_mem_textObject _ hmem
  revert hle
  decide

theorem trim_eq (h : IsRecord l) : Bytes.trim l = l := by
  obtain ⟨r, rfl⟩ := h.exists_eq
  have hopen : Bytes.isBlank '\x7b'.toUInt8 = false := by decide
  have hclose : Bytes.isBlank '\x7d'.toUInt8 = false := by decide
  simp [Bytes.trim, Bytes.trimStart, Bytes.trimEnd, hopen, hclose]

theorem isValue_eq (h : IsRecord l) : isValue l = true := by
  obtain ⟨now, msg, fields, rfl⟩ := h
  exact isValue_textObject _ _

end IsRecord

/-! ## Lines of records -/

def fileOf (ls : List Bytes) : Bytes := ls.flatMap fun l => l ++ [Bytes.newline]

theorem fileOf_append_line (ls : List Bytes) (l : Bytes) :
    fileOf ls ++ (l ++ [Bytes.newline]) = fileOf (ls ++ [l]) := by
  simp [fileOf]

section
variable {ls : List Bytes}

theorem pieces_fileOf (h : ∀ l ∈ ls, IsRecord l) : Bytes.pieces (fileOf ls) = ls ++ [[]] :=
  Bytes.pieces_lines fun l hl => (h l hl).newline_notMem

theorem lines_fileOf (h : ∀ l ∈ ls, IsRecord l) : Bytes.lines (fileOf ls) = ls :=
  Bytes.lines_of_pieces (pieces_fileOf h)

/-- Every record counts as a line when the file is read backwards. -/
theorem counted_fileOf (h : ∀ l ∈ ls, IsRecord l) :
    Tail.counted (Bytes.pieces (fileOf ls)) = ls := by
  have hblank : Tail.counted [[]] = [] := rfl
  have htrim : ls.map Bytes.trim = ls :=
    (List.map_congr_left fun l hl => (h l hl).trim_eq).trans (List.map_id ls)
  rw [pieces_fileOf h, Tail.counted_append, hblank, List.append_nil, Tail.counted, htrim,
    List.filter_eq_self]
  intro l hl
  simp [(h l hl).ne_nil, (h l hl).isValue_eq]

/-- Every record is found when the file is scanned. -/
theorem scanLines_fileOf (h : ∀ l ∈ ls, IsRecord l) :
    AccessJournal.scanLines (fileOf ls) = ls := by
  rw [AccessJournal.scanLines, lines_fileOf h, List.filter_eq_self]
  intro l hl
  simp [(h l hl).trim_eq, (h l hl).ne_nil]

end

end Journal

/-! ## Formats -/

/-- How values are written as records, and how they are read back. -/
structure RecordFormat (α : Type) where
  /-- The line of a value recorded at a moment, without its end. -/
  text : α → Nat → Bytes
  read? : Bytes → Option α
  isRecord : ∀ x now, Journal.IsRecord (text x now)
  read?_text : ∀ x now, read? (text x now) = some x

namespace RecordFormat

variable {α : Type} (F : RecordFormat α)

/-- The lines of values recorded at moments. -/
def texts (rs : List (α × Nat)) : List Bytes := rs.map fun r => F.text r.1 r.2

theorem isRecord_of_mem_texts (rs : List (α × Nat)) : ∀ l ∈ F.texts rs, Journal.IsRecord l := by
  intro l hl
  obtain ⟨r, -, rfl⟩ := List.mem_map.1 hl
  exact F.isRecord r.1 r.2

theorem map_read?_texts (rs : List (α × Nat)) :
    (F.texts rs).map F.read? = (rs.map Prod.fst).map some := by
  simp only [texts, List.map_map, Function.comp_def, F.read?_text]

theorem filterMap_read?_texts (rs : List (α × Nat)) :
    (F.texts rs).filterMap F.read? = rs.map Prod.fst := by
  simp only [texts, List.filterMap_map, Function.comp_def, F.read?_text, List.filterMap_eq_map']

end RecordFormat

/-- A reader that knows none of the fields that every record has goes on with the others. -/
theorem takesAll_recordFields {σ : Type} {field : σ → String → (bs : Bytes) → Read σ bs} {s s' : σ}
    (hpass : ∀ key ∈ ["time", "level", "msg"], ∀ bs, field s key bs = passOver s bs)
    {fields : List (String × String)} (h : TakesAll field s fields s') (now : Nat) (msg : String) :
    TakesAll field s
      (("time", Stamp.text now) :: ("level", "INFO") :: ("msg", msg) :: fields) s' := by
  apply TakesAll.cons (takes_of_passOver (hpass "time" (by decide)) _)
  apply TakesAll.cons (takes_of_passOver (hpass "level" (by decide)) _)
  apply TakesAll.cons (takes_of_passOver (hpass "msg" (by decide)) _)
  exact h

namespace Connection

def texts (c : Connection) : List (String × String) := [
  ("client", c.client), ("server", c.server), ("proto", c.proto.name), ("inbound", c.inbound),
  ("outbound", c.outbound), ("user", c.user)]

def text (c : Connection) (now : Nat) : Bytes := Journal.recordText now message c.texts

theorem toLine_eq (c : Connection) (now : Nat) : c.toLine now = c.text now ++ [Bytes.newline] := rfl

theorem readProtocol_quotedThen (p : Protocol) (rest : Bytes) :
    ∃ h, readProtocol (quotedThen p.name rest) = .ok ⟨p, rest, h⟩ :=
  readProtocol_eq_ok_iff.2 ⟨p.name, Protocol.ofName?_name p, .inr (readText_quotedThen p.name rest)⟩

theorem readField_of_notMem (p : Partial) {key : String} (hkey : key ∉ listOrder) (bs : Bytes) :
    readField p key bs = passOver p bs := by
  have hne : key ≠ "client" ∧ key ≠ "server" ∧ key ≠ "proto" ∧ key ≠ "inbound" ∧
      key ≠ "outbound" ∧ key ≠ "user" := by
    simpa [listOrder] using hkey
  simp only [readField, hne, if_false]

theorem takesAll_text (c : Connection) (now : Nat) :
    TakesAll readField .empty (("time", Stamp.text now) :: ("level", "INFO") :: ("msg", message)
      :: c.texts) ⟨some c.client, some c.server, some c.proto, some c.inbound, some c.outbound,
        some c.user⟩ := by
  apply takesAll_recordFields (fun key hkey => readField_of_notMem _ (by revert key; decide))
  refine .cons (takes_of_readOnce (fun _ => by
    simp only [readField, String.reduceEq, reduceIte]; rfl) (readText_quotedThen c.client)) ?_
  refine .cons (takes_of_readOnce (fun _ => by
    simp only [readField, String.reduceEq, reduceIte]; rfl) (readText_quotedThen c.server)) ?_
  refine .cons (takes_of_readOnce (fun _ => by
    simp only [readField, String.reduceEq, reduceIte]; rfl) (readProtocol_quotedThen c.proto)) ?_
  refine .cons (takes_of_readOnce (fun _ => by
    simp only [readField, String.reduceEq, reduceIte]; rfl) (readText_quotedThen c.inbound)) ?_
  refine .cons (takes_of_readOnce (fun _ => by
    simp only [readField, String.reduceEq, reduceIte]; rfl) (readText_quotedThen c.outbound)) ?_
  refine .cons (takes_of_readOnce (fun _ => by
    simp only [readField, String.reduceEq, reduceIte]; rfl) (readText_quotedThen c.user)) ?_
  exact .nil _

/-- A record is read back as the connection that it records. -/
theorem ofLine?_text (c : Connection) (now : Nat) : ofLine? (c.text now) = some c :=
  readRecord?_textObject (c.takesAll_text now) listOrder Partial.complete?

def format : RecordFormat Connection where
  text := text
  read? := ofLine?
  isRecord c now := Journal.isRecord_recordText now message c.texts
  read?_text := ofLine?_text

end Connection

namespace CoreEntry

def texts (e : CoreEntry) : List (String × String) := [("core_level", e.level), ("data", e.payload)]

def text (e : CoreEntry) (now : Nat) : Bytes := Journal.recordText now message e.texts

theorem toLine_eq (e : CoreEntry) (now : Nat) : e.toLine now = e.text now ++ [Bytes.newline] := rfl

theorem readField_of_notMem (p : Partial) {key : String} (hkey : key ∉ listOrder) (bs : Bytes) :
    readField p key bs = passOver p bs := by
  have hne : key ≠ "core_level" ∧ key ≠ "data" := by
    simpa [listOrder] using hkey
  simp only [readField, hne, if_false]

theorem takesAll_text (e : CoreEntry) (now : Nat) :
    TakesAll readField .empty (("time", Stamp.text now) :: ("level", "INFO") :: ("msg", message)
      :: e.texts) ⟨some e.level, some e.payload⟩ := by
  apply takesAll_recordFields (fun key hkey => readField_of_notMem _ (by revert key; decide))
  refine .cons (takes_of_readOnce (fun _ => by
    simp only [readField, String.reduceEq, reduceIte]; rfl) (readText_quotedThen e.level)) ?_
  refine .cons (takes_of_readOnce (fun _ => by
    simp only [readField, String.reduceEq, reduceIte]; rfl) (readText_quotedThen e.payload)) ?_
  exact .nil _

/-- A record is read back as the log line that it records. -/
theorem ofLine?_text (e : CoreEntry) (now : Nat) : ofLine? (e.text now) = some e :=
  readRecord?_textObject (e.takesAll_text now) listOrder Partial.complete?

def format : RecordFormat CoreEntry where
  text := text
  read? := ofLine?
  isRecord e now := Journal.isRecord_recordText now message e.texts
  read?_text := ofLine?_text

end CoreEntry

/-! ## Journals of one format -/

namespace Journal

variable {α : Type} {F : RecordFormat α} {j : Journal} {d : Disk} {number : Nat} {xs : List α}

/-- The journal's file is made of records of the values, in their order. -/
def Keeps (F : RecordFormat α) (j : Journal) (d : Disk) (number : Nat) (xs : List α) : Prop :=
  ∃ rs : List (α × Nat), rs.map Prod.fst = xs ∧ j.Holds d number (fileOf (F.texts rs))

theorem Holds.keeps_nil (h : j.Holds d number []) : Keeps F j d number [] := ⟨[], rfl, h⟩

namespace Keeps

theorem append (h : Keeps F j d number xs) (x : α) (now : Nat) :
    ∃ k bs, j.append (F.text x now ++ [Bytes.newline]) d = .ok (k, d.setContent number bs) ∧
      Keeps F k (d.setContent number bs) number (xs ++ [x]) := by
  obtain ⟨rs, rfl, hholds⟩ := h
  obtain ⟨k, happend, hafter⟩ := hholds.append (F.text x now ++ [Bytes.newline])
  have hfile : fileOf (F.texts rs) ++ (F.text x now ++ [Bytes.newline]) =
      fileOf (F.texts (rs ++ [(x, now)])) := by
    rw [fileOf_append_line, RecordFormat.texts, RecordFormat.texts, List.map_append]
    rfl
  rw [hfile] at happend hafter
  exact ⟨k, _, happend, rs ++ [(x, now)], List.map_append, hafter⟩

theorem rotate (h : Keeps F j d number xs) :
    ∃ k, j.rotate d = .ok (k, d.setContent number []) ∧
      Keeps F k (d.setContent number []) number [] := by
  obtain ⟨rs, -, hholds⟩ := h
  obtain ⟨k, hrotate, hafter⟩ := hholds.rotate
  exact ⟨k, hrotate, hafter.keeps_nil⟩

theorem reopen (h : Keeps F j d number xs) :
    ∃ k, Journal.open? j.path d = .ok (k, d) ∧ Keeps F k d number xs := by
  obtain ⟨rs, hrs, hholds⟩ := h
  obtain ⟨k, hopen, hafter⟩ := hholds.reopen
  exact ⟨k, hopen, rs, hrs, hafter⟩

/-- A write to another file does not touch this one. -/
theorem setContent_of_ne (h : Keeps F j d number xs) {other : Nat} (hne : other ≠ number)
    (bs : Bytes) : Keeps F j (d.setContent other bs) number xs := by
  obtain ⟨rs, hrs, hholds⟩ := h
  exact ⟨rs, hrs, hholds.setContent_of_ne hne bs⟩

/-- Every line of the file is read as the value that it records. -/
theorem read_eq (h : Keeps F j d number xs) :
    ∃ text, d.read j.path = .ok text ∧ text.lines.map F.read? = xs.map some := by
  obtain ⟨rs, rfl, hholds⟩ := h
  refine ⟨_, hholds.read_eq, ?_⟩
  rw [lines_fileOf (F.isRecord_of_mem_texts rs), F.map_read?_texts]

end Keeps

end Journal

end ProxyWarden

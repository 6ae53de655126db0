import ProxyWarden.Journal.File
import ProxyWarden.Proofs.Disk.Places

/-!
# A journal and its file

A journal's path and handle lead to one file (`Journal.OnFile`), and opening, rotating and writing
cannot fail then; what they do to the file depends on the mode of the handle. A journal that nobody
else touches writes at the end of its file (`Journal.Holds`). A fresh handle does so because it
appends, the handle of a rotation because its offset is the length of the file at any time.
-/
namespace ProxyWarden

theorem Disk.overlay_length (old data : Bytes) : overlay old old.length data = old ++ data := by
  simp [overlay]

namespace Journal

/-- Path and handle lead to one file, which holds `text`. -/
structure OnFile (j : Journal) (d : Disk) (number : Nat) (text : Bytes) : Prop where
  place : ∃ loc executable, d.locate j.path = .ok ⟨loc, some (.file number executable), false⟩
  target : j.handle.target = .file number
  content : d.contents[number]? = some text

/-- Path and handle lead to one file, which holds `text`; the next write goes to its end. -/
structure Holds (j : Journal) (d : Disk) (number : Nat) (text : Bytes) : Prop
    extends OnFile j d number text where
  atEnd : j.handle.mode = .append ∨ j.handle.mode = .offset text.length

variable {j : Journal} {d : Disk} {number : Nat} {text : Bytes}

theorem openTarget_of_open? {before : Disk} {path : Path} (h : open? path before = .ok (j, d)) :
    j.path = path ∧ j.handle.mode = .append ∧
      before.openTarget path = .ok (d, j.handle.target) := by
  unfold open? Disk.openAppend at h
  cases hopen : before.openTarget path with
  | error e =>
      rw [hopen] at h
      cases h
  | ok opened =>
      obtain ⟨after, target⟩ := opened
      rw [hopen] at h
      cases h
      exact ⟨rfl, rfl, rfl⟩

theorem path_of_append {k : Journal} {after : Disk} {line : Bytes}
    (h : j.append line d = .ok (k, after)) : k.path = j.path := by
  unfold append at h
  split at h
  · cases h
  · cases h
    rfl

theorem path_of_rotate {k : Journal} {after : Disk} (h : j.rotate d = .ok (k, after)) :
    k.path = j.path := by
  unfold rotate at h
  split at h
  · cases h
  · cases h
    rfl

theorem holds_of_open? {before : Disk} {path : Path} (h : open? path before = .ok (j, d))
    (ht : j.handle.target = .file number) (hc : d.contents[number]? = some text) :
    j.Holds d number text := by
  obtain ⟨rfl, hmode, hopen⟩ := openTarget_of_open? h
  rw [ht] at hopen
  exact {
    place := Disk.locate_of_openTarget hopen
    target := ht
    content := hc
    atEnd := .inl hmode }

/-- Another journal may be opened in between. -/
theorem holds_of_open?_open? {before after : Disk} {path other : Path} {k : Journal}
    (hj : open? path before = .ok (j, d)) (hk : open? other d = .ok (k, after))
    (ht : j.handle.target = .file number) (hc : after.contents[number]? = some text) :
    j.Holds after number text := by
  obtain ⟨rfl, hmode, hopen⟩ := openTarget_of_open? hj
  obtain ⟨-, -, hother⟩ := openTarget_of_open? hk
  rw [ht] at hopen
  obtain ⟨loc, executable, hplace⟩ := Disk.locate_of_openTarget hopen
  exact {
    place := ⟨loc, executable, Disk.locate_openTarget hother hplace⟩
    target := ht
    content := hc
    atEnd := .inl hmode }

namespace OnFile

theorem content_eq (h : j.OnFile d number text) : d.content number = text := by
  rw [Disk.content, h.content]
  rfl

theorem find_eq (h : j.OnFile d number text) :
    ∃ executable, d.find j.path = .ok (.file number executable) := by
  obtain ⟨loc, executable, hplace⟩ := h.place
  refine ⟨executable, ?_⟩
  unfold Disk.find Disk.resolve
  rw [hplace]
  rfl

theorem read_eq (h : j.OnFile d number text) : d.read j.path = .ok text := by
  obtain ⟨executable, hfind⟩ := h.find_eq
  rw [Disk.read, hfind]
  exact congrArg Except.ok h.content_eq

theorem openTarget_eq (h : j.OnFile d number text) :
    d.openTarget j.path = .ok (d, .file number) := by
  obtain ⟨loc, executable, hplace⟩ := h.place
  unfold Disk.openTarget
  rw [hplace]
  rfl

/-- After a write of another text the journal is still on its file, whatever its mode is. -/
theorem setContent (h : j.OnFile d number text) (bs : Bytes) (mode : WriteMode) :
    (⟨j.path, ⟨.file number, mode⟩⟩ : Journal).OnFile (d.setContent number bs) number bs where
  place := by
    rw [Disk.locate_setContent]
    exact h.place
  target := rfl
  content := by
    obtain ⟨hlt, -⟩ := List.getElem?_eq_some_iff.1 h.content
    exact List.getElem?_set_self hlt

/-- A write to another file does not touch this one. -/
theorem setContent_of_ne (h : j.OnFile d number text) {other : Nat} (hne : other ≠ number)
    (bs : Bytes) : j.OnFile (d.setContent other bs) number text where
  place := by
    rw [Disk.locate_setContent]
    exact h.place
  target := h.target
  content := (List.getElem?_set_ne hne).trans h.content

theorem open?_eq (h : j.OnFile d number text) :
    open? j.path d = .ok (⟨j.path, ⟨.file number, .append⟩⟩, d) := by
  unfold open? Disk.openAppend
  rw [h.openTarget_eq]

theorem rotate_eq (h : j.OnFile d number text) :
    j.rotate d = .ok (⟨j.path, ⟨.file number, .offset 0⟩⟩, d.setContent number []) := by
  unfold rotate Disk.openTruncate
  rw [h.openTarget_eq]

theorem write_eq (h : j.OnFile d number text) (data : Bytes) :
    d.write j.handle data =
      .ok (d.setContent number (Disk.written text j.handle.mode data).1,
        ⟨.file number, (Disk.written text j.handle.mode data).2⟩) := by
  unfold Disk.write
  rw [h.target]
  dsimp only
  rw [h.content_eq]

theorem append_eq (h : j.OnFile d number text) (line : Bytes) :
    j.append line d =
      .ok (⟨j.path, ⟨.file number, (Disk.written text j.handle.mode line).2⟩⟩,
        d.setContent number (Disk.written text j.handle.mode line).1) := by
  rw [append, h.write_eq]

end OnFile

namespace Holds

theorem written_eq (h : j.Holds d number text) (line : Bytes) :
    (Disk.written text j.handle.mode line).1 = text ++ line ∧
      ((Disk.written text j.handle.mode line).2 = .append ∨
        (Disk.written text j.handle.mode line).2 = .offset (text ++ line).length) := by
  rcases h.atEnd with hmode | hmode
  · rw [hmode]
    exact ⟨rfl, .inl rfl⟩
  · rw [hmode, Disk.written, Disk.overlay_length, List.length_append]
    exact ⟨rfl, .inr rfl⟩

theorem reopen (h : j.Holds d number text) :
    ∃ k, Journal.open? j.path d = .ok (k, d) ∧ k.Holds d number text := by
  refine ⟨_, h.open?_eq, ?_⟩
  exact { place := h.place, target := rfl, content := h.content, atEnd := .inl rfl }

theorem rotate (h : j.Holds d number text) :
    ∃ k, j.rotate d = .ok (k, d.setContent number []) ∧
      k.Holds (d.setContent number []) number [] :=
  ⟨_, h.rotate_eq, h.setContent [] (.offset 0), .inr rfl⟩

theorem append (h : j.Holds d number text) (line : Bytes) :
    ∃ k, j.append line d = .ok (k, d.setContent number (text ++ line)) ∧
      k.Holds (d.setContent number (text ++ line)) number (text ++ line) := by
  obtain ⟨hcontent, hmode⟩ := h.written_eq line
  have happend := h.append_eq line
  rw [hcontent] at happend
  exact ⟨_, happend, h.setContent (text ++ line) _, hmode⟩

/-- A write to another file does not touch this one. -/
theorem setContent_of_ne (h : j.Holds d number text) {other : Nat} (hne : other ≠ number)
    (bs : Bytes) : j.Holds (d.setContent other bs) number text :=
  ⟨h.toOnFile.setContent_of_ne hne bs, h.atEnd⟩

end Holds

end Journal

end ProxyWarden

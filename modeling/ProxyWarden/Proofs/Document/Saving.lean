import ProxyWarden.Document.Store
import ProxyWarden.Proofs.Disk.Moves
import ProxyWarden.Proofs.Document.Rendering

/-!
# The settings file over loads and saves

Once a store was opened, its path leads to a file that holds a complete document, and the temporary
path to nothing or to another file (`Keeps`). Every step of a save keeps that: until the rename the
steps touch the temporary file only, and the rename puts the new document in place of the old one.
So the settings are one document (`settings_are_last_saved`), whatever fails.
-/
namespace ProxyWarden.Store

open Disk (Leads HoldsAt OnlyAt Sound)
open Json (isValue)

variable {s : Store} {d d' : Disk} {doc last : Document} {text data : Bytes} {number : Nat}
  {m : Option Mishap}

/-- The settings are a file with this text, and no device or directory stands where the temporary
file goes. -/
structure Keeps (s : Store) (d : Disk) (text : Bytes) : Prop where
  sound : d.Sound
  settings : ∃ loc number, d.HoldsAt s.path loc number text
  temp : ∃ tmp, d.Leads s.tempPath tmp ∧ d.node? tmp ≠ some .fullDevice

/-- The settings are as before, and the temporary file holds the data. -/
structure Staged (s : Store) (d : Disk) (text : Bytes) (number : Nat) (data : Bytes) : Prop
    extends Keeps s d text where
  staged : ∃ tmp, d.HoldsAt s.tempPath tmp number data

theorem slash_not_mem_suffix : Path.slash ∉ Bytes.ofAscii ".tmp" := by decide

theorem suffix_ne_nil : Bytes.ofAscii ".tmp" ≠ [] := by decide

namespace Keeps

theorem read_eq (h : s.Keeps d text) : d.read s.path = .ok text := by
  obtain ⟨loc, number, hfile⟩ := h.settings
  exact hfile.read_eq

/-- What happens to the temporary file only leaves the settings alone. -/
theorem onlyAt {tmp : Location} (h : s.Keeps d text) (htmp : d.Leads s.tempPath tmp)
    (honly : OnlyAt tmp d d') (hdir : d'.node? tmp ≠ some .directory)
    (hdevice : d'.node? tmp ≠ some .fullDevice) : s.Keeps d' text where
  sound := honly.sound
  settings := by
    obtain ⟨loc, number, hfile⟩ := h.settings
    have hne : tmp ≠ loc := hfile.toLeads.ne_of_append htmp slash_not_mem_suffix suffix_ne_nil
    exact ⟨loc, number, hfile.onlyAt honly htmp.notDirectory hne.symm⟩
  temp := ⟨tmp, honly.leads htmp.notDirectory htmp hdir, hdevice⟩

theorem onlyAt_holdsAt {tmp : Location} (h : s.Keeps d text) (htmp : d.Leads s.tempPath tmp)
    (honly : OnlyAt tmp d d') (hfile : d'.HoldsAt s.tempPath tmp number data) :
    s.Staged d' text number data := by
  obtain ⟨executable, hnode⟩ := hfile.file
  exact ⟨h.onlyAt htmp honly hfile.notDirectory (by rw [hnode]; simp), tmp, hfile⟩

/-! ## The steps of a save -/

theorem openTruncate (h : s.Keeps d text) : ∃ made number,
    d.openTruncate s.tempPath = .ok (made, ⟨.file number, .offset 0⟩) ∧
      s.Staged made text number [] := by
  obtain ⟨tmp, htmp, hdevice⟩ := h.temp
  obtain ⟨made, number, hopen⟩ := htmp.exists_openTruncate hdevice
  refine ⟨made, number, hopen, ?_⟩
  rcases Disk.openTruncate_spec h.sound hopen with ⟨hfull, -⟩ | ⟨loc, k, hhandle, hleads, honly, hfile⟩
  · cases hfull
  · cases hhandle
    exact h.onlyAt_holdsAt hleads honly hfile

theorem removeFile (h : s.Keeps d text) :
    s.Keeps ((d.removeFile s.tempPath).toOption.getD d) text := by
  obtain ⟨tmp, htmp, -⟩ := h.temp
  obtain ⟨honly, hnone⟩ := htmp.removeFile h.sound
  exact h.onlyAt htmp honly (by rw [hnone]; simp) (by rw [hnone]; simp)

end Keeps

namespace Staged

theorem write (h : s.Staged d text number []) (data : Bytes) : ∃ full handle,
    d.write ⟨.file number, .offset 0⟩ data = .ok (full, handle) ∧
      s.Staged full text number data := by
  obtain ⟨tmp, hfile⟩ := h.staged
  obtain ⟨honly, hafter⟩ := hfile.setContent h.sound data
  exact ⟨_, _, hfile.write_eq data, h.toKeeps.onlyAt_holdsAt hfile.toLeads honly hafter⟩

theorem rename (h : s.Staged d text number data) : ∃ renamed,
    d.rename s.tempPath s.path = .ok renamed := by
  obtain ⟨tmp, hfile⟩ := h.staged
  obtain ⟨loc, number, hsettings⟩ := h.settings
  exact hfile.exists_rename hsettings.toLeads

end Staged

/-- After the rename the settings are what was staged. -/
theorem keeps_of_rename {tmp : Location} {renamed : Disk} (hd : d.Sound)
    (hfile : d.HoldsAt s.tempPath tmp number data)
    (h : d.rename s.tempPath s.path = .ok renamed) : s.Keeps renamed data := by
  obtain ⟨hsound, ⟨loc, hsettings⟩, htmp, hnone⟩ :=
    Disk.holdsAt_rename hd hfile slash_not_mem_suffix suffix_ne_nil h
  exact ⟨hsound, ⟨loc, number, hsettings⟩, tmp, htmp, by rw [hnone]; simp⟩

/-! ## The temporary file -/

/-- What writing the temporary file comes to: it is made, written and synced, and any of these fails
by the state of the disk or by the mishap. -/
inductive Wrote (m : Option Mishap) (p : Path) (data : Bytes) (d : Disk) : TempRun → Prop where
  | notCreated (x : Mishap) : hit m .create = some x → Wrote m p data d ⟨[], d, some x.error⟩
  | notOpened (e : OsError) : d.openTruncate p = .error e → Wrote m p data d ⟨[], d, some e⟩
  | torn {made part : Disk} {handle after : Handle} (x : Mishap) :
      d.openTruncate p = .ok (made, handle) → hit m .write = some x →
      made.write handle (data.take x.written) = .ok (part, after) →
      Wrote m p data d ⟨[made, part], part, some x.error⟩
  | notTorn {made : Disk} {handle : Handle} (x : Mishap) (e : OsError) :
      d.openTruncate p = .ok (made, handle) → hit m .write = some x →
      made.write handle (data.take x.written) = .error e → Wrote m p data d ⟨[made], made, some e⟩
  | notWritten {made : Disk} {handle : Handle} (e : OsError) :
      d.openTruncate p = .ok (made, handle) → made.write handle data = .error e →
      Wrote m p data d ⟨[made], made, some e⟩
  | notSynced {made full : Disk} {handle after : Handle} (x : Mishap) :
      d.openTruncate p = .ok (made, handle) → made.write handle data = .ok (full, after) →
      hit m .sync = some x → Wrote m p data d ⟨[made, full], full, some x.error⟩
  | done {made full : Disk} {handle after : Handle} :
      d.openTruncate p = .ok (made, handle) → made.write handle data = .ok (full, after) →
      Wrote m p data d ⟨[made, full], full, none⟩

theorem wrote_writeTemp (m : Option Mishap) (p : Path) (data : Bytes) (d : Disk) :
    Wrote m p data d (writeTemp m p data d) := by
  unfold writeTemp
  split
  · next x hcreate => exact .notCreated x hcreate
  · split
    · next e hopen => exact .notOpened e hopen
    · next made handle hopen =>
        split
        · next x htorn =>
            split
            · next e hwrite => exact .notTorn x e hopen htorn hwrite
            · next hwrite => exact .torn x hopen htorn hwrite
        · split
          · next e hwrite => exact .notWritten e hopen hwrite
          · next hwrite =>
              split
              · next x hsync => exact .notSynced x hopen hwrite hsync
              · exact .done hopen hwrite

/-- The settings stay as they are while the temporary file is written, whatever disturbs it. -/
theorem Keeps.wrote {run : TempRun} (h : s.Keeps d text) (hwrote : Wrote m s.tempPath data d run) :
    (∀ mid ∈ run.states, s.Keeps mid text) ∧ s.Keeps run.disk text ∧
    (run.error? = none → ∃ number, s.Staged run.disk text number data) ∧
    (m = none → run.error? = none) := by
  obtain ⟨_, number, hopened, hmade⟩ := h.openTruncate
  have hcalm : ∀ {step x}, hit m step = some x → m = none → (some x.error : Option IoError) = none := by
    rintro step x hhit rfl
    cases hhit
  cases hwrote with
  | notCreated x hcreate => exact ⟨by simp, h, by simp, hcalm hcreate⟩
  | notOpened e hopen => cases hopen.symm.trans hopened
  | torn x hopen htorn hwrite =>
      cases hopen.symm.trans hopened
      obtain ⟨part, _, hpart, hkeeps⟩ := hmade.write (data.take x.written)
      cases hwrite.symm.trans hpart
      exact ⟨by simp [hmade.toKeeps, hkeeps.toKeeps], hkeeps.toKeeps, by simp, hcalm htorn⟩
  | notTorn x e hopen htorn hwrite =>
      cases hopen.symm.trans hopened
      obtain ⟨part, _, hpart, -⟩ := hmade.write (data.take x.written)
      cases hwrite.symm.trans hpart
  | notWritten e hopen hwrite =>
      cases hopen.symm.trans hopened
      obtain ⟨full, _, hfull, -⟩ := hmade.write data
      cases hwrite.symm.trans hfull
  | notSynced x hopen hwrite hsync =>
      cases hopen.symm.trans hopened
      obtain ⟨full, _, hfull, hkeeps⟩ := hmade.write data
      cases hwrite.symm.trans hfull
      exact ⟨by simp [hmade.toKeeps, hkeeps.toKeeps], hkeeps.toKeeps, by simp, hcalm hsync⟩
  | done hopen hwrite =>
      cases hopen.symm.trans hopened
      obtain ⟨full, _, hfull, hkeeps⟩ := hmade.write data
      cases hwrite.symm.trans hfull
      exact ⟨by simp [hmade.toKeeps, hkeeps.toKeeps], hkeeps.toKeeps, fun _ => ⟨number, hkeeps⟩,
        fun _ => rfl⟩

/-! ## Saves -/

/-- What a save comes to: it is refused, or fails before or at the rename, or succeeds. -/
inductive Ran (s : Store) (m : Option Mishap) (doc : Document) (d : Disk) : SaveRun → Prop where
  | refused (key : String) : doc.retainAllowed.pretty = .error key →
      Ran s m doc d ⟨[], d, .error (.invalidField key)⟩
  | notStaged {data : Bytes} {temp : TempRun} {e : IoError} {cleaned : Disk} :
      doc.retainAllowed.pretty = .ok data → Wrote m s.tempPath data d temp → temp.error? = some e →
      cleaned = (temp.disk.removeFile s.tempPath).toOption.getD temp.disk →
      Ran s m doc d ⟨temp.states ++ [cleaned], cleaned, .error (.write s.tempPath e)⟩
  | stopped {data : Bytes} {temp : TempRun} (x : Mishap) :
      doc.retainAllowed.pretty = .ok data → Wrote m s.tempPath data d temp → temp.error? = none →
      hit m .rename = some x → Ran s m doc d ⟨temp.states, temp.disk, .error (.write s.path x.error)⟩
  | notRenamed {data : Bytes} {temp : TempRun} (e : OsError) :
      doc.retainAllowed.pretty = .ok data → Wrote m s.tempPath data d temp → temp.error? = none →
      temp.disk.rename s.tempPath s.path = .error e →
      Ran s m doc d ⟨temp.states, temp.disk, .error (.write s.path e)⟩
  | saved {data : Bytes} {temp : TempRun} {renamed : Disk} :
      doc.retainAllowed.pretty = .ok data → Wrote m s.tempPath data d temp → temp.error? = none →
      temp.disk.rename s.tempPath s.path = .ok renamed →
      Ran s m doc d ⟨temp.states ++ [renamed], renamed, .ok ()⟩

theorem ran_saveRun (s : Store) (m : Option Mishap) (doc : Document) (d : Disk) :
    Ran s m doc d (s.saveRun m doc d) := by
  unfold saveRun
  split
  · next key hkey => exact .refused key hkey
  · next data hdata =>
      have hwrote := wrote_writeTemp m s.tempPath data d
      dsimp only
      split
      · next e herror => exact .notStaged hdata hwrote herror rfl
      · next herror =>
          split
          · next x hhit => exact .stopped x hdata hwrote herror hhit
          · split
            · next e hrename => exact .notRenamed e hdata hwrote herror hrename
            · next renamed hrename => exact .saved hdata hwrote herror hrename

theorem saveRun_invalidField {key : String} (h : doc.retainAllowed.pretty = .error key)
    (s : Store) (m : Option Mishap) (d : Disk) :
    s.saveRun m doc d = ⟨[], d, .error (.invalidField key)⟩ := by
  unfold saveRun
  rw [h]

/-- A save of a document that can be written puts it in place, or leaves the settings as they were
because of a mishap; in between they are the old or the new document. -/
theorem keeps_saveRun (h : s.Keeps d text) (hdata : doc.retainAllowed.pretty = .ok data)
    (m : Option Mishap) :
    (∀ mid ∈ (s.saveRun m doc d).states, s.Keeps mid text ∨ s.Keeps mid data) ∧
    ((s.saveRun m doc d).result = .ok () ∧ s.Keeps (s.saveRun m doc d).disk data ∨
      m ≠ none ∧ (∃ path e, (s.saveRun m doc d).result = .error (.write path e)) ∧
        s.Keeps (s.saveRun m doc d).disk text) := by
  have hran := ran_saveRun s m doc d
  generalize s.saveRun m doc d = run at hran ⊢
  cases hran with
  | refused key hkey => cases hdata.symm.trans hkey
  | notStaged hdata' hwrote herror hcleaned =>
      cases hdata.symm.trans hdata'
      obtain ⟨hstates, hdisk, -, hcalm⟩ := h.wrote hwrote
      have hclean := hcleaned ▸ hdisk.removeFile
      refine ⟨?_, .inr ⟨?_, ⟨_, _, rfl⟩, hclean⟩⟩
      · rw [List.forall_mem_append, List.forall_mem_singleton]
        exact ⟨fun mid hmid => .inl (hstates mid hmid), .inl hclean⟩
      · intro hm
        cases herror.symm.trans (hcalm hm)
  | stopped x hdata' hwrote _ hhit =>
      cases hdata.symm.trans hdata'
      obtain ⟨hstates, hdisk, -, -⟩ := h.wrote hwrote
      refine ⟨fun mid hmid => .inl (hstates mid hmid), .inr ⟨?_, ⟨_, _, rfl⟩, hdisk⟩⟩
      rintro rfl
      cases hhit
  | notRenamed e hdata' hwrote herror hrename =>
      cases hdata.symm.trans hdata'
      obtain ⟨number, hfull⟩ := (h.wrote hwrote).2.2.1 herror
      obtain ⟨renamed, hok⟩ := hfull.rename
      cases hrename.symm.trans hok
  | saved hdata' hwrote herror hrename =>
      cases hdata.symm.trans hdata'
      obtain ⟨hstates, -, hstaged, -⟩ := h.wrote hwrote
      obtain ⟨number, hfull⟩ := hstaged herror
      obtain ⟨tmp, hfile⟩ := hfull.staged
      have hkeeps := keeps_of_rename hfull.sound hfile hrename
      refine ⟨?_, .inl ⟨rfl, hkeeps⟩⟩
      rw [List.forall_mem_append, List.forall_mem_singleton]
      exact ⟨fun mid hmid => .inl (hstates mid hmid), .inr hkeeps⟩

theorem Keeps.saved (h : s.Keeps d text) (hdata : doc.retainAllowed.pretty = .ok data) :
    (s.saveRun none doc d).result = .ok () ∧ s.Keeps (s.saveRun none doc d).disk data := by
  obtain ⟨-, hsaved | ⟨hm, -⟩⟩ := keeps_saveRun h hdata none
  · exact hsaved
  · exact absurd rfl hm

/-! ## Saves that succeed -/

theorem prettyFields_ne_nil (fields : List (Bytes × Bytes)) :
    Document.prettyFields fields ≠ [] := by
  cases fields with
  | nil => simp [Document.prettyFields]
  | cons f fs => simp [Document.prettyFields]

theorem pretty_ne_nil (h : doc.pretty = .ok data) : data ≠ [] := by
  unfold Document.pretty at h
  cases hrendered : Document.rendered doc.entries with
  | error e =>
      rw [hrendered] at h
      cases h
  | ok fields =>
      rw [hrendered] at h
      cases h
      exact prettyFields_ne_nil fields

/-- A file that was emptied and written holds the data. -/
theorem holdsAt_of_write {p : Path} {made full : Disk} {handle after : Handle} (hd : d.Sound)
    (hopen : d.openTruncate p = .ok (made, handle))
    (hwrite : made.write handle data = .ok (full, after)) (hdata : data ≠ []) :
    full.Sound ∧ ∃ tmp number, full.HoldsAt p tmp number data := by
  rcases Disk.openTruncate_spec hd hopen with ⟨hfull, -⟩ | ⟨tmp, number, rfl, -, honly, hfile⟩
  · unfold Disk.write at hwrite
    rw [hfull] at hwrite
    simp [hdata] at hwrite
  · rw [hfile.write_eq] at hwrite
    cases hwrite
    obtain ⟨hafter, hholds⟩ := hfile.setContent honly.sound data
    exact ⟨hafter.sound, tmp, number, hholds⟩

/-- A save that succeeded left the new document, whatever was there before. -/
theorem keeps_of_saveRun (hd : d.Sound) (h : (s.saveRun m doc d).result = .ok ()) :
    ∃ data, doc.retainAllowed.pretty = .ok data ∧ s.Keeps (s.saveRun m doc d).disk data := by
  have hran := ran_saveRun s m doc d
  generalize s.saveRun m doc d = run at hran h ⊢
  cases hran with
  | @saved data temp renamed hdata hwrote herror hrename =>
      cases hwrote with
      | done hopen hwrite =>
          obtain ⟨hsound, tmp, number, hfile⟩ := holdsAt_of_write hd hopen hwrite (pretty_ne_nil hdata)
          exact ⟨data, hdata, keeps_of_rename hsound hfile hrename⟩
      | _ => cases herror
  | _ => cases h

/-- The disk does what a save asks of it, whatever is saved. -/
structure Works (s : Store) (d : Disk) : Prop where
  sound : d.Sound
  operations : ∀ data, data ≠ [] → ∃ made handle full after renamed,
    d.openTruncate s.tempPath = .ok (made, handle) ∧ made.write handle data = .ok (full, after) ∧
      full.rename s.tempPath s.path = .ok renamed

theorem Works.saveRun_result (h : s.Works d) (hdata : doc.retainAllowed.pretty = .ok data) :
    (s.saveRun none doc d).result = .ok () := by
  obtain ⟨made, handle, full, after, renamed, hopen, hwrite, hrename⟩ :=
    h.operations data (pretty_ne_nil hdata)
  have htemp : writeTemp none s.tempPath data d = ⟨[made, full], full, none⟩ := by
    unfold writeTemp
    simp only [hit, Option.filter_none, hopen, hwrite]
  unfold saveRun
  rw [hdata]
  dsimp only
  rw [htemp]
  simp only [hit, Option.filter_none, hrename]

/-- Where the settings are kept, a save works. -/
theorem Keeps.works (h : s.Keeps d text) : s.Works d where
  sound := h.sound
  operations := by
    intro data _
    obtain ⟨made, number, hopen, hmade⟩ := h.openTruncate
    obtain ⟨full, after, hwrite, hfull⟩ := hmade.write data
    obtain ⟨renamed, hrename⟩ := hfull.rename
    exact ⟨made, _, full, after, renamed, hopen, hwrite, hrename⟩

/-! ## Loads and saves in turn -/

structure Untouched (s : Store) (d d' : Disk) : Prop where
  sound : d'.Sound
  settings : d'.locate s.path = d.locate s.path
  temp : d'.locate s.tempPath = d.locate s.tempPath
  text : d'.read s.path = d.read s.path

/-- What can happen to the settings after a store was opened, and the document that was saved last:
saves, which succeed or fail in any way, and whatever happens elsewhere. A load changes nothing. -/
inductive Course (s : Store) (opened : Disk) (first : Document) : Disk → Document → Prop where
  | opened : Course s opened first opened first
  | saved {d : Disk} {last : Document} (m : Option Mishap) (doc : Document) :
      Course s opened first d last → (s.saveRun m doc d).result = .ok () →
      Course s opened first (s.saveRun m doc d).disk doc
  | failed {d : Disk} {last : Document} {e : StoreError} (m : Option Mishap) (doc : Document) :
      Course s opened first d last → (s.saveRun m doc d).result = .error e →
      Course s opened first (s.saveRun m doc d).disk last
  | elsewhere {d d' : Disk} {last : Document} : Course s opened first d last → s.Untouched d d' →
      Course s opened first d' last

/-- The settings are the allowed fields of this document. -/
def Stores (s : Store) (d : Disk) (doc : Document) : Prop :=
  ∃ text, doc.retainAllowed.pretty = .ok text ∧ s.Keeps d text

theorem Keeps.untouched (h : s.Keeps d text) (hd : s.Untouched d d') : s.Keeps d' text where
  sound := hd.sound
  settings := by
    obtain ⟨loc, number, hfile⟩ := h.settings
    obtain ⟨executable, hnode⟩ := hfile.file
    obtain ⟨hleads, hsame⟩ :=
      Disk.leads_of_locate (hd.settings.trans hfile.place) hfile.notDirectory
    have hnode' : d'.node? loc = some (.file number executable) := hsame.symm.trans hnode
    have hread := hd.text
    rw [hleads.read_eq hnode', h.read_eq] at hread
    exact ⟨loc, number, hleads, ⟨executable, hnode'⟩, Except.ok.inj hread⟩
  temp := by
    obtain ⟨tmp, htmp, hdevice⟩ := h.temp
    obtain ⟨hleads, hsame⟩ := Disk.leads_of_locate (hd.temp.trans htmp.place) htmp.notDirectory
    exact ⟨tmp, hleads, hsame ▸ hdevice⟩

theorem retainAllowed_retainAllowed (doc : Document) :
    doc.retainAllowed.retainAllowed = doc.retainAllowed :=
  NameMap.restrict_restrict doc _

theorem retainAllowed_trim (doc : Document) :
    doc.retainAllowed.trim.retainAllowed = doc.retainAllowed.trim := by
  unfold Document.retainAllowed Document.trim
  rw [NameMap.restrict_map, NameMap.restrict_restrict]

namespace Stores

theorem isValid (h : s.Stores d doc) : doc.retainAllowed.IsValid := by
  obtain ⟨text, hpretty, -⟩ := h
  exact Document.isValid_of_pretty hpretty

theorem load_eq (h : s.Stores d doc) : s.load d = .ok doc.retainAllowed.trim := by
  obtain ⟨_, shown, -, hshown, -, hread, -, -⟩ := h.isValid.readsBack
  obtain ⟨text, hpretty, hkeeps⟩ := h
  cases hpretty.symm.trans hshown
  unfold load
  rw [hkeeps.read_eq]
  dsimp only
  rw [hread]
  exact congrArg Except.ok (retainAllowed_trim doc)

/-- A save of what was loaded writes the same text again. -/
theorem pretty_eq (h : s.Stores d doc) (hkeeps : s.Keeps d text) :
    doc.retainAllowed.trim.retainAllowed.pretty = .ok text := by
  obtain ⟨_, shown, -, hshown, -, -, -, hagain⟩ := h.isValid.readsBack
  obtain ⟨text', hpretty, hkeeps'⟩ := h
  have hread := hkeeps'.read_eq
  rw [hkeeps.read_eq] at hread
  cases hread
  cases hpretty.symm.trans hshown
  rw [retainAllowed_trim]
  exact hagain

end Stores

theorem Works.exists_save (h : s.Works d) (hvalid : doc.retainAllowed.IsValid) :
    ∃ saved, s.save doc d = (.ok (), saved) ∧ s.Stores saved doc := by
  have hok := h.saveRun_result hvalid.pretty_eq
  exact ⟨_, congrArg (Prod.mk · _) hok, keeps_of_saveRun h.sound hok⟩

theorem stores_of_course {opened : Disk} {first : Document} (h : s.Stores opened first)
    (hcourse : Course s opened first d last) : s.Stores d last := by
  induction hcourse with
  | opened => exact h
  | @saved d last m doc _ hok ih =>
      obtain ⟨_, _, hkeeps⟩ := ih
      exact keeps_of_saveRun hkeeps.sound hok
  | @failed d last e m doc _ herror ih =>
      obtain ⟨text, hpretty, hkeeps⟩ := ih
      refine ⟨text, hpretty, ?_⟩
      cases hdoc : doc.retainAllowed.pretty with
      | error key =>
          rw [saveRun_invalidField hdoc]
          exact hkeeps
      | ok data =>
          obtain ⟨-, ⟨hok, -⟩ | ⟨-, -, hkeeps'⟩⟩ := keeps_saveRun hkeeps hdoc m
          · cases hok.symm.trans herror
          · exact hkeeps'
  | elsewhere _ huntouched ih =>
      obtain ⟨text, hpretty, hkeeps⟩ := ih
      exact ⟨text, hpretty, hkeeps.untouched huntouched⟩

theorem exists_document_of_open? {path : Path} (hopen : open? path d = (.ok s, d')) :
    path.fileName? ≠ some reservedFileName ∧
      ∃ text first, d.read path = .ok text ∧ Document.ofBytes text = .ok first := by
  unfold open? at hopen
  by_cases hname : path.fileName? = some reservedFileName
  · rw [if_pos hname] at hopen
    cases hopen
  rw [if_neg hname] at hopen
  refine ⟨hname, ?_⟩
  dsimp only at hopen
  split at hopen
  · cases hopen
  · next doc hload =>
      unfold load at hload
      dsimp only at hload
      split at hload
      · cases hload
      · next text hread =>
          split at hload
          · cases hload
          · next first hfirst => exact ⟨text, first, hread, hfirst⟩

theorem stores_of_open? {path : Path} {first : Document} (hd : d.Sound)
    (hopen : open? path d = (.ok s, d')) (hread : d.read path = .ok text)
    (hfirst : Document.ofBytes text = .ok first) : s.path = path ∧ s.Stores d' first := by
  have hname := (exists_document_of_open? hopen).1
  unfold open? at hopen
  rw [if_neg hname] at hopen
  have hload : (⟨path⟩ : Store).load d = .ok first.retainAllowed := by
    unfold load
    rw [hread]
    dsimp only
    rw [hfirst]
  dsimp only at hopen
  rw [hload] at hopen
  dsimp only at hopen
  split at hopen
  · cases hopen
  · next hsave =>
      cases hopen
      have hafter := congrArg Prod.snd hsave
      obtain ⟨shown, hshown, hkeeps⟩ := keeps_of_saveRun hd (congrArg Prod.fst hsave)
      rw [retainAllowed_retainAllowed] at hshown
      rw [show (saveRun ⟨path⟩ none first.retainAllowed d).disk = d' from hafter] at hkeeps
      exact ⟨rfl, shown, hshown, hkeeps⟩

theorem saveRun_invalidField_iff (h : s.Keeps d text) (m : Option Mishap) (doc : Document) :
    (∃ key, (s.saveRun m doc d).result = .error (.invalidField key)) ↔
      ∃ e ∈ doc.retainAllowed.entries, isValue (Utf8.encode e.2) = false := by
  constructor
  · rintro ⟨key, hkey⟩
    by_contra hnone
    have hvalid : doc.retainAllowed.IsValid := by
      intro e he
      by_contra hvalue
      exact hnone ⟨e, he, Bool.eq_false_iff.2 hvalue⟩
    obtain ⟨-, ⟨hok, -⟩ | ⟨-, ⟨_, _, herror⟩, -⟩⟩ := keeps_saveRun h hvalid.pretty_eq m
    · cases hok.symm.trans hkey
    · cases herror.symm.trans hkey
  · rintro ⟨e, he, hvalue⟩
    obtain ⟨key, -, herror⟩ :=
      Document.exists_rendered_eq_error doc.retainAllowed.ascending ⟨e, he, hvalue⟩
    have hpretty : doc.retainAllowed.pretty = .error key := by
      rw [Document.pretty, herror]
      rfl
    exact ⟨key, by rw [saveRun_invalidField hpretty]⟩

theorem open?_of_stores (h : s.Stores d doc) (hname : s.path.fileName? ≠ some reservedFileName) :
    ∃ again, open? s.path d = (.ok s, again) ∧ again.read s.path = d.read s.path := by
  obtain ⟨text, hpretty, hkeeps⟩ := id h
  obtain ⟨hok, hafter⟩ := hkeeps.saved (h.pretty_eq hkeeps)
  refine ⟨_, ?_, hafter.read_eq.trans hkeeps.read_eq.symm⟩
  unfold open?
  rw [if_neg hname]
  dsimp only
  rw [h.load_eq]
  dsimp only
  rw [save, hok]

/-- The settings behave as one document. Once a store was opened, and with nobody else touching the
settings or the temporary file, every load returns the allowed fields of the document that was saved
last. A save is refused exactly if a value of an allowed field is no JSON value, and succeeds
otherwise if nothing disturbs it; one that fails leaves the settings as they were, and after every
step of a save they are the old or the new document. Opening the store again changes nothing. -/
theorem settings_are_last_saved {path : Path} {opened : Disk} (hd : d.Sound)
    (hopen : open? path d = (.ok s, opened)) :
    ∃ text first, d.read path = .ok text ∧ Document.ofBytes text = .ok first ∧
      ∀ now last, Course s opened first now last →
        s.load now = .ok last.retainAllowed.trim ∧
        ∃ old, last.retainAllowed.pretty = .ok old ∧ now.read s.path = .ok old ∧
          (∀ m doc,
            ((∃ key, (s.saveRun m doc now).result = .error (.invalidField key)) ↔
              ∃ e ∈ doc.retainAllowed.entries, isValue (Utf8.encode e.2) = false) ∧
            (doc.retainAllowed.IsValid → (s.saveRun none doc now).result = .ok ()) ∧
            (∀ e, (s.saveRun m doc now).result = .error e →
              (s.saveRun m doc now).disk.read s.path = .ok old) ∧
            ∀ mid ∈ (s.saveRun m doc now).states, mid.read s.path = .ok old ∨
              ∃ new, doc.retainAllowed.pretty = .ok new ∧ mid.read s.path = .ok new) ∧
          ∃ again, open? s.path now = (.ok s, again) ∧ again.read s.path = .ok old := by
  obtain ⟨hname, text, first, hread, hfirst⟩ := exists_document_of_open? hopen
  obtain ⟨rfl, hopened⟩ := stores_of_open? hd hopen hread hfirst
  refine ⟨text, first, hread, hfirst, ?_⟩
  intro now last hcourse
  have hstores := stores_of_course hopened hcourse
  obtain ⟨old, hold, hkeeps⟩ := id hstores
  refine ⟨hstores.load_eq, old, hold, hkeeps.read_eq, ?_, ?_⟩
  · intro m doc
    refine ⟨saveRun_invalidField_iff hkeeps m doc, ?_, ?_, ?_⟩
    · exact fun hvalid => (hkeeps.saved hvalid.pretty_eq).1
    · intro e herror
      have hcase := Course.failed m doc hcourse herror
      obtain ⟨old', hold', hkeeps'⟩ := stores_of_course hopened hcase
      cases hold.symm.trans hold'
      exact hkeeps'.read_eq
    · intro mid hmid
      cases hdoc : doc.retainAllowed.pretty with
      | error key =>
          rw [saveRun_invalidField hdoc] at hmid
          cases hmid
      | ok new =>
          rcases (keeps_saveRun hkeeps hdoc m).1 mid hmid with hsame | hnew
          · exact .inl hsame.read_eq
          · exact .inr ⟨new, rfl, hnew.read_eq⟩
  · obtain ⟨again, hagain, hsame⟩ := open?_of_stores hstores hname
    exact ⟨again, hagain, hsame.trans hkeeps.read_eq⟩

def sampleStore : Store := ⟨Bytes.ofAscii "proxy.json"⟩

def sampleDisk : Disk :=
  (Disk.fresh.writeFile sampleStore.path (Bytes.ofAscii "\x7b\"stats\" : [ 1 ]\x7d")).toOption.getD
    .fresh

def sampleDocument : Document := NameMap.ofList [("log", " 2"), ("motd", "3")]

def sampleTorn : SaveRun :=
  sampleStore.saveRun (some ⟨.write, OsError.noSpace, 5⟩) sampleDocument
    (open? sampleStore.path sampleDisk).2

theorem sound_sampleDisk : sampleDisk.Sound := by
  unfold sampleDisk
  cases hwrite : Disk.fresh.writeFile sampleStore.path
      (Bytes.ofAscii "\x7b\"stats\" : [ 1 ]\x7d") with
  | error e => exact Disk.sound_fresh
  | ok d => exact Disk.sound_fresh.writeFile hwrite

/-- After a save whose write failed the settings are as they were opened, and the next save counts. -/
theorem settings_are_last_saved_tornWrite :
    open? sampleStore.path sampleDisk = (.ok sampleStore, (open? sampleStore.path sampleDisk).2) ∧
    sampleTorn.result = .error (.write sampleStore.tempPath OsError.noSpace) ∧
    ∃ text first, sampleDisk.read sampleStore.path = .ok text ∧ Document.ofBytes text = .ok first ∧
      sampleStore.load sampleTorn.disk = .ok first.retainAllowed.trim ∧
      sampleStore.load (sampleStore.saveRun none sampleDocument sampleTorn.disk).disk =
        .ok sampleDocument.retainAllowed.trim := by
  have hopen : open? sampleStore.path sampleDisk =
      (.ok sampleStore, (open? sampleStore.path sampleDisk).2) := by decide +kernel
  have hfail : sampleTorn.result = .error (.write sampleStore.tempPath OsError.noSpace) := by
    decide +kernel
  have hok : (sampleStore.saveRun none sampleDocument sampleTorn.disk).result = .ok () := by
    decide +kernel
  obtain ⟨text, first, hread, hfirst, hcourse⟩ := settings_are_last_saved sound_sampleDisk hopen
  have hfailed := Course.failed _ sampleDocument (@Course.opened sampleStore _ first) hfail
  exact ⟨hopen, hfail, text, first, hread, hfirst, (hcourse _ _ hfailed).1,
    (hcourse _ _ (.saved none sampleDocument hfailed hok)).1⟩

end ProxyWarden.Store

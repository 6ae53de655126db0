import ProxyWarden.Proofs.Disk.Additions
import ProxyWarden.Proofs.Document.Saving

/-!
# What a failed save leaves behind

Where nothing stood in the way of the temporary file, a save that fails while it makes, writes or syncs
that file removes it again, and every path leads where it did before. A rename that fails leaves the
file behind, with the text that was to be saved (`failed_save_leaves_nothing_iff`). The settings are as
they were in any case.
-/
namespace ProxyWarden.Store

open Disk (Complete Missing SameAt)

variable {s : Store} {d : Disk} {doc : Document} {m : Option Mishap} {p : Path} {data : Bytes}
  {run : TempRun} {e : StoreError}

/-- What was written to a temporary file that was not there: nothing, if there was a failure, or a new
file, which holds the data if there was none. -/
theorem Wrote.of_missing (h : Wrote m p data d run) (hmissing : d.Missing p) :
    run.disk = d ∧ run.error? ≠ none ∨
      ∃ loc text, d.locate p = .ok ⟨loc, none, false⟩ ∧ run.disk = d.withFile loc text ∧
        (run.error? = none → text = data) := by
  cases h with
  | notCreated x hcreate => exact .inl ⟨rfl, by simp⟩
  | notOpened e hopen => exact .inl ⟨rfl, by simp⟩
  | torn x hopen htorn hwrite =>
      obtain ⟨loc, hplace, hmade⟩ := hmissing.opened hopen
      obtain ⟨after, hpart⟩ := hmade (data.take x.written)
      cases hwrite.symm.trans hpart
      exact .inr ⟨loc, _, hplace, rfl, by simp⟩
  | notTorn x e hopen htorn hwrite =>
      obtain ⟨loc, hplace, hmade⟩ := hmissing.opened hopen
      obtain ⟨after, hpart⟩ := hmade (data.take x.written)
      cases hwrite.symm.trans hpart
  | notWritten e hopen hwrite =>
      obtain ⟨loc, hplace, hmade⟩ := hmissing.opened hopen
      obtain ⟨after, hfull⟩ := hmade data
      cases hwrite.symm.trans hfull
  | notSynced x hopen hwrite hsync =>
      obtain ⟨loc, hplace, hmade⟩ := hmissing.opened hopen
      obtain ⟨after, hfull⟩ := hmade data
      cases hwrite.symm.trans hfull
      exact .inr ⟨loc, data, hplace, rfl, fun _ => rfl⟩
  | done hopen hwrite =>
      obtain ⟨loc, hplace, hmade⟩ := hmissing.opened hopen
      obtain ⟨after, hfull⟩ := hmade data
      cases hwrite.symm.trans hfull
      exact .inr ⟨loc, data, hplace, rfl, fun _ => rfl⟩

/-- Once the temporary file was removed, every path leads where it did before it was made. -/
theorem Wrote.sameAt_removed (hd : d.Complete) (h : Wrote m p data d run) (hmissing : d.Missing p)
    (q : Path) : SameAt q d ((run.disk.removeFile p).toOption.getD run.disk) := by
  rcases h.of_missing hmissing with ⟨hdisk, -⟩ | ⟨loc, text, hplace, hdisk, -⟩
  · obtain ⟨e, hremove⟩ := hmissing.removeFile
    rw [hdisk, hremove]
    exact .refl q d
  · rw [hdisk, Disk.removeFile_withFile hplace]
    exact Disk.sameAt_unlink_withFile hd hplace text q

/-- The error of a save whose last step failed: it names the settings and not the temporary file. -/
def RenameFailed (s : Store) (e : StoreError) : Prop := ∃ cause, e = .write s.path cause

theorem tempPath_ne_path (s : Store) : s.tempPath ≠ s.path := by
  unfold tempPath
  rw [ne_eq, List.append_right_eq_self]
  exact suffix_ne_nil

/-- What a failed save leaves: everything as it was, or only the temporary file more. -/
theorem failed_cases (hd : d.Complete) (hmissing : d.Missing s.tempPath)
    (hfail : (s.saveRun m doc d).result = .error e) :
    ¬ s.RenameFailed e ∧ (∀ q, SameAt q d (s.saveRun m doc d).disk) ∨
      s.RenameFailed e ∧ ∃ loc text, d.locate s.tempPath = .ok ⟨loc, none, false⟩ ∧
        doc.retainAllowed.pretty = .ok text ∧ (s.saveRun m doc d).disk = d.withFile loc text := by
  have hran := ran_saveRun s m doc d
  generalize s.saveRun m doc d = run at hran hfail ⊢
  -- A temporary file that was written without a failure holds the whole text.
  have hstaged : ∀ {data : Bytes} {temp : TempRun}, Wrote m s.tempPath data d temp →
      temp.error? = none → ∃ loc, d.locate s.tempPath = .ok ⟨loc, none, false⟩ ∧
        temp.disk = d.withFile loc data := by
    intro data temp hwrote herror
    rcases hwrote.of_missing hmissing with ⟨-, hfailed⟩ | ⟨loc, text, hplace, hdisk, htext⟩
    · exact absurd herror hfailed
    · exact ⟨loc, hplace, htext herror ▸ hdisk⟩
  cases hran with
  | refused key hkey =>
      cases hfail
      refine .inl ⟨?_, fun q => .refl q d⟩
      rintro ⟨cause, hcause⟩
      cases hcause
  | notStaged hdata hwrote herror hcleaned =>
      cases hfail
      refine .inl ⟨?_, ?_⟩
      · rintro ⟨cause, hcause⟩
        injection hcause with hpath
        exact tempPath_ne_path s hpath
      · rw [hcleaned]
        exact hwrote.sameAt_removed hd hmissing
  | stopped x hdata hwrote herror hhit =>
      cases hfail
      obtain ⟨loc, hplace, hdisk⟩ := hstaged hwrote herror
      exact .inr ⟨⟨_, rfl⟩, loc, _, hplace, hdata, hdisk⟩
  | notRenamed e hdata hwrote herror hrename =>
      cases hfail
      obtain ⟨loc, hplace, hdisk⟩ := hstaged hwrote herror
      exact .inr ⟨⟨_, rfl⟩, loc, _, hplace, hdata, hdisk⟩
  | saved hdata hwrote herror hrename => cases hfail

/-- A save that fails leaves the settings as they were, and nothing at the temporary path exactly if the
rename is not what failed: then every path leads where it did before. After a rename that failed the
temporary file is there and holds the text that was to be saved, and all else is as it was. -/
theorem failed_save_leaves_nothing_iff (hd : d.Complete) (hmissing : d.Missing s.tempPath)
    (hfail : (s.saveRun m doc d).result = .error e) :
    SameAt s.path d (s.saveRun m doc d).disk ∧
    ((s.saveRun m doc d).disk.Missing s.tempPath ↔ ¬ s.RenameFailed e) ∧
    (¬ s.RenameFailed e → ∀ p, SameAt p d (s.saveRun m doc d).disk) ∧
    (s.RenameFailed e → ∃ text, doc.retainAllowed.pretty = .ok text ∧
      (s.saveRun m doc d).disk.read s.tempPath = .ok text ∧
      ∀ p, ¬ d.Missing p → SameAt p d (s.saveRun m doc d).disk) := by
  rcases failed_cases hd hmissing hfail with ⟨hnot, hsame⟩ | ⟨hrename, loc, text, hplace, htext, hdisk⟩
  · refine ⟨hsame s.path, ?_, fun _ => hsame, fun hrename => absurd hrename hnot⟩
    exact ⟨fun _ => hnot, fun _ => (hsame s.tempPath).missing_iff.2 hmissing⟩
  · rw [hdisk]
    have hread := Disk.read_withFile hplace text
    refine ⟨?_, ⟨?_, fun hnot => absurd hrename hnot⟩, fun hnot => absurd hrename hnot, ?_⟩
    · exact Disk.sameAt_withFile_of_append hd hplace slash_not_mem_suffix suffix_ne_nil text
    · rintro ⟨cause, hcause⟩
      unfold Disk.read at hread
      rw [hcause] at hread
      cases hread
    · intro _
      exact ⟨text, htext, hread, fun p hp => Disk.sameAt_withFile_of_found hd hplace hp text⟩

def sampleOpened : Disk := (open? sampleStore.path sampleDisk).2

/-- Since they were opened, the settings were removed and a directory was made in their place. -/
def sampleBlocked : Disk :=
  (sampleOpened.removeAll sampleStore.path).makeDirectory sampleStore.path

theorem complete_sampleOpened : sampleOpened.Complete := by
  have hopen : open? sampleStore.path sampleDisk = (.ok sampleStore, sampleOpened) := by decide +kernel
  obtain ⟨-, text, first, hread, hfirst⟩ := exists_document_of_open? hopen
  obtain ⟨-, shown, -, hkeeps⟩ := stores_of_open? sound_sampleDisk hopen hread hfirst
  exact hkeeps.sound.complete

theorem complete_sampleBlocked : sampleBlocked.Complete := by
  intro l number executable h
  obtain ⟨e, he, hfile⟩ := Disk.exists_of_node? h (by simp)
  have hnodes : ∀ e ∈ sampleBlocked.nodes, e.2 = .directory ∨ e.2 = .fullDevice := by decide +kernel
  rcases hnodes e he with hdir | hdevice
  · cases hdir.symm.trans hfile
  · cases hdevice.symm.trans hfile

theorem missing_sampleOpened : sampleOpened.Missing sampleStore.tempPath :=
  ⟨.notFound, by decide +kernel⟩

theorem missing_sampleBlocked : sampleBlocked.Missing sampleStore.tempPath :=
  ⟨.notFound, by decide +kernel⟩

theorem not_renameFailed_sampleTorn :
    ¬ sampleStore.RenameFailed (.write sampleStore.tempPath OsError.noSpace) := by
  rintro ⟨cause, hcause⟩
  injection hcause with hpath
  exact tempPath_ne_path sampleStore hpath

/-- A write that fails halfway is taken back, and a rename that fails leaves the temporary file. -/
theorem failed_save_leaves_nothing_iff_tornAndBlocked :
    sampleOpened.Complete ∧ sampleOpened.Missing sampleStore.tempPath ∧
    sampleTorn.result = .error (.write sampleStore.tempPath OsError.noSpace) ∧
    sampleTorn.disk.Missing sampleStore.tempPath ∧
    (∀ p, SameAt p sampleOpened sampleTorn.disk) ∧
    sampleBlocked.Complete ∧ sampleBlocked.Missing sampleStore.tempPath ∧
    (sampleStore.saveRun none sampleDocument sampleBlocked).result =
      .error (.write sampleStore.path OsError.isDirectory) ∧
    SameAt sampleStore.path sampleBlocked
      (sampleStore.saveRun none sampleDocument sampleBlocked).disk ∧
    ∃ text, sampleDocument.retainAllowed.pretty = .ok text ∧
      (sampleStore.saveRun none sampleDocument sampleBlocked).disk.read sampleStore.tempPath =
        .ok text := by
  have htorn : sampleTorn.result = .error (.write sampleStore.tempPath OsError.noSpace) := by
    decide +kernel
  have hblocked : (sampleStore.saveRun none sampleDocument sampleBlocked).result =
      .error (.write sampleStore.path OsError.isDirectory) := by decide +kernel
  have hafterTorn := failed_save_leaves_nothing_iff complete_sampleOpened missing_sampleOpened htorn
  have hafterBlocked :=
    failed_save_leaves_nothing_iff complete_sampleBlocked missing_sampleBlocked hblocked
  obtain ⟨text, htext, hread, -⟩ := hafterBlocked.2.2.2 ⟨_, rfl⟩
  exact ⟨complete_sampleOpened, missing_sampleOpened, htorn,
    hafterTorn.2.1.2 not_renameFailed_sampleTorn, hafterTorn.2.2.1 not_renameFailed_sampleTorn,
    complete_sampleBlocked, missing_sampleBlocked, hblocked, hafterBlocked.1, text, htext, hread⟩

/-- A save that fails because a directory stands in place of the settings leaves its temporary file. -/
theorem temporary_file_left_by_failed_rename :
    sampleBlocked.Complete ∧ sampleBlocked.Missing sampleStore.tempPath ∧
    (sampleStore.saveRun none sampleDocument sampleBlocked).result =
      .error (.write sampleStore.path OsError.isDirectory) ∧
    ¬ (sampleStore.saveRun none sampleDocument sampleBlocked).disk.Missing sampleStore.tempPath := by
  refine ⟨complete_sampleBlocked, missing_sampleBlocked, by decide +kernel, ?_⟩
  rintro ⟨e, hfind⟩
  have hfound : (sampleStore.saveRun none sampleDocument sampleBlocked).disk.find
      sampleStore.tempPath = .ok (.file 2 false) := by decide +kernel
  cases hfound.symm.trans hfind

end ProxyWarden.Store

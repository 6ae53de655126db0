import ProxyWarden.Journal.CoreLog
import ProxyWarden.Proofs.Disk.Spellings
import ProxyWarden.Settings

/-!
# The files of the journals

The settings are refused if the two journals have the same path, and paths are the same when their
components are. Other spellings of one place get through: `journals_meet_iff` says which, and that
journals named without steps upwards and in the same manner are different files.
-/
namespace ProxyWarden.Settings

variable {s : Settings}

/-- What is asked for is what is checked. -/
theorem ofEnvironment_eq_ok_iff {env : Environment} :
    ofEnvironment env = .ok s ↔ (read env).check = .ok () ∧ read env = s := by
  unfold ofEnvironment
  cases h : (read env).check with
  | error e => simp
  | ok _ => simp

theorem check_of_ofEnvironment {env : Environment} (h : ofEnvironment env = .ok s) :
    s.check = .ok () := by
  obtain ⟨hcheck, rfl⟩ := ofEnvironment_eq_ok_iff.1 h
  exact hcheck

theorem components_ne_of_check (h : s.check = .ok ()) :
    s.accessLog.components ≠ s.coreLog.components := by
  unfold check at h
  split_ifs at h with _ _ _ hsame
  intro heq
  exact hsame (beq_iff_eq.2 heq)

/-- Accepted journals are one file exactly if their different paths can be respelled to be the same,
and never if both only go down from the same kind of beginning. -/
theorem journals_meet_iff (h : s.check = .ok () ∨ ∃ env, ofEnvironment env = .ok s)
    (start : List Bytes) :
    s.accessLog.components ≠ s.coreLog.components ∧
    (s.accessLog.location start = s.coreLog.location start ↔
      Path.Alike start s.accessLog s.coreLog) ∧
    (Path.BothDown s.accessLog s.coreLog →
      s.accessLog.location start ≠ s.coreLog.location start) := by
  have hne : s.accessLog.components ≠ s.coreLog.components := by
    obtain hcheck | ⟨env, henv⟩ := h
    · exact components_ne_of_check hcheck
    · exact components_ne_of_check (check_of_ofEnvironment henv)
  refine ⟨hne, Path.location_eq_iff start _ _, ?_⟩
  intro hdown heq
  exact hne (Path.components_eq_of_location_eq hdown heq)

/-- The access journal gets the name of the core's journal, behind a dot. -/
def dottedName : Environment := [("XRAYMON_ACCESS_LOG", Bytes.ofAscii "./xray_core.log")]

theorem ofEnvironment_dottedName : ofEnvironment dottedName = .ok (read dottedName) := rfl

theorem journals_meet_iff_defaultAndDotted :
    (default.check = .ok () ∧
      ∀ start, default.accessLog.location start ≠ default.coreLog.location start) ∧
    ofEnvironment dottedName = .ok (read dottedName) ∧
      Path.Alike Disk.workLocation (read dottedName).accessLog (read dottedName).coreLog := by
  have hdown : Path.BothDown default.accessLog default.coreLog := by
    constructor <;> decide +kernel
  have hmeet : (read dottedName).accessLog.location Disk.workLocation =
      (read dottedName).coreLog.location Disk.workLocation := by decide +kernel
  refine ⟨⟨rfl, ?_⟩, ofEnvironment_dottedName, ?_⟩
  · intro start
    exact (journals_meet_iff (.inl rfl) start).2.2 hdown
  · exact (journals_meet_iff (.inr ⟨_, ofEnvironment_dottedName⟩) Disk.workLocation).2.1.1 hmeet

/-- These settings are accepted, and the journals opened with them write to one file. -/
theorem journals_meet_behind_dot :
    ofEnvironment dottedName = .ok (read dottedName) ∧ (read dottedName).check = .ok () ∧
    (∀ start,
      (read dottedName).accessLog.location start = (read dottedName).coreLog.location start) ∧
    ∃ access core opened both,
      AccessJournal.open? (read dottedName).accessLog Disk.fresh = .ok (access, opened) ∧
      CoreJournal.open? (read dottedName).coreLog opened = .ok (core, both) ∧
      access.journal.handle = core.journal.handle := by
  refine ⟨ofEnvironment_dottedName, rfl, ?_, _, _, _, _, rfl, rfl, rfl⟩
  intro _
  rfl

end ProxyWarden.Settings

import ProxyWarden.Proofs.Document.Saving
import ProxyWarden.Proofs.Management.Limits

/-!
# Uploads

An upload that comes too early or is no object changes nothing but what the limiter remembers. Any
other one replaces the settings, and what is shown of them afterwards is the allowed part of the
object that was uploaded, whatever becomes of the restart that goes with it
(`Leads.upload_replaces_or_refuses`).
-/
namespace ProxyWarden.Surface

open Document (ObjectText compactFields isAllowed quotedField)

variable {s₀ s : Surface} {es : List Event} {doc : Document} {fields : List (String × String)}

/-! ## What is shown -/

/-- The allowed fields among these, each with the value that it was given last, in the order of the
bytes of their keys. -/
structure Kept (fields kept : List (String × String)) : Prop where
  ascending : kept.Pairwise fun a b => Utf8.encode a.1 < Utf8.encode b.1
  mem_iff : ∀ key raw, (key, raw) ∈ kept ↔
    isAllowed key = true ∧ fields.reverse.lookup key = some raw

/-- The settings are shown as the compact object of the allowed fields among these. -/
def Shows (s : Surface) (fields : List (String × String)) : Prop :=
  ∃ text kept, s.config = .ok text ∧ Utf8.encode text = compactFields (kept.map quotedField) ∧
    Kept fields kept

theorem kept_entries (fields : List (String × String)) :
    Kept fields (Document.retainAllowed (NameMap.ofList fields)).entries where
  ascending := by
    apply (Document.retainAllowed (NameMap.ofList fields)).ascending.imp
    intro a b h
    exact Utf8.encode_lt_encode_iff.2 h
  mem_iff := by
    intro key raw
    rw [Document.retainAllowed, NameMap.mem_entries_restrict, NameMap.mem_entries_ofList]

theorem config_eq (h : s.store.Stores s.disk doc) (hbare : doc.retainAllowed.IsBare) :
    ∃ text, s.config = .ok text ∧
      Utf8.encode text = compactFields (doc.retainAllowed.entries.map quotedField) := by
  obtain ⟨text, htext⟩ := Document.exists_encode_compactFields doc.retainAllowed.entries
  have hcompact := hbare.isValid.compact_eq
  rw [hbare.trim_eq, ← htext] at hcompact
  refine ⟨text, ?_, htext⟩
  unfold config load
  rw [h.load_eq, hbare.trim_eq]
  dsimp only
  rw [hcompact]
  exact congrArg Except.ok (Utf8.lossy_encode text)

theorem config_request (s : Surface) : s.request.2.config = s.config := by
  unfold request
  split <;> rfl

theorem shows_request (h : s.Shows fields) : s.request.2.Shows fields := by
  unfold Shows
  rw [config_request]
  exact h

/-! ## The restart that goes with an upload -/

/-- A restart is asked for if it is wanted. That fails only if the supervisor takes no requests any
more. -/
structure Restarts (wanted : Bool) (before : Supervisor)
    (outcome : Except ManagementError Unit × Surface) : Prop where
  unwanted : wanted = false → outcome.1 = .ok () ∧ outcome.2.supervisor = before
  taken : wanted = true → before.accepts = true → outcome.1 = .ok () ∧
    outcome.2.supervisor = { before with queue := before.queue.or (some .manual) }
  closed : wanted = true → before.accepts = false →
    outcome.1 = .error (.supervisor .closed) ∧ outcome.2.supervisor = before

theorem restarts_request (s : Surface) : Restarts true s.supervisor s.request where
  unwanted := by
    intro h
    cases h
  taken := by
    intro _ h
    simp [request, Supervisor.request, h]
  closed := by
    intro _ h
    simp [request, Supervisor.request, h]

/-- Where a save works, a document whose values have nothing around them replaces the settings. -/
theorem replace_spec (hworks : s.store.Works s.disk) (hbare : Document.IsBare (NameMap.ofList fields))
    (restart : Bool) : (s.replace (NameMap.ofList fields) restart).2.Shows fields ∧
      Restarts restart s.supervisor (s.replace (NameMap.ofList fields) restart) := by
  have hkept : (Document.retainAllowed (NameMap.ofList fields)).IsBare := hbare.retainAllowed
  obtain ⟨saved, hsave, hstores⟩ := hworks.exists_save hkept.isValid
  let after : Surface := { s with disk := saved }
  have hreplace : s.replace (NameMap.ofList fields) restart =
      if restart then after.request else (.ok (), after) := by
    unfold replace
    rw [hsave]
  have hshows : after.Shows fields := by
    obtain ⟨text, hconfig, htext⟩ := config_eq (s := after) hstores hkept
    exact ⟨text, _, hconfig, htext, kept_entries fields⟩
  rw [hreplace]
  cases restart with
  | true => exact ⟨shows_request hshows, restarts_request after⟩
  | false => exact ⟨hshows, ⟨fun _ => ⟨rfl, rfl⟩, by simp, by simp⟩⟩

/-! ## The calls -/

/-- The last upload that was admitted was less than one interval ago. -/
def TooEarly (s₀ : Surface) (es : List Event) (s : Surface) : Prop :=
  ∃ t, lastAdmitted callInterval (s₀.moments .upload es) = some t ∧ s.now - t < callInterval

theorem Leads.uploads_eq (hs : s₀.Opened) (h : s₀.Leads es s) :
    s.uploads = ⟨callInterval, lastAdmitted callInterval (s₀.moments .upload es)⟩ :=
  h.limiter_eq hs .upload

theorem Leads.admits_uploads_iff (hs : s₀.Opened) (h : s₀.Leads es s) :
    s.uploads.admits s.now = true ↔ ¬ TooEarly s₀ es s := by
  rw [h.uploads_eq hs]
  unfold TooEarly Limiter.admits
  cases lastAdmitted callInterval (s₀.moments .upload es) with
  | none => simp
  | some t => simp

/-- An upload takes effect entirely or not at all. One that comes too early changes nothing, and one
that is no object nothing but what the limiter remembers. Any other one replaces the settings, which
are then shown as its allowed fields, and asks for a restart if one is wanted; it fails only if the
supervisor takes no requests any more. -/
theorem Leads.upload_replaces_or_refuses (hs : s₀.Opened) (h : s₀.Leads es s)
    (hworks : s.store.Works s.disk) (data : String) (restart : Bool) :
    (TooEarly s₀ es s → s.upload data restart = (.error .tooManyRequests, s)) ∧
    (¬ TooEarly s₀ es s → (¬ ∃ fields, ObjectText fields (Utf8.encode data)) →
      ∃ fault, s.upload data restart =
        (.error (.invalidConfig fault), { s with uploads := ⟨callInterval, some s.now⟩ })) ∧
    (¬ TooEarly s₀ es s → ∀ fields, ObjectText fields (Utf8.encode data) →
      (s.upload data restart).2.Shows fields ∧
        Restarts restart s.supervisor (s.upload data restart)) := by
  have hadmits := h.admits_uploads_iff hs
  refine ⟨?_, ?_, ?_⟩
  · intro hearly
    have hrefused : ¬ s.uploads.admits s.now = true := fun hadmitted => hadmits.1 hadmitted hearly
    exact if_neg hrefused
  · intro hearly hnone
    have hcall : s.uploads.call s.now = ⟨callInterval, some s.now⟩ := by
      rw [Limiter.call, if_pos (hadmits.2 hearly), h.uploads_eq hs]
    unfold upload
    rw [if_pos (hadmits.2 hearly), hcall]
    cases hread : Document.ofBytes (Utf8.encode data) with
    | error fault => exact ⟨fault, rfl⟩
    | ok doc =>
        obtain ⟨fields, htext, -⟩ := Document.ofBytes_eq_ok_iff.1 hread
        exact absurd ⟨fields, htext⟩ hnone
  · intro hearly fields htext
    have hread := Document.ofBytes_eq_ok_iff.2 ⟨fields, htext, rfl⟩
    unfold upload
    rw [if_pos (hadmits.2 hearly), hread]
    exact replace_spec (s := { s with uploads := s.uploads.call s.now }) hworks
      (Document.isBare_of_ofBytes hread) restart

/-! ## A surface where saves work -/

theorem exists_of_open? {settings accessLog coreLog : Path} {cache : Traffic.Cache}
    {before after : Disk} (h : open? settings accessLog coreLog cache before = (.ok s, after)) :
    ∃ saved made, Store.open? settings before = (.ok s.store, saved) ∧
      AccessJournal.open? accessLog saved = .ok (s.journals.access, made) ∧
      CoreJournal.open? coreLog made = .ok (s.journals.core, s.disk) := by
  unfold open? at h
  split at h
  · cases h
  · next store saved hstore =>
      split at h
      · cases h
      · next access made haccess =>
          split at h
          · cases h
          · next core written hcore =>
              cases h
              exact ⟨saved, made, hstore, haccess, hcore⟩

theorem sound_of_openJournal {α : Type} {journal : α} {path : Path} {d made : Disk}
    {pack : Journal × Disk → α × Disk} (hd : d.Sound)
    (h : (Journal.open? path d).map pack = .ok (journal, made)) (hpack : ∀ r, (pack r).2 = r.2) :
    made.Sound := by
  unfold Journal.open? at h
  cases hopen : d.openAppend path with
  | error e =>
      rw [hopen] at h
      cases h
  | ok opened =>
      rw [hopen] at h
      have hmade : opened.1 = made := (hpack _).symm.trans (congrArg Prod.snd (Except.ok.inj h))
      rw [← hmade]
      exact hd.openAppend hopen

def sampleOpening : Except OpenError Surface × Disk :=
  open? Store.sampleStore.path (Bytes.ofAscii "access.log") (Bytes.ofAscii "core.log")
    (.start 5000 []) Store.sampleDisk

theorem isSome_sampleOpening : sampleOpening.1.toOption.isSome = true := by decide +kernel

def sampleSurface : Surface := sampleOpening.1.toOption.get isSome_sampleOpening

theorem sampleOpening_eq : sampleOpening = (.ok sampleSurface, sampleOpening.2) := by
  have hget : sampleOpening.1.toOption = some sampleSurface := (Option.some_get _).symm
  cases hopening : sampleOpening.1 with
  | error e =>
      rw [hopening] at hget
      cases hget
  | ok s =>
      rw [hopening] at hget
      cases hget
      exact Prod.ext hopening rfl

theorem works_sampleSurface : sampleSurface.store.Works sampleSurface.disk := by
  obtain ⟨saved, made, hstore, haccess, hcore⟩ := exists_of_open? sampleOpening_eq
  obtain ⟨-, text, first, hread, hfirst⟩ := Store.exists_document_of_open? hstore
  obtain ⟨-, shown, -, hkeeps⟩ := Store.stores_of_open? Store.sound_sampleDisk hstore hread hfirst
  have hsaved : saved = (Store.open? Store.sampleStore.path Store.sampleDisk).2 := by rw [hstore]
  have hsound : sampleSurface.disk.Sound :=
    sound_of_openJournal (sound_of_openJournal hkeeps.sound haccess fun _ => rfl) hcore fun _ => rfl
  have huntouched : sampleSurface.store.Untouched saved sampleSurface.disk := by
    rw [hsaved]
    exact ⟨hsound, by decide +kernel, by decide +kernel, by decide +kernel⟩
  exact (hkeeps.untouched huntouched).works

/-- An upload that is no object, and some time after it. -/
def sampleEvents (ms : Nat) : List Event := [.tick ms, .upload "[]" false]

/-- An object with a field twice, and one that is not allowed. -/
def sampleUpload : String :=
  "\x7b\"stats\":1, \"motd\" : 2,\"log\": \x7b \x7d ,\"stats\":[ 3 ]\x7d"

theorem leads_sampleEvents (ms : Nat) :
    sampleSurface.Leads (sampleEvents ms) (sampleSurface.after (sampleEvents ms)) :=
  .step (.step .refl trivial) trivial

theorem works_sampleEvents (ms : Nat) : (sampleSurface.after (sampleEvents ms)).store.Works
    (sampleSurface.after (sampleEvents ms)).disk := by
  have hstore : (sampleSurface.upload "[]" false).2.store = sampleSurface.store := by decide +kernel
  have hdisk : (sampleSurface.upload "[]" false).2.disk = sampleSurface.disk := by decide +kernel
  have hworks : (sampleSurface.upload "[]" false).2.store.Works
      (sampleSurface.upload "[]" false).2.disk := by
    rw [hstore, hdisk]
    exact works_sampleSurface
  exact hworks

theorem now_sampleEvents (ms : Nat) : (sampleSurface.after (sampleEvents ms)).now = ms := by
  have hstart : (sampleSurface.upload "[]" false).2.now = 0 := by decide +kernel
  change (sampleSurface.upload "[]" false).2.now + ms = ms
  rw [hstart, Nat.zero_add]

theorem tooEarly_sampleEvents_iff (ms : Nat) :
    TooEarly sampleSurface (sampleEvents ms) (sampleSurface.after (sampleEvents ms)) ↔
      ms < callInterval := by
  have hlast : lastAdmitted callInterval (sampleSurface.moments .upload (sampleEvents ms)) = some 0 := by
    change lastAdmitted callInterval (sampleSurface.moments .upload [.upload "[]" false]) = some 0
    decide +kernel
  unfold TooEarly
  rw [hlast, now_sampleEvents]
  simp

/-- An upload that is no object counts. The next one is refused until the interval is over, and then
replaces the settings. -/
theorem upload_replaces_or_refuses_afterInvalid :
    (sampleSurface.after (sampleEvents 4999)).upload sampleUpload true =
      (.error .tooManyRequests, sampleSurface.after (sampleEvents 4999)) ∧
    (∃ fault, (sampleSurface.after (sampleEvents 5000)).upload "[" true =
      (.error (.invalidConfig fault),
        { sampleSurface.after (sampleEvents 5000) with uploads := ⟨callInterval, some 5000⟩ })) ∧
    ((sampleSurface.after (sampleEvents 5000)).upload sampleUpload true).1 = .ok () ∧
    ∃ fields, ObjectText fields (Utf8.encode sampleUpload) ∧
      ((sampleSurface.after (sampleEvents 5000)).upload sampleUpload true).2.Shows fields := by
  have hopened : sampleSurface.Opened := ⟨_, _, _, _, _, _, sampleOpening_eq⟩
  have hlate : ¬ TooEarly sampleSurface (sampleEvents 5000) (sampleSurface.after (sampleEvents 5000)) := by
    rw [tooEarly_sampleEvents_iff]
    decide
  obtain ⟨fields, htext⟩ : ∃ fields, ObjectText fields (Utf8.encode sampleUpload) :=
    Document.exists_objectText_iff.2 (by decide +kernel)
  have hbad : ¬ ∃ fields, ObjectText fields (Utf8.encode "[") := by
    rw [Document.exists_objectText_iff]
    decide +kernel
  have hdone := ((leads_sampleEvents 5000).upload_replaces_or_refuses hopened
    (works_sampleEvents 5000) sampleUpload true).2.2 hlate fields htext
  refine ⟨?_, ?_, ?_, fields, htext, hdone.1⟩
  · exact ((leads_sampleEvents 4999).upload_replaces_or_refuses hopened (works_sampleEvents 4999)
      sampleUpload true).1 ((tooEarly_sampleEvents_iff 4999).2 (by decide))
  · have hrefused := ((leads_sampleEvents 5000).upload_replaces_or_refuses hopened
      (works_sampleEvents 5000) "[" true).2.1 hlate hbad
    rwa [now_sampleEvents] at hrefused
  · exact (hdone.2.taken rfl (by decide +kernel)).1

end ProxyWarden.Surface

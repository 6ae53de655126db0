import ProxyWarden.Proofs.Supervisor.Tokens

/-!
# Crashes and the restarts after them

A run that fails asks for a restart through the same queue as everybody else, and its request is
dropped if another one waits. `Vigilant` says why nothing is lost by that, and why the restart after
a crash hits nobody else: a failure of the latest run is always being seen to, and a restart after a
crash is only under way while the run of the latest attempt is the one that failed.
-/
namespace ProxyWarden.Supervisor

def CoreRun.Failed (r : CoreRun) : Prop := ∃ e, r.outcome = some (.error e)

theorem CoreRun.Failed.returned {r : CoreRun} (h : r.Failed) : r.returned = true := by
  obtain ⟨e, he⟩ := h
  simp [CoreRun.returned, he]

/-- The run of the latest attempt returned an error. -/
def LatestFailed (s : Supervisor) : Prop := ∃ r ∈ s.runs, r.attempt = s.attempt ∧ r.Failed

/-- A restart after a crash waits in the queue or is being waited for. -/
def CrashPending (s : Supervisor) : Prop := s.queue = some .crash ∨ s.BackingOff

/-- After a failure of the latest run a restart is under way, and a restart after a crash is under
way only once and only for such a failure. -/
structure Vigilant (s : Supervisor) : Prop where
  noticed : s.cancelled = false → s.LatestFailed → s.queue.isSome = true ∨ s.BackingOff
  founded : s.CrashPending → s.working = false ∧ 1 ≤ s.crashes ∧ s.LatestFailed
  single : s.queue = some .crash → ¬ s.BackingOff

theorem or_manual_eq_crash {q : Option RestartKind} (h : q.or (some .manual) = some .crash) :
    q = some .crash := by
  cases q with
  | none => cases h
  | some kind => exact h

/-! ## Where the failed run is -/

theorem latestFailed_map {s t : Supervisor} {f : CoreRun → CoreRun} (h : s.LatestFailed)
    (hruns : t.runs = s.runs.map f) (hattempt : t.attempt = s.attempt)
    (hf : ∀ r, (f r).attempt = r.attempt) (ho : ∀ r, r.Failed → (f r).Failed) :
    t.LatestFailed := by
  obtain ⟨r, hr, hra, hfailed⟩ := h
  refine ⟨f r, ?_, ?_, ho r hfailed⟩
  · rw [hruns]
    exact List.mem_map_of_mem hr
  · rw [hf, hra, hattempt]

theorem LatestFailed.cancel {s : Supervisor} (h : s.LatestFailed) : s.cancel.LatestFailed :=
  latestFailed_map h rfl rfl (fun _ => rfl) fun _ hr => hr

theorem LatestFailed.stopActive {s : Supervisor} (h : s.LatestFailed) :
    s.stopActive.LatestFailed := by
  refine latestFailed_map h rfl rfl (CoreRun.attempt_stopIf s.active) ?_
  rintro r ⟨e, he⟩
  exact ⟨e, (CoreRun.outcome_stopIf s.active r).trans he⟩

theorem latestFailed_record_iff {s : Supervisor} {attempt : Nat}
    {result : Except DispatchError Unit} (ha : attempt ≠ s.attempt) :
    (s.record attempt result).LatestFailed ↔ s.LatestFailed := by
  constructor
  · rintro ⟨r, hr, hra, hfailed⟩
    obtain ⟨q, hq, rfl⟩ := List.mem_map.1 hr
    rw [CoreRun.attempt_noteIf] at hra
    have hqa : q.attempt ≠ attempt := fun hqa => ha (hqa.symm.trans hra)
    rw [CoreRun.noteIf, if_neg hqa] at hfailed
    exact ⟨q, hq, hra, hfailed⟩
  · rintro ⟨r, hr, hra, hfailed⟩
    refine ⟨r, List.mem_map.2 ⟨r, hr, ?_⟩, hra, hfailed⟩
    rw [CoreRun.noteIf, if_neg (by rw [hra]; exact ha.symm)]

theorem latestFailed_record_latest_iff {s : Supervisor} {result : Except DispatchError Unit}
    (hstarted : ∃ r ∈ s.runs, r.attempt = s.attempt) :
    (s.record s.attempt result).LatestFailed ↔ ∃ e, result = .error e := by
  constructor
  · rintro ⟨r, hr, hra, e, hfailed⟩
    obtain ⟨q, hq, rfl⟩ := List.mem_map.1 hr
    rw [CoreRun.attempt_noteIf] at hra
    change q.attempt = s.attempt at hra
    rw [CoreRun.noteIf, if_pos hra] at hfailed
    exact ⟨e, Option.some.inj hfailed⟩
  · rintro ⟨e, rfl⟩
    obtain ⟨r, hr, hra⟩ := hstarted
    refine ⟨{ r with outcome := some (.error e) }, List.mem_map.2 ⟨r, hr, ?_⟩, hra, e, rfl⟩
    rw [CoreRun.noteIf, if_pos hra]

/-- A run returns once: the run that returns now is not the one that has failed. -/
theorem Orderly.ne_of_latestFailed {s : Supervisor} (h : Orderly s) (hfailed : s.LatestFailed)
    {attempt : Nat} {result : Except DispatchError Unit}
    (he : (Event.finish attempt result).Enabled s) : attempt ≠ s.attempt := by
  obtain ⟨r, hr, hra, hrf⟩ := hfailed
  obtain ⟨q, hq, hqa, hopen⟩ := he
  rintro rfl
  have hsame : q = r := h.ordered.eq_of_attempt_eq hq hr (hqa.trans hra.symm)
  rw [hsame, hrf.returned] at hopen
  cases hopen

theorem Orderly.not_latestFailed_restart {s : Supervisor} (h : Orderly s) (kind : RestartKind)
    (load : Except StoreError Document) : ¬ (s.restart kind load).LatestFailed := by
  have hold : ∀ r ∈ s.stopActive.runs, r.attempt ≠ s.attempt + 1 := by
    intro r hr
    have hle := h.ordered_stopActive.attempt_le r hr
    omega
  rintro ⟨r, hr, hra, e, he⟩
  cases load with
  | error _ => exact hold r hr hra
  | ok document =>
      rcases List.mem_cons.1 hr with rfl | hr
      · cases he
      · exact hold r hr hra

/-! ## What changes keep -/

namespace Vigilant

variable {s : Supervisor}

theorem start : Vigilant Supervisor.start where
  noticed := by
    rintro _ ⟨r, hr, _⟩
    cases hr
  founded := by
    rintro (hq | ⟨due, hdue⟩)
    · cases hq
    · cases hdue
  single hq := by cases hq

theorem restart (ho : Orderly s) (hp : s.phase = .idle) (hq : s.queue ≠ some .crash)
    (kind : RestartKind) (load : Except StoreError Document) :
    Vigilant (s.restart kind load) := by
  have hidle : ¬ (s.restart kind load).BackingOff :=
    not_backingOff_of_idle ((phase_restart s kind load).trans hp)
  exact {
    noticed := fun _ hfailed => absurd hfailed (ho.not_latestFailed_restart kind load)
    founded := by
      rintro (hcrash | hwait)
      · rw [queue_restart] at hcrash
        exact absurd hcrash hq
      · exact absurd hwait hidle
    single := fun _ => hidle }

theorem close (h : Vigilant s) (hc : s.cancelled = true) : Vigilant s.close := by
  have hidle : ¬ s.close.BackingOff := not_backingOff_of_isClosed rfl
  exact {
    noticed := by
      intro hn _
      cases hc.symm.trans hn
    founded := by
      rintro (hcrash | hwait)
      · obtain ⟨hworking, hcrashes, hfailed⟩ := h.founded (.inl hcrash)
        exact ⟨hworking, hcrashes, hfailed.stopActive⟩
      · exact absurd hwait hidle
    single := fun _ => hidle }

theorem cancel (h : Vigilant s) : Vigilant s.cancel where
  noticed hn := by cases hn
  founded hpending := by
    obtain ⟨hworking, hcrashes, hfailed⟩ := h.founded hpending
    exact ⟨hworking, hcrashes, hfailed.cancel⟩
  single := h.single

/-- A run that returns now has not failed before, so no restart after a crash is under way if it is
the run of the latest attempt. -/
theorem not_crashPending (h : Vigilant s) (ho : Orderly s) {result : Except DispatchError Unit}
    (he : (Event.finish s.attempt result).Enabled s) : ¬ s.CrashPending :=
  fun hpending => ho.ne_of_latestFailed (h.founded hpending).2.2 he rfl

theorem record (h : Vigilant s) (ho : Orderly s) {attempt : Nat}
    {result : Except DispatchError Unit} (he : (Event.finish attempt result).Enabled s)
    (hc : s.counts attempt = false) : Vigilant (s.record attempt result) where
  noticed hn hfailed := by
    have ha : attempt ≠ s.attempt := by
      rintro rfl
      have hclosed : s.isClosed = true := by simpa [counts] using hc
      cases (ho.closing hclosed).1.symm.trans hn
    exact h.noticed hn ((latestFailed_record_iff ha).1 hfailed)
  founded hpending := by
    obtain ⟨hworking, hcrashes, hfailed⟩ := h.founded hpending
    have ha := ho.ne_of_latestFailed hfailed he
    exact ⟨hworking, hcrashes, (latestFailed_record_iff ha).2 hfailed⟩
  single := h.single

theorem succeeded (h : Vigilant s) (ho : Orderly s) {u : Unit}
    (he : (Event.finish s.attempt (.ok u)).Enabled s) :
    Vigilant { s.record s.attempt (.ok u) with working := true, crashes := 0 } where
  noticed _ hfailed := by
    obtain ⟨r, hr, hra, -⟩ := he
    obtain ⟨e, he⟩ := (latestFailed_record_latest_iff ⟨r, hr, hra⟩).1 hfailed
    cases he
  founded hpending := absurd hpending (h.not_crashPending ho he)
  single := h.single

theorem failed (h : Vigilant s) (ho : Orderly s) {e : DispatchError}
    (he : (Event.finish s.attempt (.error e)).Enabled s) (hopen : s.isClosed = false) :
    Vigilant { s.record s.attempt (.error e) with
      working := false
      crashes := min (s.crashes + 1) maxCrashes
      queue := if s.accepts then s.queue.or (some .crash) else s.queue } := by
  have haccepts : s.accepts = true := by simp [accepts, hopen, ho.present]
  have hidle : ¬ s.BackingOff := fun hwait => h.not_crashPending ho he (.inr hwait)
  have hmax : 1 ≤ min (s.crashes + 1) maxCrashes := by
    have hword : 1 ≤ maxCrashes := by decide
    omega
  -- If another request keeps that of the failed run out, that one will do.
  refine { noticed := ?_, founded := ?_, single := fun _ => hidle }
  · intro _ _
    simp [haccepts]
  · intro _
    obtain ⟨r, hr, hra, -⟩ := he
    exact ⟨rfl, hmax, (latestFailed_record_latest_iff ⟨r, hr, hra⟩).2 ⟨e, rfl⟩⟩

theorem change (h : Vigilant s) (ho : Orderly s) {t : Supervisor} {e : Event} (he : e.Enabled s)
    (hc : Change s e t) : Vigilant t := by
  cases hc with
  | asked _ =>
      exact {
        noticed := fun _ _ => .inl (by simp)
        founded := fun hpending => h.founded (hpending.imp_left or_manual_eq_crash)
        single := fun hq => h.single (or_manual_eq_crash hq) }
  | refused _ => exact h
  | cancelled => exact h.cancel
  | ticked ms => exact { h with }
  | rested load _ => exact h
  | closed load _ hcancelled => exact h.close hcancelled
  | served load hp _ _ =>
      have hs : Orderly { s with queue := none } := { ho with }
      exact Vigilant.restart hs hp (by simp) .manual load
  | delayed load hp _ hq =>
      exact {
        noticed := fun _ _ => .inr ⟨_, rfl⟩
        founded := fun _ => h.founded (.inl hq)
        single := by
          intro hq'
          cases hq' }
  | resumed load due hp _ _ =>
      -- Only a request from outside can have come in during the wait.
      have hq : s.queue ≠ some .crash := fun hq => h.single hq ⟨due, hp⟩
      exact Vigilant.restart ho.wake rfl hq .crash load
  | drained load hp _ =>
      have hclosed : s.isClosed = true := by simp [isClosed, hp]
      have hidle : ¬ BackingOff { s with phase := .ended } :=
        not_backingOff_of_isClosed rfl
      exact {
        noticed := by
          intro hn _
          cases (ho.closing hclosed).1.symm.trans hn
        founded := fun hpending => h.founded (.inl (hpending.resolve_right hidle))
        single := fun _ => hidle }
  | ignored a result hcounts => exact h.record ho he hcounts
  | succeeded a u hcounts =>
      obtain ⟨rfl, -⟩ := counts_iff.1 hcounts
      exact h.succeeded ho he
  | failed a error hcounts =>
      obtain ⟨rfl, hopen⟩ := counts_iff.1 hcounts
      exact h.failed ho he hopen

end Vigilant

theorem Reachable.vigilant {es : List Event} {s : Supervisor} (h : Reachable es s) :
    Vigilant s := by
  have hboth := Leads.keeps (P := fun u => Orderly u ∧ Vigilant u) h
    ⟨Orderly.start, Vigilant.start⟩ fun hu he hc => ⟨hu.1.change hc, hu.2.change hu.1 he hc⟩
  exact hboth.2

/-! ## No failure is lost, and none but a failed run is hit -/

/-- A failure is never forgotten: until the whole program is told to stop, either a request waits or
the time after the crash is waited out. -/
theorem Reachable.failure_seen_to {es : List Event} {s : Supervisor} (h : Reachable es s)
    (hc : s.cancelled = false) (hfailed : s.LatestFailed) :
    s.queue.isSome = true ∨ s.BackingOff :=
  h.vigilant.noticed hc hfailed

def failureBehindRequest : List Event :=
  [.finish 1 (.error (.missingPipe "stdout")), .request, .poll (.ok .empty), .request]

theorem failure_seen_to_failureBehindRequest :
    Reachable failureBehindRequest (Supervisor.start.after failureBehindRequest) ∧
      (Supervisor.start.after failureBehindRequest).LatestFailed ∧
      ((Supervisor.start.after failureBehindRequest).queue.isSome = true ∨
        (Supervisor.start.after failureBehindRequest).BackingOff) := by
  have h : Reachable failureBehindRequest (Supervisor.start.after failureBehindRequest) :=
    .step (.step (.step (.step .refl trivial) trivial) trivial) ⟨_, .head _, rfl, rfl⟩
  have hfailed : (Supervisor.start.after failureBehindRequest).LatestFailed :=
    ⟨_, .head _, rfl, _, rfl⟩
  exact ⟨h, hfailed, Reachable.failure_seen_to h rfl hfailed⟩

/-- The change from one state to another tells the run to stop. -/
def Stops (s t : Supervisor) (r : CoreRun) : Prop :=
  r ∈ s.runs ∧ r.cancelled = false ∧ ∃ q ∈ t.runs, q.attempt = r.attempt ∧ q.cancelled = true

/-- While a restart after a crash is under way the core is down, and no run is left that could be
hit. So no turn in which such a restart goes on or comes to its end stops a run that has not
failed. -/
theorem Reachable.crash_restart_stops_failed {es : List Event} {s : Supervisor}
    (h : Reachable es s) (hp : s.CrashPending) :
    s.working = false ∧ 1 ≤ s.crashes ∧ (∀ r ∈ s.runs, r.live = false) ∧
      ∀ load r, s.Stops (s.poll load) r → r.Failed := by
  have ho := h.orderly
  obtain ⟨hworking, hcrashes, q, hq, hqa, hfailed⟩ := h.vigilant.founded hp
  have hlast : ∀ r ∈ s.runs, r.cancelled = false → r = q := by
    intro r hr hrc
    have hra : r.attempt = s.attempt := by
      by_contra hne
      rw [ho.ordered.superseded r hr hne] at hrc
      cases hrc
    exact ho.ordered.eq_of_attempt_eq hr hq (hra.trans hqa.symm)
  refine ⟨hworking, hcrashes, ?_, ?_⟩
  · intro r hr
    unfold CoreRun.live
    cases hrc : r.cancelled with
    | true => simp
    | false =>
        rw [hlast r hr hrc, hfailed.returned]
        rfl
  · rintro load r ⟨hr, hrc, -⟩
    rw [hlast r hr hrc]
    exact hfailed

def crashBesideSuperseded : List Event :=
  [.poll (.ok .empty), .finish 2 (.error (.missingPipe "stdout")), .poll (.ok .empty), .request,
    .poll (.ok .empty), .request]

theorem crash_restart_stops_failed_crashBesideSuperseded :
    Reachable crashBesideSuperseded (Supervisor.start.after crashBesideSuperseded) ∧
      (Supervisor.start.after crashBesideSuperseded).CrashPending ∧
      (Supervisor.start.after crashBesideSuperseded).runs.length = 2 ∧
      ∀ r ∈ (Supervisor.start.after crashBesideSuperseded).runs, r.live = false := by
  have h : Reachable crashBesideSuperseded (Supervisor.start.after crashBesideSuperseded) :=
    .step (.step (.step (.step (.step (.step .refl trivial) trivial) trivial) trivial)
      ⟨_, .head _, rfl, rfl⟩) trivial
  have hp : (Supervisor.start.after crashBesideSuperseded).CrashPending := .inr ⟨_, rfl⟩
  exact ⟨h, hp, rfl, (Reachable.crash_restart_stops_failed h hp).2.2.1⟩

end ProxyWarden.Supervisor

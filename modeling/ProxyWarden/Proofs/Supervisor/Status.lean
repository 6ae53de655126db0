import ProxyWarden.Proofs.Supervisor.Requests

/-!
# The status of the core

Runs return in any order and long after they were superseded, and an attempt whose load fails starts
no run at all. What is told of the core is nevertheless about the latest attempt and nothing else.
`Faithful` compares the state with its history. A change that could make a difference is an attempt
or a return that counts; all others are `Calm` and leave both sides of the comparison alone.
-/
namespace ProxyWarden.Supervisor

/-- In the course of the events the run of an attempt returned an error, and the supervisor had not
closed by then. -/
def FailedIn (s : Supervisor) (attempt : Nat) : List Event → Prop
  | [] => False
  | e :: es =>
    ((∃ error, e = .finish attempt (.error error)) ∧ (s.after es).isClosed = false) ∨
      s.FailedIn attempt es

def Launched (s : Supervisor) : Prop := ∃ r ∈ s.runs, r.attempt = s.attempt

namespace CoreRun

theorem returned_stopIf (active : Option Nat) (r : CoreRun) :
    (r.stopIf active).returned = r.returned := by
  rw [returned, outcome_stopIf, returned]

theorem returned_noteIf (attempt : Nat) (result : Except DispatchError Unit) {r : CoreRun}
    (h : r.returned = true) : (r.noteIf attempt result).returned = true := by
  unfold noteIf
  split
  · rfl
  · exact h

end CoreRun

/-! ## The runs that were there before -/

/-- The runs are those of another list, none of which is open again. -/
def Carried (runs later : List CoreRun) : Prop :=
  ∃ f : CoreRun → CoreRun, later = runs.map f ∧ (∀ r, (f r).attempt = r.attempt) ∧
    ∀ r, r.returned = true → (f r).returned = true

section
variable {s t : Supervisor} {e : Event}

theorem carried_refl (runs : List CoreRun) : Carried runs runs :=
  ⟨id, by rw [List.map_id], fun _ => rfl, fun _ h => h⟩

theorem carried_stopActive (s : Supervisor) : Carried s.runs s.stopActive.runs := by
  refine ⟨_, rfl, CoreRun.attempt_stopIf s.active, ?_⟩
  intro r hr
  rw [CoreRun.returned_stopIf, hr]

theorem carried_record (s : Supervisor) (attempt : Nat) (result : Except DispatchError Unit) :
    Carried s.runs (s.record attempt result).runs :=
  ⟨_, rfl, CoreRun.attempt_noteIf attempt result, fun _ => CoreRun.returned_noteIf attempt result⟩

theorem Carried.returned {runs later : List CoreRun} (h : Carried runs later) {attempt : Nat}
    (hr : ∀ r ∈ runs, r.attempt = attempt → r.returned = true) :
    ∀ r ∈ later, r.attempt = attempt → r.returned = true := by
  obtain ⟨f, rfl, hattempt, hreturned⟩ := h
  rw [List.forall_mem_map]
  intro r hmem ha
  exact hreturned r (hr r hmem ((hattempt r).symm.trans ha))

theorem Carried.launched_iff (h : Carried s.runs t.runs) (ha : t.attempt = s.attempt) :
    t.Launched ↔ s.Launched := by
  obtain ⟨f, hruns, hattempt, -⟩ := h
  unfold Launched
  rw [hruns, ha]
  constructor
  · rintro ⟨r, hr, hra⟩
    obtain ⟨q, hq, rfl⟩ := List.mem_map.1 hr
    exact ⟨q, hq, (hattempt q).symm.trans hra⟩
  · rintro ⟨r, hr, hra⟩
    exact ⟨f r, List.mem_map_of_mem hr, (hattempt r).trans hra⟩

/-! ## Three kinds of changes -/

/-- The run of the latest attempt, what is told of the core and the start that it goes back to are
the same. -/
structure Calm (s t : Supervisor) : Prop where
  attempt : t.attempt = s.attempt
  working : t.working = s.working
  lastStart : t.lastStart = s.lastStart
  now_le : s.now ≤ t.now
  runs : Carried s.runs t.runs

/-- An attempt with what the load of the document gave in it. -/
structure Attempted (s t : Supervisor) (load : Except StoreError Document) : Prop where
  attempt : t.attempt = s.attempt + 1
  working : t.working = load.toOption.isSome
  lastStart : load.toOption.isSome = true → t.lastStart = some s.now
  now : t.now = s.now
  runs : t.runs = (load.toOption.map fun document =>
    CoreRun.mk (s.attempt + 1) document s.cancelled none).toList ++ s.stopActive.runs

/-- The run of the latest attempt returns. -/
structure Counted (s t : Supervisor) (result : Except DispatchError Unit) : Prop where
  attempt : t.attempt = s.attempt
  working : t.working = result.toOption.isSome
  lastStart : t.lastStart = s.lastStart
  now : t.now = s.now
  runs : t.runs = (s.record s.attempt result).runs

theorem attempted_restart (s : Supervisor) (kind : RestartKind)
    (load : Except StoreError Document) : Attempted s (s.restart kind load) load := by
  cases load with
  | error e => exact { attempt := rfl, working := rfl, lastStart := by simp [Except.toOption]
                       now := rfl, runs := rfl }
  | ok document => exact { attempt := rfl, working := rfl, lastStart := fun _ => rfl
                           now := rfl, runs := rfl }

theorem Change.kind (h : Change s e t) :
    (∃ load, s.loadOf? e = some load ∧ Attempted s t load) ∨
      (s.isClosed = false ∧ ∃ result, e = .finish s.attempt result ∧ Counted s t result) ∨
      (s.loadOf? e = none ∧ Calm s t ∧
        ∀ result, e = .finish s.attempt result → s.isClosed = true) := by
  cases h with
  | served load hp hc hq =>
      have hl : s.loads = true := by simp [loads, hp, hc, hq]
      exact .inl ⟨load, by simp [loadOf?, hl], { attempted_restart _ .manual load with }⟩
  | resumed load due hp hc hd =>
      have hl : s.loads = true := by simp [loads, hp, hc, hd]
      exact .inl ⟨load, by simp [loadOf?, hl], { attempted_restart _ .crash load with }⟩
  | succeeded attempt u hcounts =>
      obtain ⟨rfl, hopen⟩ := counts_iff.1 hcounts
      exact .inr (.inl ⟨hopen, _, rfl, rfl, rfl, rfl, rfl, rfl⟩)
  | failed attempt error hcounts =>
      obtain ⟨rfl, hopen⟩ := counts_iff.1 hcounts
      exact .inr (.inl ⟨hopen, _, rfl, rfl, rfl, rfl, rfl, rfl⟩)
  | ignored attempt result hcounts =>
      refine .inr (.inr ⟨rfl, ⟨rfl, rfl, rfl, Nat.le_refl _, carried_record s attempt result⟩, ?_⟩)
      rintro result' ⟨⟩
      simpa [counts] using hcounts
  | closed load hp hc =>
      have hl : s.loads = false := by simp [loads, hc]
      exact .inr (.inr ⟨by simp [loadOf?, hl],
        ⟨rfl, rfl, rfl, Nat.le_refl _, carried_stopActive s⟩, by simp⟩)
  | cancelled =>
      exact .inr (.inr ⟨rfl, ⟨rfl, rfl, rfl, Nat.le_refl _, _, rfl, fun _ => rfl, fun _ hr => hr⟩,
        by simp⟩)
  | asked _ | refused _ =>
      exact .inr (.inr ⟨rfl, ⟨rfl, rfl, rfl, Nat.le_refl _, carried_refl _⟩, by simp⟩)
  | ticked ms =>
      exact .inr (.inr ⟨rfl, ⟨rfl, rfl, rfl, Nat.le_add_right _ ms, carried_refl _⟩, by simp⟩)
  | rested load hl =>
      exact .inr (.inr ⟨by simp [loadOf?, hl], ⟨rfl, rfl, rfl, Nat.le_refl _, carried_refl _⟩,
        by simp⟩)
  | delayed load hp hc hq =>
      have hl : s.loads = false := by simp [loads, hp, hq]
      exact .inr (.inr ⟨by simp [loadOf?, hl], ⟨rfl, rfl, rfl, Nat.le_refl _, carried_refl _⟩,
        by simp⟩)
  | drained load hp hr =>
      have hl : s.loads = false := by simp [loads, hp]
      exact .inr (.inr ⟨by simp [loadOf?, hl], ⟨rfl, rfl, rfl, Nat.le_refl _, carried_refl _⟩,
        by simp⟩)

end

/-! ## Failures that were seen -/

theorem runs_finish (s : Supervisor) (attempt : Nat) (result : Except DispatchError Unit) :
    (s.finish attempt result).runs = (s.record attempt result).runs := by
  cases hc : s.counts attempt with
  | false => rw [finish_of_not_counts hc]
  | true =>
      cases result with
      | ok u => rw [finish_ok hc]
      | error e => rw [finish_error hc]

theorem returned_of_mem_record {s : Supervisor} {attempt : Nat}
    {result : Except DispatchError Unit} :
    ∀ r ∈ (s.record attempt result).runs, r.attempt = attempt → r.returned = true := by
  unfold record
  rw [List.forall_mem_map]
  intro r _ ha
  rw [CoreRun.attempt_noteIf] at ha
  rw [CoreRun.noteIf, if_pos ha]
  rfl

theorem Attempted.mem_runs {s t : Supervisor} {load : Except StoreError Document}
    (h : Attempted s t load) {r : CoreRun} (hr : r ∈ t.runs) :
    r.attempt = s.attempt + 1 ∨ r ∈ s.stopActive.runs := by
  rw [h.runs, List.mem_append] at hr
  rcases hr with hr | hr
  · cases load with
    | error _ => cases hr
    | ok document =>
        cases List.mem_singleton.1 hr
        exact .inl rfl
  · exact .inr hr

/-- A run whose failure was seen has returned, and is of no attempt to come. -/
theorem Reachable.returned_of_failedIn {es : List Event} {s : Supervisor} (h : Reachable es s)
    {attempt : Nat} (hf : start.FailedIn attempt es) :
    attempt ≤ s.attempt ∧ ∀ r ∈ s.runs, r.attempt = attempt → r.returned = true := by
  induction h with
  | refl => cases hf
  | @step es s e h he ih =>
      have ho : Orderly s := Reachable.orderly h
      have hkind := (change_step s e).kind
      rcases hf with ⟨⟨error, rfl⟩, -⟩ | hf
      · obtain ⟨q, hq, hqa, -⟩ := he
        have hle : attempt ≤ s.attempt := hqa ▸ ho.ordered.attempt_le q hq
        refine ⟨?_, ?_⟩
        · rcases hkind with ⟨load, hl, -⟩ | ⟨-, result, -, hc⟩ | ⟨-, hcalm, -⟩
          · cases hl
          · exact hc.attempt ▸ hle
          · exact hcalm.attempt ▸ hle
        · change ∀ r ∈ (s.finish attempt (.error error)).runs, r.attempt = attempt → _
          rw [runs_finish]
          exact returned_of_mem_record
      · obtain ⟨hle, hreturned⟩ := ih hf
        rcases hkind with ⟨load, -, ha⟩ | ⟨-, result, -, hc⟩ | ⟨-, hcalm, -⟩
        · refine ⟨ha.attempt ▸ Nat.le_succ_of_le hle, ?_⟩
          intro r hr hra
          rcases ha.mem_runs hr with hnew | hold
          · omega
          · exact (carried_stopActive s).returned hreturned r hold hra
        · refine ⟨hc.attempt ▸ hle, ?_⟩
          rw [hc.runs]
          exact (carried_record s s.attempt result).returned hreturned
        · exact ⟨hcalm.attempt ▸ hle, hcalm.runs.returned hreturned⟩

/-! ## The state beside its history -/

/-- What the state holds of the latest attempt is what its history says. -/
structure Faithful (es : List Event) (s : Supervisor) : Prop where
  launched : s.Launched ↔
    ∃ a document, (start.attempts es).head? = some a ∧ a.load = .ok document
  lastStart : s.Launched →
    ∃ a, (start.attempts es).head? = some a ∧ s.lastStart = some a.moment ∧ a.moment ≤ s.now
  working : s.working = true ↔ s.Launched ∧ ¬ start.FailedIn s.attempt es

namespace Faithful

variable {s t : Supervisor} {es : List Event} {e : Event}

theorem start : Faithful [] Supervisor.start where
  launched := by simp [Launched, Supervisor.start, attempts]
  lastStart := by simp [Launched, Supervisor.start]
  working := by simp [Launched, Supervisor.start]

theorem attempts_cons (h : Reachable es s) (e : Event) : Supervisor.start.attempts (e :: es) =
    ((s.loadOf? e).map (Attempt.mk s.now)).toList ++ Supervisor.start.attempts es :=
  Leads.attempts_cons h e

theorem attempted {load : Except StoreError Document} (hr : Reachable es s)
    (hl : s.loadOf? e = some load) (ht : Attempted s t load) : Faithful (e :: es) t := by
  have hhead : (Supervisor.start.attempts (e :: es)).head? = some ⟨s.now, load⟩ := by
    rw [attempts_cons hr, hl]
    rfl
  have hlaunched : t.Launched ↔ ∃ document, load = .ok document := by
    unfold Launched
    rw [ht.attempt]
    constructor
    · rintro ⟨r, hmem, hra⟩
      cases load with
      | ok document => exact ⟨document, rfl⟩
      | error error =>
          -- All other runs are of earlier attempts.
          rw [ht.runs] at hmem
          have hle := hr.orderly.ordered_stopActive.attempt_le r hmem
          omega
    · rintro ⟨document, rfl⟩
      refine ⟨⟨s.attempt + 1, document, s.cancelled, none⟩, ?_, rfl⟩
      rw [ht.runs]
      exact List.mem_cons_self
  have hunseen : ¬ Supervisor.start.FailedIn t.attempt (e :: es) := by
    rintro (⟨⟨error, rfl⟩, -⟩ | hf)
    · cases hl
    · have hle := (hr.returned_of_failedIn hf).1
      rw [ht.attempt] at hle
      omega
  refine { launched := ?_, lastStart := ?_, working := ?_ }
  · rw [hlaunched, hhead]
    simp
  · rintro hstarted
    obtain ⟨document, rfl⟩ := hlaunched.1 hstarted
    exact ⟨_, hhead, ht.lastStart rfl, Nat.le_of_eq ht.now.symm⟩
  · rw [ht.working, hlaunched, and_iff_left hunseen]
    cases load <;> simp [Except.toOption]

theorem counted (h : Faithful es s) {result : Except DispatchError Unit} (hr : Reachable es s)
    (he : (Event.finish s.attempt result).Enabled s) (hopen : s.isClosed = false)
    (ht : Counted s t result) : Faithful (.finish s.attempt result :: es) t := by
  have hlaunched : t.Launched ↔ s.Launched :=
    Carried.launched_iff (ht.runs ▸ carried_record s s.attempt result) ht.attempt
  obtain ⟨q, hq, hqa, hqopen⟩ := he
  have hstarted : s.Launched := ⟨q, hq, hqa⟩
  -- The run returns only once, so no failure of it was seen before.
  have hunseen : ¬ Supervisor.start.FailedIn s.attempt es := by
    intro hf
    have hreturned := (hr.returned_of_failedIn hf).2 q hq hqa
    rw [hqopen] at hreturned
    cases hreturned
  refine { launched := ?_, lastStart := ?_, working := ?_ }
  · rw [hlaunched, attempts_cons hr]
    exact h.launched
  · intro _
    rw [attempts_cons hr, ht.lastStart, ht.now]
    exact h.lastStart hstarted
  · rw [ht.working, ht.attempt, hlaunched, and_iff_right hstarted, FailedIn, or_iff_left hunseen]
    have hafter : (Supervisor.start.after es).isClosed = false := by
      rw [← Leads.eq_after hr]
      exact hopen
    cases result with
    | ok u => simp [Except.toOption]
    | error error => simp [Except.toOption, hafter]

theorem calm (h : Faithful es s) (hr : Reachable es s) (hl : s.loadOf? e = none)
    (he : ∀ result, e = .finish s.attempt result → s.isClosed = true) (ht : Calm s t) :
    Faithful (e :: es) t := by
  have hlaunched := ht.runs.launched_iff ht.attempt
  have hattempts : Supervisor.start.attempts (e :: es) = Supervisor.start.attempts es := by
    rw [attempts_cons hr, hl]
    rfl
  have hfailed : Supervisor.start.FailedIn s.attempt (e :: es) ↔
      Supervisor.start.FailedIn s.attempt es := by
    refine or_iff_right ?_
    rintro ⟨⟨error, herror⟩, hopen⟩
    rw [← Leads.eq_after hr, he _ herror] at hopen
    cases hopen
  refine { launched := ?_, lastStart := ?_, working := ?_ }
  · rw [hlaunched, hattempts]
    exact h.launched
  · intro hstarted
    obtain ⟨a, hhead, hmoment, hle⟩ := h.lastStart (hlaunched.1 hstarted)
    rw [hattempts, ht.lastStart]
    exact ⟨a, hhead, hmoment, Nat.le_trans hle ht.now_le⟩
  · rw [ht.working, ht.attempt, hlaunched, hfailed]
    exact h.working

end Faithful

theorem Reachable.faithful {es : List Event} {s : Supervisor} (h : Reachable es s) :
    Faithful es s := by
  induction h with
  | refl => exact .start
  | @step es s e h he ih =>
      have hr : Reachable es s := h
      rcases (change_step s e).kind with ⟨load, hl, ht⟩ | ⟨hopen, result, rfl, ht⟩ | ⟨hl, ht, hf⟩
      · exact .attempted hr hl ht
      · exact ih.counted hr he hopen ht
      · exact ih.calm hr hl hf ht

/-! ## What is told of the core -/

theorem uptime_of_working {s : Supervisor} (h : s.working = true) {moment : Nat}
    (hl : s.lastStart = some moment) : s.uptime = s.now - moment := by
  simp [uptime, h, hl]

theorem uptime_of_not_working {s : Supervisor} (h : s.working = false) : s.uptime = 0 := by
  simp [uptime, h]

/-- The core is told to work if and only if there was an attempt, the latest one loaded the document
and its run did not return an error before the supervisor closed. The time told is that since this
attempt, or else zero. The return of another run, or of any run after the supervisor has closed,
changes nothing but the list of the runs. -/
theorem Reachable.status_describes_latest {es : List Event} {s : Supervisor}
    (h : Reachable es s) :
    s.attempt = (start.attempts es).length ∧
      (s.working = true ↔
        (∃ a document, (start.attempts es).head? = some a ∧ a.load = .ok document) ∧
          ¬ start.FailedIn s.attempt es) ∧
      (∀ lastLine, (s.status lastLine).working = s.working ∧
        (s.working = true → ∃ a, (start.attempts es).head? = some a ∧ a.moment ≤ s.now ∧
          (s.status lastLine).uptime = s.now - a.moment) ∧
        (s.working = false → (s.status lastLine).uptime = 0)) ∧
      ∀ attempt result, attempt ≠ s.attempt ∨ s.isClosed = true →
        s.step (.finish attempt result) =
          { s with runs := (s.step (.finish attempt result)).runs } := by
  have hf := h.faithful
  refine ⟨?_, ?_, ?_, ?_⟩
  · have hlength : (start.attempts es).length = (start.loaded es).length := by
      rw [← map_load_attempts, List.length_map]
    rw [hlength, h.attempt_eq]
    exact Nat.zero_add _
  · rw [hf.working, hf.launched]
  · intro lastLine
    refine ⟨rfl, ?_, uptime_of_not_working⟩
    intro hworking
    obtain ⟨a, hhead, hmoment, hle⟩ := hf.lastStart (hf.working.1 hworking).1
    exact ⟨a, hhead, hle, uptime_of_working hworking hmoment⟩
  · intro attempt result hother
    have hcounts : s.counts attempt = false := by
      rw [Bool.eq_false_iff, Ne, counts_iff]
      rintro ⟨rfl, hopen⟩
      rcases hother with hne | hclosed
      · exact hne rfl
      · cases hopen.symm.trans hclosed
    change s.finish attempt result = { s with runs := (s.finish attempt result).runs }
    rw [finish_of_not_counts hcounts]
    rfl

def failureOfSuperseded : List Event :=
  [.tick 700, .finish 1 (.error (.missingPipe "stdout")), .poll (.ok renewed), .request, .tick 300,
    .poll (.ok .empty), .request]

theorem status_describes_latest_failureOfSuperseded :
    Reachable failureOfSuperseded (Supervisor.start.after failureOfSuperseded) ∧
      (Supervisor.start.after failureOfSuperseded).working = true ∧
      start.FailedIn 1 failureOfSuperseded ∧
      ((Supervisor.start.after failureOfSuperseded).status "").uptime = 700 := by
  have h : Reachable failureOfSuperseded (Supervisor.start.after failureOfSuperseded) :=
    .step (.step (.step (.step (.step (.step (.step .refl trivial) trivial) trivial) trivial)
      trivial) ⟨_, .tail _ (.head _), rfl, rfl⟩) trivial
  obtain ⟨-, hworking, hstatus, -⟩ := Reachable.status_describes_latest h
  have hworks : (Supervisor.start.after failureOfSuperseded).working = true := by
    refine hworking.2 ⟨⟨_, _, rfl, rfl⟩, ?_⟩
    change ¬ start.FailedIn 2 failureOfSuperseded
    simp [failureOfSuperseded, FailedIn]
  obtain ⟨a, ha, -, huptime⟩ := (hstatus "").2.1 hworks
  cases ha
  exact ⟨h, hworks, .inr (.inl ⟨⟨_, rfl⟩, rfl⟩), huptime⟩

end ProxyWarden.Supervisor

import ProxyWarden.Proofs.Supervisor.Tokens

/-!
# Requests and the attempts they lead to

A request that finds the queue taken is dropped without a word, and its caller is told that all is
well. That is no lie: the request that waits leads to a load of the document later than the dropped
call (`Leads.busy_of_loaded_eq_nil`). The books are kept by `Supervisor.owed`, the attempts still
to come, and `Supervisor.entered`, the requests that found the queue empty: each of these leads to
exactly one attempt, unless the whole program is told to stop (`Leads.attempt_add_owed_eq`).
-/
namespace ProxyWarden.Supervisor

def Event.isRequest : Event → Bool
  | .request => true
  | _ => false

def Event.isPoll : Event → Bool
  | .poll _ => true
  | _ => false

theorem Leads.trans {s t u : Supervisor} {es fs : List Event} (h : Leads s es t)
    (k : Leads t fs u) : Leads s (fs ++ es) u := by
  induction k with
  | refl => exact h
  | step _ he ih => exact .step ih he

theorem leads_request {s asked : Supervisor} (h : s.request = .ok asked) :
    Leads s [.request] asked := by
  have hstep : s.step .request = asked := by simp [step, h, Except.toOption]
  rw [← hstep]
  exact .step .refl trivial

theorem queue_isSome_of_request {s asked : Supervisor} (h : s.request = .ok asked) :
    asked.queue.isSome = true := by
  unfold request at h
  split at h
  · cases h
    simp
  · cases h

/-! ## A request that waits is served -/

/-- A request waits or a wait is not over, unless the whole program was told to stop. -/
def Busy (s : Supervisor) : Prop := s.queue.isSome = true ∨ s.BackingOff ∨ s.cancelled = true

theorem Change.busy {s t : Supervisor} {e : Event} (h : Change s e t) (hs : s.Busy)
    (hl : s.loadOf? e = none) : t.Busy := by
  cases h with
  | asked _ => exact .inl (by simp)
  | refused _ => exact hs
  | cancelled => exact .inr (.inr rfl)
  | ticked _ => exact hs
  | rested _ _ => exact hs
  | closed _ _ hc => exact .inr (.inr hc)
  | served load hp hc hq => simp [loadOf?, loads, hp, hc, hq] at hl
  | delayed _ _ _ _ => exact .inr (.inl ⟨_, rfl⟩)
  | resumed load due hp hc hd => simp [loadOf?, loads, hp, hc, hd] at hl
  | drained load hp _ =>
      rcases hs with hq | ⟨due, hdue⟩ | hc
      · exact .inl hq
      · cases hp.symm.trans hdue
      · exact .inr (.inr hc)
  | ignored _ _ _ => exact hs
  | succeeded _ _ _ => exact hs
  | failed a e _ =>
      rcases hs with hq | hwait
      · refine .inl ?_
        change (if s.accepts then s.queue.or (some .crash) else s.queue).isSome = true
        split <;> simp [hq]
      · exact .inr hwait

/-- A supervisor that is busy stays so until it loads the document. -/
theorem Leads.busy_of_loaded_eq_nil {s t : Supervisor} {es : List Event} (h : Leads s es t)
    (hs : s.Busy) (hl : s.loaded es = []) : t.Busy := by
  induction h with
  | refl => exact hs
  | step h _ ih =>
      rw [h.loaded_cons, List.append_eq_nil_iff] at hl
      have hnone := Option.toList_eq_nil_iff.1 hl.1
      exact (change_step _ _).busy (ih hl.2) hnone

/-! ## One attempt for every request that enters the queue -/

def Phase.owed : Phase → Nat
  | .backingOff _ => 1
  | _ => 0

/-- The attempts that are still to come if nothing more is asked for. -/
def owed (s : Supervisor) : Nat := s.queue.toList.length + s.phase.owed

/-- One if a request came into the empty queue, else none. -/
def entry (s t : Supervisor) : Nat := if s.queue.isNone && t.queue.isSome then 1 else 0

def entered (s : Supervisor) : List Event → Nat
  | [] => 0
  | e :: es => (s.after es).entry (s.after (e :: es)) + s.entered es

theorem Leads.entered_cons {s t : Supervisor} {es : List Event} (h : Leads s es t) (e : Event) :
    s.entered (e :: es) = t.entry (t.step e) + s.entered es := by
  rw [entered, after, ← h.eq_after]

theorem entry_of_queue_eq {s t : Supervisor} (h : t.queue = s.queue) : s.entry t = 0 := by
  unfold entry
  rw [h]
  cases s.queue <;> rfl

theorem attempt_add_owed_of_or {s t : Supervisor} {kind : RestartKind}
    (ha : t.attempt = s.attempt) (hq : t.queue = s.queue.or (some kind))
    (hp : t.phase = s.phase) : t.attempt + t.owed = s.attempt + s.owed + s.entry t := by
  unfold owed entry
  rw [ha, hq, hp]
  cases s.queue with
  | none =>
      simp only [Option.none_or, Option.toList_some, Option.toList_none, List.length_singleton,
        List.length_nil, Option.isNone_none, Option.isSome_some, Bool.and_self, if_true]
      omega
  | some waiting => simp

theorem attempt_add_owed_of_eq {s t : Supervisor} (ha : t.attempt = s.attempt)
    (hq : t.queue = s.queue) (hp : t.phase.owed = s.phase.owed) :
    t.attempt + t.owed = s.attempt + s.owed + s.entry t := by
  rw [entry_of_queue_eq hq, owed, owed, ha, hq, hp]
  rfl

/-- No change makes attempts or owes them but for requests that come into the empty queue. Only the
closing of the supervisor lets it off an attempt. -/
theorem Change.attempt_add_owed {s t : Supervisor} {e : Event} (h : Change s e t) :
    t.attempt + t.owed = s.attempt + s.owed + s.entry t ∨
      (s.cancelled = true ∧ t.attempt + t.owed ≤ s.attempt + s.owed + s.entry t) := by
  cases h with
  | asked _ => exact .inl (attempt_add_owed_of_or rfl rfl rfl)
  | refused _ => exact .inl (attempt_add_owed_of_eq rfl rfl rfl)
  | cancelled => exact .inl (attempt_add_owed_of_eq rfl rfl rfl)
  | ticked ms => exact .inl (attempt_add_owed_of_eq rfl rfl rfl)
  | rested _ _ => exact .inl (attempt_add_owed_of_eq rfl rfl rfl)
  | closed load _ hc =>
      -- What was still owed is let go: a request that waits stays, a wait does not.
      refine .inr ⟨hc, ?_⟩
      have howed : s.close.owed ≤ s.owed := Nat.add_le_add_left (Nat.zero_le _) _
      have hattempt : s.close.attempt = s.attempt := rfl
      omega
  | served load hp _ hq =>
      refine .inl ?_
      have hentry : s.entry ({ s with queue := none }.restart .manual load) = 0 := by
        simp [entry]
      have howed : s.owed = 1 := by simp [owed, hq, hp, Phase.owed]
      have hafter : ({ s with queue := none }.restart .manual load).owed = 0 := by
        simp [owed, hp, Phase.owed]
      rw [hentry, howed, hafter, attempt_restart]
  | delayed load hp _ hq =>
      refine .inl ?_
      have howed : s.owed = 1 := by simp [owed, hq, hp, Phase.owed]
      rw [howed]
      simp [owed, entry, Phase.owed]
  | resumed load due hp _ _ =>
      refine .inl ?_
      have hentry : s.entry ({ s with phase := .idle }.restart .crash load) = 0 :=
        entry_of_queue_eq (queue_restart _ _ _)
      have howed : s.owed = s.queue.toList.length + 1 := by rw [owed, hp]; rfl
      have hafter : ({ s with phase := .idle }.restart .crash load).owed =
          s.queue.toList.length := by
        simp [owed, Phase.owed]
      rw [hentry, howed, hafter, attempt_restart]
      simp only [Nat.add_zero]
      omega
  | drained load hp _ =>
      have hphase : s.phase.owed = 0 := by rw [hp]; rfl
      exact .inl (attempt_add_owed_of_eq rfl rfl hphase.symm)
  | ignored a result _ => exact .inl (attempt_add_owed_of_eq rfl rfl rfl)
  | succeeded a u _ => exact .inl (attempt_add_owed_of_eq rfl rfl rfl)
  | failed a e _ =>
      refine .inl ?_
      by_cases haccepts : s.accepts = true
      · exact attempt_add_owed_of_or rfl (if_pos haccepts) rfl
      · exact attempt_add_owed_of_eq rfl (if_neg haccepts) rfl

theorem Change.cancelled_mono {s t : Supervisor} {e : Event} (h : Change s e t)
    (hc : s.cancelled = true) : t.cancelled = true := by
  cases h with
  | cancelled => rfl
  | served load _ hs _ | resumed load due _ hs _ => cases hs.symm.trans hc
  | asked _ | refused _ | ticked _ | rested _ _ | closed _ _ _ | delayed _ _ _ _ | drained _ _ _
  | ignored _ _ _ | succeeded _ _ _ | failed _ _ _ => exact hc

/-- At most one attempt is made for every request that enters the queue. -/
theorem Leads.attempt_add_owed_le {s t : Supervisor} {es : List Event} (h : Leads s es t) :
    t.attempt + t.owed ≤ s.attempt + s.owed + s.entered es := by
  induction h with
  | refl => exact Nat.le_refl _
  | @step es u e h _ ih =>
      rw [h.entered_cons]
      rcases (change_step u e).attempt_add_owed with hbooks | ⟨-, hbooks⟩ <;> omega

/-- Until the whole program is told to stop, exactly one attempt is made or owed for every request
that enters the queue. -/
theorem Leads.attempt_add_owed_eq {s t : Supervisor} {es : List Event} (h : Leads s es t)
    (hc : t.cancelled = false) : t.attempt + t.owed = s.attempt + s.owed + s.entered es := by
  induction h with
  | refl => rfl
  | @step es u e h _ ih =>
      have hu : u.cancelled = false := by
        by_contra hcancelled
        rw [Bool.not_eq_false] at hcancelled
        cases ((change_step u e).cancelled_mono hcancelled).symm.trans hc
      have hih := ih hu
      rw [h.entered_cons]
      rcases (change_step u e).attempt_add_owed with hbooks | ⟨hcancelled, -⟩
      · omega
      · cases hcancelled.symm.trans hu

/-! ## Requests between two turns -/

theorem Change.queue_eq {s t : Supervisor} {e : Event} (h : Change s e t) (he : e.isPoll = false)
    (hq : s.queue.isSome = true) : t.queue = s.queue := by
  obtain ⟨kind, hkind⟩ := Option.isSome_iff_exists.1 hq
  cases h with
  | asked _ => simp [hkind]
  | refused _ | cancelled | ticked _ | ignored _ _ _ | succeeded _ _ _ => rfl
  | failed a e _ =>
      change (if s.accepts then s.queue.or (some .crash) else s.queue) = s.queue
      simp [hkind]
  | rested _ _ | closed _ _ _ | served _ _ _ _ | delayed _ _ _ _ | resumed _ _ _ _ _
  | drained _ _ _ => cases he

theorem Leads.queue_eq {s t : Supervisor} {es : List Event} (h : Leads s es t)
    (hp : ∀ e ∈ es, e.isPoll = false) (hq : s.queue.isSome = true) : t.queue = s.queue := by
  induction h with
  | refl => rfl
  | @step es u e _ _ ih =>
      rw [List.forall_mem_cons] at hp
      have hu := ih hp.2
      rw [← hu] at hq
      rw [(change_step u e).queue_eq hp.1 hq, hu]

theorem enabled_queue_iff (s : Supervisor) (q : Option RestartKind) (e : Event) :
    e.Enabled { s with queue := q } ↔ e.Enabled s := by
  cases e <;> exact Iff.rfl

theorem step_request_eq (s : Supervisor) : ∃ q, s.step .request = { s with queue := q } := by
  cases h : s.accepts with
  | true => exact ⟨_, step_request_of_accepts h⟩
  | false => exact ⟨s.queue, step_request_of_not_accepts h⟩

/-- Outside the turns of the supervisor nothing but the queue itself depends on the queue. -/
theorem step_queue_eq (s : Supervisor) (q : Option RestartKind) {e : Event}
    (hp : e.isPoll = false) :
    ∃ q', step { s with queue := q } e = { s.step e with queue := q' } := by
  cases e with
  | request =>
      obtain ⟨q₁, h₁⟩ := step_request_eq { s with queue := q }
      obtain ⟨q₂, h₂⟩ := step_request_eq s
      exact ⟨q₁, by rw [h₁, h₂]⟩
  | cancel => exact ⟨q, rfl⟩
  | tick ms => exact ⟨q, rfl⟩
  | poll load => cases hp
  | finish attempt result =>
      change ∃ q', finish { s with queue := q } attempt result =
        { s.finish attempt result with queue := q' }
      have hsame : counts { s with queue := q } attempt = s.counts attempt := rfl
      cases hc : s.counts attempt with
      | false =>
          refine ⟨q, ?_⟩
          rw [finish_of_not_counts hc, finish_of_not_counts (hsame.trans hc)]
          rfl
      | true =>
          cases result with
          | ok u =>
              refine ⟨q, ?_⟩
              rw [finish_ok hc, finish_ok (hsame.trans hc)]
              rfl
          | error e =>
              refine ⟨if s.accepts then q.or (some .crash) else q, ?_⟩
              rw [finish_error hc, finish_error (hsame.trans hc)]
              rfl

/-- Requests between two turns change nothing but the queue. -/
theorem Leads.without_requests {s t : Supervisor} {es : List Event} (h : Leads s es t)
    (hp : ∀ e ∈ es, e.isPoll = false) :
    ∃ u q, Leads s (es.filter fun e => !e.isRequest) u ∧ t = { u with queue := q } := by
  induction h with
  | refl => exact ⟨s, s.queue, .refl, rfl⟩
  | @step es v e _ he ih =>
      rw [List.forall_mem_cons] at hp
      obtain ⟨u, q, hu, rfl⟩ := ih hp.2
      cases hr : e.isRequest with
      | true =>
          rw [List.filter_cons_of_neg (by simp [hr])]
          cases e with
          | request =>
              obtain ⟨q', hq'⟩ := step_request_eq { u with queue := q }
              exact ⟨u, q', hu, hq'⟩
          | cancel | tick _ | poll _ | finish _ _ => cases hr
      | false =>
          rw [List.filter_cons_of_pos (by simp [hr])]
          obtain ⟨q', hq'⟩ := step_queue_eq u q hp.1
          exact ⟨u.step e, q', hu.step ((enabled_queue_iff u q e).1 he), hq'⟩

/-! ## No request is lost, and none is served twice -/

theorem Leads.loaded_ne_nil_of_request {s asked t : Supervisor} {es : List Event}
    (hr : s.request = .ok asked) (h : Leads asked es t) (hq : t.queue = none)
    (hb : ¬ t.BackingOff) (hc : t.cancelled = false) : asked.loaded es ≠ [] := by
  intro hnil
  rcases h.busy_of_loaded_eq_nil (.inl (queue_isSome_of_request hr)) hnil with
    hwaiting | hbacking | hcancelled
  · simp [hq] at hwaiting
  · exact hb hbacking
  · cases hcancelled.symm.trans hc

/-- A request that was accepted is served: once nothing waits any more the document has been loaded
after it, and if the latest of these loads succeeded, the run that was started last works on what it
gave. Any number of requests between two turns of the supervisor change nothing but the queue, and
not even that if a request waits already. So the attempts made and owed later, which without them
are those owed before and those of the requests that come into the empty queue, are one more at
most. -/
theorem Reachable.accepted_request_served {past : List Event} {s : Supervisor}
    (h : Reachable past s) :
    (∀ {asked t : Supervisor} {later : List Event}, s.request = .ok asked →
      Leads asked later t → t.queue = none → ¬ t.BackingOff → t.cancelled = false →
      ∃ load, (asked.loaded later).head? = some load ∧
        ∀ document, load = .ok document →
          ∃ r ∈ t.runs, (∀ q ∈ t.runs, q.attempt ≤ r.attempt) ∧ r.document = document) ∧
      ∀ {t : Supervisor} {calls : List Event}, Leads s calls t →
        (∀ e ∈ calls, e.isPoll = false) →
        ∃ u, Leads s (calls.filter fun e => !e.isRequest) u ∧ t = { u with queue := t.queue } ∧
          (s.queue.isSome = true → t = u) ∧
          (∀ {v : Supervisor} {later : List Event}, Leads u later v → v.cancelled = false →
            v.attempt + v.owed = u.attempt + u.owed + u.entered later) ∧
          ∀ {v : Supervisor} {later : List Event}, Leads t later v →
            v.attempt + v.owed ≤ u.attempt + u.owed + 1 + t.entered later := by
  constructor
  · intro asked t later hrequest hlater hq hb hc
    have hloads := Leads.loaded_ne_nil_of_request hrequest hlater hq hb hc
    obtain ⟨load, earlier, hcons⟩ := List.exists_cons_of_ne_nil hloads
    have hhead : (asked.loaded later).head? = some load := by rw [hcons]; rfl
    refine ⟨load, hhead, ?_⟩
    rintro document rfl
    have hreach : Reachable (later ++ ([.request] ++ past)) t :=
      (Leads.trans h (leads_request hrequest)).trans hlater
    obtain ⟨run, rest, hruns, hdocument⟩ := hlater.exists_run_of_loaded hhead
    have hordered := hreach.orderly.ordered
    rw [hruns] at hordered ⊢
    exact ⟨run, List.mem_cons_self, hordered.attempt_le_head, hdocument⟩
  · intro t calls hcalls hp
    obtain ⟨u, q, hu, rfl⟩ := hcalls.without_requests hp
    have howed : owed { u with queue := q } ≤ u.owed + 1 := by
      have hlength : q.toList.length ≤ 1 := by cases q <;> simp
      simp only [owed]
      omega
    refine ⟨u, hu, rfl, ?_, fun hlater hc => hlater.attempt_add_owed_eq hc, ?_⟩
    · intro hq
      have hpu : ∀ e ∈ calls.filter fun e => !e.isRequest, e.isPoll = false :=
        fun e he => hp e (List.mem_of_mem_filter he)
      have hsame : q = u.queue := (hcalls.queue_eq hp hq).trans (hu.queue_eq hpu hq).symm
      rw [hsame]
    · intro v later hlater
      have hbooks := hlater.attempt_add_owed_le
      simp only at hbooks
      omega

def crashed : List Event :=
  [.finish 1 (.error (.missingPipe "stdout")), .poll (.ok .empty), .request]

def renewed : Document := ⟨[("log", "{}")], List.pairwise_singleton _ _⟩

/-- The time after the first crash is waited out, and the document has changed meanwhile. -/
def renewedReload : List Event := [.poll (.ok renewed), .tick 15000, .poll (.ok .empty)]

theorem accepted_request_served_crashed :
    Reachable crashed (Supervisor.start.after crashed) ∧
      (Supervisor.start.after crashed).request = .ok (Supervisor.start.after crashed) ∧
      (∃ r ∈ ((Supervisor.start.after crashed).after renewedReload).runs, r.document = renewed) ∧
      (Supervisor.start.after crashed).after [.request, .request] =
        Supervisor.start.after crashed := by
  have h : Reachable crashed (Supervisor.start.after crashed) :=
    .step (.step (.step .refl trivial) trivial) ⟨_, .head _, rfl, rfl⟩
  have hrequest : (Supervisor.start.after crashed).request =
      .ok (Supervisor.start.after crashed) := rfl
  have hlater : Leads (Supervisor.start.after crashed) renewedReload
      ((Supervisor.start.after crashed).after renewedReload) :=
    .step (.step (.step .refl trivial) trivial) trivial
  have hcalls : Leads (Supervisor.start.after crashed) [.request, .request]
      ((Supervisor.start.after crashed).after [.request, .request]) :=
    .step (.step .refl trivial) trivial
  obtain ⟨hserved, hburst⟩ := Reachable.accepted_request_served h
  refine ⟨h, hrequest, ?_, ?_⟩
  · obtain ⟨load, hload, hrun⟩ := hserved hrequest hlater rfl
      (not_backingOff_of_idle rfl) rfl
    obtain ⟨r, hr, -, hdocument⟩ := hrun renewed (Option.some.inj hload).symm
    exact ⟨r, hr, hdocument⟩
  · obtain ⟨u, hu, -, hsame, -⟩ := hburst hcalls (by simp [Event.isPoll])
    rw [hsame rfl]
    exact hu.eq_after

end ProxyWarden.Supervisor

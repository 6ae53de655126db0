import ProxyWarden.Supervisor.Step

/-!
# The changes of the supervisor

Every event changes the supervisor in one of a few ways. `Change` lists them, each with what was the
case before, and `change_step` says that there are no others. All that is proved about runs of the
supervisor starts from this list and leaves `Supervisor.step` closed. `Leads.keeps` carries what a
single change keeps over any number of events.
-/
namespace ProxyWarden.Supervisor

def BackingOff (s : Supervisor) : Prop := ∃ due, s.phase = .backingOff due

theorem not_backingOff_of_idle {s : Supervisor} (h : s.phase = .idle) : ¬ s.BackingOff := by
  rintro ⟨due, hdue⟩
  cases h.symm.trans hdue

theorem not_backingOff_of_isClosed {s : Supervisor} (h : s.isClosed = true) : ¬ s.BackingOff := by
  rintro ⟨due, hdue⟩
  simp [isClosed, hdue] at h

/-! ## What an attempt does to the single fields -/

section
variable (s : Supervisor) (kind : RestartKind) (load : Except StoreError Document)

@[simp] theorem phase_restart : (s.restart kind load).phase = s.phase := by
  cases load <;> rfl

@[simp] theorem queue_restart : (s.restart kind load).queue = s.queue := by
  cases load <;> rfl

@[simp] theorem cancelled_restart : (s.restart kind load).cancelled = s.cancelled := by
  cases load <;> rfl

@[simp] theorem attempt_restart : (s.restart kind load).attempt = s.attempt + 1 := by
  cases load <;> rfl

@[simp] theorem active_restart :
    (s.restart kind load).active = load.toOption.map fun _ => s.attempt + 1 := by
  cases load <;> rfl

end

/-! ## The list of changes -/

/-- What an event makes of the supervisor, and what was the case before. -/
inductive Change (s : Supervisor) : Event → Supervisor → Prop where
  | asked : s.accepts = true →
      Change s .request { s with queue := s.queue.or (some .manual) }
  | refused : s.accepts = false → Change s .request s
  | cancelled : Change s .cancel s.cancel
  | ticked (ms : Nat) : Change s (.tick ms) { s with now := s.now + ms }
  | rested (load : Except StoreError Document) : s.loads = false → Change s (.poll load) s
  | closed (load : Except StoreError Document) : s.phase = .idle ∨ s.BackingOff →
      s.cancelled = true → Change s (.poll load) s.close
  | served (load : Except StoreError Document) : s.phase = .idle → s.cancelled = false →
      s.queue = some .manual →
      Change s (.poll load) ({ s with queue := none }.restart .manual load)
  | delayed (load : Except StoreError Document) : s.phase = .idle → s.cancelled = false →
      s.queue = some .crash →
      Change s (.poll load) { s with queue := none, phase := .backingOff (s.now + backoff s.crashes) }
  | resumed (load : Except StoreError Document) (due : Nat) : s.phase = .backingOff due →
      s.cancelled = false → due ≤ s.now →
      Change s (.poll load) ({ s with phase := .idle }.restart .crash load)
  | drained (load : Except StoreError Document) : s.phase = .draining →
      s.runs.all CoreRun.returned = true → Change s (.poll load) { s with phase := .ended }
  | ignored (attempt : Nat) (result : Except DispatchError Unit) : s.counts attempt = false →
      Change s (.finish attempt result) (s.record attempt result)
  | succeeded (attempt : Nat) (u : Unit) : s.counts attempt = true →
      Change s (.finish attempt (.ok u))
        { s.record attempt (.ok u) with working := true, crashes := 0 }
  | failed (attempt : Nat) (e : DispatchError) : s.counts attempt = true →
      Change s (.finish attempt (.error e))
        { s.record attempt (.error e) with
          working := false
          crashes := min (s.crashes + 1) maxCrashes
          queue := if s.accepts then s.queue.or (some .crash) else s.queue }

theorem change_poll (s : Supervisor) (load : Except StoreError Document) :
    Change s (.poll load) (s.poll load) := by
  unfold poll
  cases hp : s.phase with
  | idle =>
      cases hc : s.cancelled with
      | true => simpa using Change.closed load (.inl hp) hc
      | false =>
          cases hq : s.queue with
          | none =>
              have hl : s.loads = false := by simp [loads, hp, hq]
              simpa using Change.rested load hl
          | some kind =>
              cases kind with
              | manual => simpa [hp, hc] using Change.served load hp hc hq
              | crash => simpa [hp, hc] using Change.delayed load hp hc hq
  | backingOff due =>
      cases hc : s.cancelled with
      | true => simpa using Change.closed load (.inr ⟨due, hp⟩) hc
      | false =>
          by_cases hd : due ≤ s.now
          · simpa [hd, hc] using Change.resumed load due hp hc hd
          · have hl : s.loads = false := by simp [loads, hp, hd]
            simpa [hd] using Change.rested load hl
  | draining =>
      by_cases hr : s.runs.all CoreRun.returned = true
      · rw [if_pos hr]
        exact .drained load hp hr
      · have hl : s.loads = false := by simp [loads, hp]
        rw [if_neg hr]
        exact .rested load hl
  | ended =>
      have hl : s.loads = false := by simp [loads, hp]
      exact .rested load hl
  | abandoned =>
      have hl : s.loads = false := by simp [loads, hp]
      exact .rested load hl

section
variable {s : Supervisor} {attempt : Nat}

theorem counts_iff : s.counts attempt = true ↔ s.attempt = attempt ∧ s.isClosed = false := by
  simp [counts]

theorem finish_of_not_counts (h : s.counts attempt = false)
    (result : Except DispatchError Unit) :
    s.finish attempt result = s.record attempt result := by
  have hnot : ¬ (s.record attempt result).counts attempt = true := by
    change ¬ s.counts attempt = true
    simp [h]
  exact if_neg hnot

theorem finish_ok (h : s.counts attempt = true) (u : Unit) :
    s.finish attempt (.ok u) =
      { s.record attempt (.ok u) with working := true, crashes := 0 } :=
  if_pos h

theorem finish_error (h : s.counts attempt = true) (e : DispatchError) :
    s.finish attempt (.error e) =
      { s.record attempt (.error e) with
        working := false
        crashes := min (s.crashes + 1) maxCrashes
        queue := if s.accepts then s.queue.or (some .crash) else s.queue } :=
  if_pos h

theorem step_request_of_accepts (h : s.accepts = true) :
    s.step .request = { s with queue := s.queue.or (some .manual) } := by
  simp [step, request, h, Except.toOption]

theorem step_request_of_not_accepts (h : s.accepts = false) : s.step .request = s := by
  simp [step, request, h, Except.toOption]

end

theorem change_finish (s : Supervisor) (attempt : Nat) (result : Except DispatchError Unit) :
    Change s (.finish attempt result) (s.finish attempt result) := by
  cases h : s.counts attempt with
  | false =>
      rw [finish_of_not_counts h]
      exact .ignored attempt result h
  | true =>
      cases result with
      | ok u =>
          rw [finish_ok h]
          exact .succeeded attempt u h
      | error e =>
          rw [finish_error h]
          exact .failed attempt e h

/-- An event does nothing but what is listed. -/
theorem change_step (s : Supervisor) (e : Event) : Change s e (s.step e) := by
  cases e with
  | request =>
      cases h : s.accepts with
      | true =>
          rw [step_request_of_accepts h]
          exact .asked h
      | false =>
          rw [step_request_of_not_accepts h]
          exact .refused h
  | cancel => exact .cancelled
  | tick ms => exact .ticked ms
  | poll load => exact change_poll s load
  | finish attempt result => exact change_finish s attempt result

/-- What no possible change can break holds after any number of events. -/
theorem Leads.keeps {P : Supervisor → Prop} {s t : Supervisor} {es : List Event}
    (h : Leads s es t) (hs : P s)
    (keep : ∀ {u v : Supervisor} {e : Event}, P u → e.Enabled u → Change u e v → P v) : P t := by
  induction h with
  | refl => exact hs
  | step _ he ih => exact keep ih he (change_step _ _)

end ProxyWarden.Supervisor

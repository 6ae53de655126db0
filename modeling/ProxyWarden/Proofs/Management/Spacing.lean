import ProxyWarden.Proofs.Management.Uploads
import ProxyWarden.Proofs.Supervisor.Changes

/-!
# How close two restarts can come

A request for a restart is passed on to the supervisor by a restart call or by an upload that goes
with a restart, and each of the two ways has its own limiter. So two requests of one kind are always
one interval apart, and so are the first and the last of any three (`Leads.requests_spaced`), while
a restart call and an upload may follow each other at once (`restart_beside_upload`).
-/
namespace ProxyWarden

namespace Supervisor

variable {s t : Supervisor} {e : Event}

@[simp] theorem now_restart (s : Supervisor) (kind : RestartKind) (load : Except StoreError Document) :
    (s.restart kind load).now = s.now := by
  cases load <;> rfl

/-- Time does not run backwards. -/
theorem Change.now_le (h : Change s e t) : s.now ≤ t.now := by
  cases h with
  | ticked ms => exact Nat.le_add_right s.now ms
  | served load _ _ _ => simp
  | resumed load due _ _ _ => simp
  | _ => exact Nat.le_refl s.now

end Supervisor

namespace Surface

variable {s₀ s t : Surface} {es : List Event} {e : Event} {k : CallKind}

theorem CallKind.eq_of_ne {a b c : CallKind} (ha : a ≠ c) (hb : b ≠ c) : a = b := by
  cases a <;> cases b <;> cases c <;> simp_all

/-! ## What is passed on -/

/-- A request for a restart that was passed on to the supervisor: by which kind of call, and when. -/
structure Request where
  kind : CallKind
  moment : Nat
deriving DecidableEq, Repr

/-- Whether a call that goes with a restart came as far as to ask the supervisor, by its outcome. -/
def asked : Except ManagementError Unit → Bool
  | .ok _ => true
  | .error (.supervisor _) => true
  | .error _ => false

/-- The kind of call by which an event asks the supervisor for a restart. -/
def asks? (s : Surface) : Event → Option CallKind
  | .restart => if asked s.restart.1 then some .restart else none
  | .upload data true => if asked (s.upload data true).1 then some .upload else none
  | _ => none

def request? (s : Surface) (e : Event) : Option Request := (s.asks? e).map fun k => ⟨k, s.now⟩

/-- The requests that some events pass on, both in order, the latest first. -/
def requests (s : Surface) : List Event → List Request
  | [] => []
  | e :: es => ((s.after es).request? e).toList ++ s.requests es

theorem Leads.requests_cons (h : Leads s es t) (e : Event) :
    s.requests (e :: es) = (t.request? e).toList ++ s.requests es := by
  rw [requests, ← h.eq_after]

/-- Passing a request on asks the supervisor and does nothing else. -/
theorem request_spec (s : Surface) : asked s.request.1 = true ∧
    s.request.2 = { s with supervisor := s.supervisor.step .request } := by
  unfold request
  cases haccepts : s.supervisor.request with
  | error e =>
      have hsame : s.supervisor.step .request = s.supervisor := by
        rw [Supervisor.step, haccepts]
        rfl
      rw [hsame]
      exact ⟨rfl, rfl⟩
  | ok after =>
      have hafter : s.supervisor.step .request = after := by
        rw [Supervisor.step, haccepts]
        rfl
      rw [hafter]
      exact ⟨rfl, rfl⟩

theorem supervisor_restart (s : Surface) : s.restart.2.supervisor =
    if asked s.restart.1 then s.supervisor.step .request else s.supervisor := by
  unfold restart
  by_cases hadmits : s.restarts.admits s.now = true
  · rw [if_pos hadmits, (request_spec _).2, if_pos (request_spec _).1]
  · rw [if_neg hadmits]
    rfl

theorem supervisor_replace (s : Surface) (document : Document) (restart : Bool) :
    (s.replace document restart).2.supervisor =
      if restart && asked (s.replace document restart).1 then s.supervisor.step .request
      else s.supervisor := by
  unfold replace
  split
  · cases restart <;> rfl
  · cases restart with
    | false => rfl
    | true =>
        simp only [if_true, Bool.true_and]
        rw [(request_spec _).2, if_pos (request_spec _).1]

theorem supervisor_upload (s : Surface) (data : String) (restart : Bool) :
    (s.upload data restart).2.supervisor =
      if restart && asked (s.upload data restart).1 then s.supervisor.step .request
      else s.supervisor := by
  unfold upload
  by_cases hadmits : s.uploads.admits s.now = true
  · rw [if_pos hadmits]
    dsimp only
    split
    · cases restart <;> rfl
    · exact supervisor_replace { s with uploads := s.uploads.call s.now } _ restart
  · rw [if_neg hadmits]
    cases restart <;> rfl

/-- A call asks the supervisor for a restart exactly if it passes a request on, and does nothing else
to it. -/
theorem supervisor_call (he : e.kind? = some k) : (s.step e).supervisor =
    if (s.request? e).isSome then s.supervisor.step .request else s.supervisor := by
  cases e with
  | restart =>
      rw [step, supervisor_restart, request?, asks?]
      cases asked s.restart.1 <;> rfl
  | upload data restart =>
      rw [step, supervisor_upload, request?]
      cases restart with
      | false => rfl
      | true =>
          rw [asks?, Bool.true_and]
          cases asked (s.upload data true).1 <;> rfl
  | _ => cases he

theorem now_le_call (he : e.kind? = some k) : s.now ≤ (s.step e).now := by
  unfold now
  rw [supervisor_call he]
  split_ifs
  · exact (Supervisor.change_step s.supervisor .request).now_le
  · exact Nat.le_refl _

/-- Time does not run backwards. -/
theorem now_le_step (s : Surface) (e : Event) : s.now ≤ (s.step e).now := by
  cases e with
  | restart => exact now_le_call rfl
  | upload data restart => exact now_le_call rfl
  | supervise => exact (Supervisor.change_poll s.supervisor s.load).now_le
  | finish attempt result => exact (Supervisor.change_finish s.supervisor attempt result).now_le
  | abandon =>
      change s.supervisor.now ≤ s.supervisor.abandon.now
      unfold Supervisor.abandon
      split_ifs <;> exact Nat.le_refl _
  | tick ms => exact Nat.le_add_right s.now ms
  | _ => exact Nat.le_refl s.now

/-! ## The limiters keep requests of one kind apart -/

theorem admits_of_asked_restart (h : asked s.restart.1 = true) :
    s.restarts.admits s.now = true := by
  by_contra hrefused
  rw [restart, if_neg hrefused] at h
  cases h

theorem admits_of_asked_upload {data : String} {restart : Bool}
    (h : asked (s.upload data restart).1 = true) : s.uploads.admits s.now = true := by
  by_contra hrefused
  rw [upload, if_neg hrefused] at h
  cases h

/-- Only a call that its limiter admits passes a request on. -/
theorem admits_of_request? {r : Request} (h : s.request? e = some r) :
    e.kind? = some r.kind ∧ r.moment = s.now ∧ (s.limiter r.kind).admits s.now = true := by
  unfold request? at h
  rw [Option.map_eq_some_iff] at h
  obtain ⟨k, hasks, rfl⟩ := h
  cases e with
  | restart =>
      rw [asks?, Option.ite_none_right_eq_some, Option.some.injEq] at hasks
      obtain ⟨hasked, rfl⟩ := hasks
      exact ⟨rfl, rfl, admits_of_asked_restart hasked⟩
  | upload data restart =>
      cases restart with
      | false => cases hasks
      | true =>
          rw [asks?, Option.ite_none_right_eq_some, Option.some.injEq] at hasks
          obtain ⟨hasked, rfl⟩ := hasks
          exact ⟨rfl, rfl, admits_of_asked_upload hasked⟩
  | _ => cases hasks

/-- What is known of the requests that were passed on until a state: each limiter remembers a call
no earlier than the requests of its kind, none lies in the future, and those of one kind are one
interval apart. -/
structure Paced (s : Surface) (requests : List Request) : Prop where
  interval : ∀ k, (s.limiter k).interval = callInterval
  -- It may be a later call that passed nothing on, such as an upload without a restart.
  remembered : ∀ r ∈ requests, ∃ t, (s.limiter r.kind).lastAccepted = some t ∧ r.moment ≤ t
  past : ∀ r ∈ requests, r.moment ≤ s.now
  ordered : requests.Pairwise fun later earlier => earlier.moment ≤ later.moment
  apart : requests.Pairwise fun later earlier =>
    later.kind = earlier.kind → earlier.moment + callInterval ≤ later.moment

theorem Opened.paced (h : s.Opened) : s.Paced [] where
  interval := by
    intro k
    rw [h.limiter_eq k]
    rfl
  remembered := by simp
  past := by simp
  ordered := .nil
  apart := .nil

theorem interval_step (s : Surface) (e : Event) (k : CallKind) :
    ((s.step e).limiter k).interval = (s.limiter k).interval := by
  rw [limiter_step]
  unfold Limiter.call
  split_ifs <;> rfl

/-- What a limiter remembers moves forward in time only. -/
theorem remembered_step {moment : Nat} (hpast : moment ≤ s.now)
    (h : ∃ t, (s.limiter k).lastAccepted = some t ∧ moment ≤ t) (e : Event) :
    ∃ t, ((s.step e).limiter k).lastAccepted = some t ∧ moment ≤ t := by
  rw [limiter_step]
  unfold Limiter.call
  split_ifs
  · exact ⟨s.now, rfl, hpast⟩
  · exact h
  · exact h

/-- A call that passes a request on is remembered. -/
theorem remembered_of_request? {r : Request} (h : s.request? e = some r) :
    ((s.step e).limiter r.kind).lastAccepted = some r.moment := by
  obtain ⟨hkind, hmoment, hadmits⟩ := admits_of_request? h
  rw [limiter_step, if_pos hkind, Limiter.call, if_pos hadmits, hmoment]

namespace Paced

variable {requests : List Request}

/-- An event that passes nothing on. -/
theorem step (h : s.Paced requests) (e : Event) : (s.step e).Paced requests where
  interval := by
    intro k
    rw [interval_step, h.interval k]
  remembered := by
    intro r hr
    exact remembered_step (h.past r hr) (h.remembered r hr) e
  past := by
    intro r hr
    exact Nat.le_trans (h.past r hr) (now_le_step s e)
  ordered := h.ordered
  apart := h.apart

/-- The limiter of a call that passes a request on admits no other one for an interval. -/
theorem moment_add_le (h : s.Paced requests) {r earlier : Request} (hr : s.request? e = some r)
    (hearlier : earlier ∈ requests) (hkind : r.kind = earlier.kind) :
    earlier.moment + callInterval ≤ r.moment := by
  obtain ⟨-, hmoment, hadmits⟩ := admits_of_request? hr
  obtain ⟨t, hlast, hle⟩ := h.remembered earlier hearlier
  rw [hkind, Limiter.admits, hlast, h.interval, decide_eq_true_eq] at hadmits
  have hpositive : 0 < callInterval := by decide
  omega

/-- An event that passes a request on. -/
theorem request (h : s.Paced requests) {r : Request} (hr : s.request? e = some r) :
    (s.step e).Paced (r :: requests) where
  interval := (h.step e).interval
  remembered := by
    intro x hx
    rcases List.mem_cons.1 hx with rfl | hx
    · exact ⟨x.moment, remembered_of_request? hr, Nat.le_refl _⟩
    · exact (h.step e).remembered x hx
  past := by
    intro x hx
    rcases List.mem_cons.1 hx with rfl | hx
    · rw [(admits_of_request? hr).2.1]
      exact now_le_step s e
    · exact (h.step e).past x hx
  ordered := by
    refine .cons ?_ h.ordered
    intro earlier hearlier
    rw [(admits_of_request? hr).2.1]
    exact h.past earlier hearlier
  apart := .cons (fun _ hearlier hkind => h.moment_add_le hr hearlier hkind) h.apart

/-- Of three requests two are of one kind. -/
theorem three_apart (h : s.Paced requests) {a b c : Request} (hsub : [c, b, a].Sublist requests) :
    a.moment + callInterval ≤ c.moment := by
  have hordered := h.ordered.sublist hsub
  have hapart := h.apart.sublist hsub
  simp only [List.pairwise_cons, List.mem_cons, List.not_mem_nil, or_false, forall_eq_or_imp,
    forall_eq] at hordered hapart
  obtain ⟨⟨hbc, -⟩, hab, -⟩ := hordered
  obtain ⟨⟨hcb, hca⟩, hba, -⟩ := hapart
  by_cases hfirst : b.kind = a.kind
  · exact Nat.le_trans (hba hfirst) hbc
  · by_cases hlast : c.kind = b.kind
    · exact Nat.le_trans (Nat.add_le_add_right hab callInterval) (hcb hlast)
    · exact hca (CallKind.eq_of_ne hlast (Ne.symm hfirst))

end Paced

/-- What is known of the requests holds after any number of events. -/
theorem Leads.paced (hs : s₀.Opened) (h : s₀.Leads es s) : s.Paced (s₀.requests es) := by
  induction h with
  | refl => exact hs.paced
  | @step es t e h _ ih =>
      rw [h.requests_cons]
      cases hr : t.request? e with
      | none => exact ih.step e
      | some r => exact ih.request hr

/-- Two requests that calls of one kind pass on to the supervisor are at least one interval apart,
and so are the first and the last of any three requests. -/
theorem Leads.requests_spaced (hs : s₀.Opened) (h : s₀.Leads es s) :
    ((s₀.requests es).Pairwise fun later earlier =>
      later.kind = earlier.kind → earlier.moment + callInterval ≤ later.moment) ∧
    ∀ first second third : Request, [third, second, first].Sublist (s₀.requests es) →
      first.moment + callInterval ≤ third.moment :=
  ⟨(h.paced hs).apart, fun _ _ _ => (h.paced hs).three_apart⟩

/-! ## Both ways one after the other -/

/-- A restart, an upload with a restart one second later, and another restart when its limiter
admits it again, with calls in between that are refused. -/
def restartsBothWays : List Event :=
  [.restart, .tick 3999, .upload sampleUpload true, .restart, .tick 1, .upload sampleUpload true,
    .tick 1000, .restart]

theorem leads_after_restartsBothWays :
    sampleSurface.Leads restartsBothWays (sampleSurface.after restartsBothWays) :=
  .step (.step (.step (.step (.step (.step (.step (.step .refl trivial) trivial) trivial) trivial)
    trivial) trivial) trivial) trivial

theorem requests_restartsBothWays : sampleSurface.requests restartsBothWays =
    [⟨.restart, 5000⟩, ⟨.upload, 1000⟩, ⟨.restart, 0⟩] := by
  decide +kernel

theorem opened_sampleSurface : sampleSurface.Opened := ⟨_, _, _, _, _, _, sampleOpening_eq⟩

/-- The two restart calls that were admitted are one interval apart, with an upload in between. -/
theorem requests_spaced_restartsBothWays :
    (⟨.restart, 0⟩ : Request) ∈ sampleSurface.requests restartsBothWays ∧
    (⟨.restart, 5000⟩ : Request) ∈ sampleSurface.requests restartsBothWays ∧
    0 + callInterval ≤ 5000 := by
  have hspaced := leads_after_restartsBothWays.requests_spaced opened_sampleSurface
  rw [requests_restartsBothWays] at hspaced ⊢
  exact ⟨by decide, by decide, hspaced.2 ⟨.restart, 0⟩ ⟨.upload, 1000⟩ ⟨.restart, 5000⟩ (.refl _)⟩

/-- Not any two requests are one interval apart: an upload may follow a restart call at once. -/
theorem restart_beside_upload : ¬ ∀ (s₀ s : Surface) (es : List Event), s₀.Opened → s₀.Leads es s →
    (s₀.requests es).Pairwise fun later earlier =>
      earlier.moment + callInterval ≤ later.moment := by
  intro hclaim
  have hspaced := hclaim _ _ _ opened_sampleSurface leads_after_restartsBothWays
  rw [requests_restartsBothWays] at hspaced
  revert hspaced
  decide

end Surface

end ProxyWarden

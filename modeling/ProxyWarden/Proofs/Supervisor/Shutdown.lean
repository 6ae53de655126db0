import ProxyWarden.Proofs.Supervisor.Requests

/-!
# Shutdown

The order to stop the whole program comes first in every turn of the supervisor, so no request and
no wait that is over leads to an attempt after it. Runs may still return between the order and the
turn in which the supervisor closes, and count until then. When the supervisor has ended, all its
runs have returned and nothing that can be asked about it changes any more.
-/
namespace ProxyWarden.Supervisor

section
variable {s t : Supervisor} {es : List Event}

/-! ## After the order to stop -/

theorem loadOf?_eq_none_of_cancelled (hc : s.cancelled = true) (e : Event) :
    s.loadOf? e = none := by
  have hl : s.loads = false := by simp [loads, hc]
  cases e with
  | poll load => simp [loadOf?, hl]
  | request | cancel | tick _ | finish _ _ => rfl

theorem Leads.cancelled_mono (h : Leads s es t) (hc : s.cancelled = true) : t.cancelled = true :=
  h.keeps hc fun hu _ hchange => hchange.cancelled_mono hu

theorem Leads.loaded_eq_nil_of_cancelled (h : Leads s es t) (hc : s.cancelled = true) :
    s.loaded es = [] := by
  induction h with
  | refl => rfl
  | step h _ ih =>
      have hnone := loadOf?_eq_none_of_cancelled (h.cancelled_mono hc)
      rw [h.loaded_cons, hnone, ih]
      rfl

/-! ## After the end -/

theorem isClosed_of_ended (hp : s.phase = .ended) : s.isClosed = true := by
  simp [isClosed, hp]

theorem request_of_ended (hp : s.phase = .ended) : s.request = .error .closed := by
  have haccepts : s.accepts = false := by simp [accepts, isClosed_of_ended hp]
  simp [request, haccepts]

theorem Change.returned_of_ended {e : Event} (h : Change s e t)
    (hs : s.phase = .ended → ∀ r ∈ s.runs, r.returned = true) :
    t.phase = .ended → ∀ r ∈ t.runs, r.returned = true := by
  intro hp
  cases h with
  | asked _ | refused _ | ticked _ | rested _ _ => exact hs hp
  | cancelled =>
      unfold cancel
      rw [List.forall_mem_map]
      exact hs hp
  | closed _ _ _ | delayed _ _ _ _ => cases hp
  | served load hidle _ _ =>
      rw [phase_restart] at hp
      cases hidle.symm.trans hp
  | resumed load due _ _ _ =>
      rw [phase_restart] at hp
      cases hp
  | drained load _ hall => exact List.all_eq_true.1 hall
  | ignored a result _ | succeeded a result _ | failed a result _ =>
      unfold record
      rw [List.forall_mem_map]
      intro r hr
      unfold CoreRun.noteIf
      split
      · rfl
      · exact hs hp r hr

theorem Reachable.returned_of_ended (h : Reachable es s) (hp : s.phase = .ended) :
    ∀ r ∈ s.runs, r.returned = true :=
  Leads.keeps (P := fun u => u.phase = .ended → ∀ r ∈ u.runs, r.returned = true) h
    (by rintro ⟨⟩) (fun hu _ hc => hc.returned_of_ended hu) hp

/-- What is told of the core, and what the supervisor goes by in its next attempt. -/
structure SameAccount (s t : Supervisor) : Prop where
  working : t.working = s.working
  crashes : t.crashes = s.crashes
  lastStart : t.lastStart = s.lastStart
  attempt : t.attempt = s.attempt

theorem Change.sameAccount_of_ended {e : Event} (h : Change s e t) (hp : s.phase = .ended) :
    t.phase = .ended ∧ s.SameAccount t := by
  have hclosed := isClosed_of_ended hp
  cases h with
  | asked _ | refused _ | cancelled | ticked _ | rested _ _ | ignored _ _ _ =>
      exact ⟨hp, rfl, rfl, rfl, rfl⟩
  | closed load hopen _ =>
      rcases hopen with hidle | ⟨due, hdue⟩
      · cases hp.symm.trans hidle
      · cases hp.symm.trans hdue
  | served _ hidle _ _ | delayed _ hidle _ _ => cases hp.symm.trans hidle
  | resumed _ _ hdue _ _ => cases hp.symm.trans hdue
  | drained _ hdraining _ => cases hp.symm.trans hdraining
  | succeeded a result hcounts | failed a result hcounts =>
      cases (counts_iff.1 hcounts).2.symm.trans hclosed

theorem Leads.sameAccount_of_ended (h : Leads s es t) (hp : s.phase = .ended) :
    t.phase = .ended ∧ s.SameAccount t := by
  refine h.keeps (P := fun u => u.phase = .ended ∧ s.SameAccount u) ⟨hp, rfl, rfl, rfl, rfl⟩ ?_
  rintro u v e ⟨hu, hsame⟩ _ hchange
  obtain ⟨hv, hstep⟩ := hchange.sameAccount_of_ended hu
  exact ⟨hv, hstep.working.trans hsame.working, hstep.crashes.trans hsame.crashes,
    hstep.lastStart.trans hsame.lastStart, hstep.attempt.trans hsame.attempt⟩

end

/-! ## Shutdown is final -/

/-- After the order to stop there is no load of the document, no attempt and no run that was not
there before, whatever waits, is asked for or falls due. After the supervisor has ended all runs
have returned, requests are refused, and the account of the core stays as it is. -/
theorem Reachable.shutdown_is_final {past : List Event} {s : Supervisor} (h : Reachable past s) :
    (s.cancelled = true → ∀ {t : Supervisor} {later : List Event}, Leads s later t →
        s.loaded later = [] ∧ t.attempt = s.attempt ∧ t.documents = s.documents) ∧
      (s.phase = .ended → ∀ {t : Supervisor} {later : List Event}, Leads s later t →
        t.phase = .ended ∧ (∀ r ∈ t.runs, r.returned = true) ∧ t.request = .error .closed ∧
          s.SameAccount t) := by
  constructor
  · intro hc t later hlater
    have hnil := hlater.loaded_eq_nil_of_cancelled hc
    have hattempt := hlater.attempt_eq
    have hdocuments := hlater.documents_eq
    rw [hnil] at hattempt hdocuments
    exact ⟨hnil, hattempt, hdocuments⟩
  · intro hp t later hlater
    have ht : Reachable (later ++ past) t := Leads.trans h hlater
    obtain ⟨hended, hsame⟩ := hlater.sameAccount_of_ended hp
    exact ⟨hended, ht.returned_of_ended hended, request_of_ended hended, hsame⟩

def stoppedWhenDue : List Event := [.cancel, .tick 15000, .poll (.ok .empty)] ++ crashed

def endAmongRequests : List Event :=
  [.poll (.ok renewed), .request, .poll (.ok renewed), .request]

theorem shutdown_is_final_stoppedWhenDue :
    Reachable stoppedWhenDue (Supervisor.start.after stoppedWhenDue) ∧
      (Supervisor.start.after stoppedWhenDue).phase =
        .backingOff (Supervisor.start.after stoppedWhenDue).now ∧
      (Supervisor.start.after stoppedWhenDue).loaded endAmongRequests = [] ∧
      ((Supervisor.start.after stoppedWhenDue).after endAmongRequests).request =
        .error .closed := by
  have h : Reachable stoppedWhenDue (Supervisor.start.after stoppedWhenDue) :=
    .step (.step (.step (.step (.step (.step .refl trivial) trivial) ⟨_, .head _, rfl, rfl⟩)
      trivial) trivial) trivial
  have hlater : Leads (Supervisor.start.after stoppedWhenDue) endAmongRequests
      ((Supervisor.start.after stoppedWhenDue).after endAmongRequests) :=
    .step (.step (.step (.step .refl trivial) trivial) trivial) trivial
  have hend : Reachable (endAmongRequests ++ stoppedWhenDue)
      ((Supervisor.start.after stoppedWhenDue).after endAmongRequests) := Leads.trans h hlater
  obtain ⟨hloads, -, -⟩ := (Reachable.shutdown_is_final h).1 rfl hlater
  obtain ⟨-, -, hrefused, -⟩ := (Reachable.shutdown_is_final hend).2 rfl .refl
  exact ⟨h, rfl, hloads, hrefused⟩

end ProxyWarden.Supervisor

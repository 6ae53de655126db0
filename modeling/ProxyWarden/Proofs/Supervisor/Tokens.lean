import Mathlib.Data.List.Nodup
import ProxyWarden.Proofs.Supervisor.History

/-!
# Runs and the orders to stop

Runs outlive the attempts that superseded them, so there is no bound on those that have not returned
yet. Whatever happens, at most one of them has not been told to stop. `Ordered` says so of a list of
runs and the number of the latest attempt; `Orderly` adds what the supervisor remembers of the run
that it still has to stop. Both hold in all states that come up (`Reachable.orderly`).
-/
namespace ProxyWarden.Supervisor

/-- Runs of the attempts up to the latest one, which comes first. All but the run of the latest
attempt have been told to stop. -/
structure Ordered (runs : List CoreRun) (latest : Nat) : Prop where
  descending : runs.Pairwise fun r q => q.attempt < r.attempt
  attempt_le : ∀ r ∈ runs, r.attempt ≤ latest
  superseded : ∀ r ∈ runs, r.attempt ≠ latest → r.cancelled = true

namespace Ordered

variable {runs : List CoreRun} {latest : Nat}

theorem nil (latest : Nat) : Ordered [] latest where
  descending := .nil
  attempt_le := by simp
  superseded := by simp

theorem eq_of_attempt_eq (h : Ordered runs latest) {r q : CoreRun} (hr : r ∈ runs) (hq : q ∈ runs)
    (he : r.attempt = q.attempt) : r = q := by
  have hn : (runs.map CoreRun.attempt).Nodup := by
    rw [List.nodup_iff_pairwise_ne, List.pairwise_map]
    exact h.descending.imp Nat.ne_of_gt
  exact List.inj_on_of_nodup_map hn hr hq he

theorem map (h : Ordered runs latest) {f : CoreRun → CoreRun}
    (hf : ∀ r, (f r).attempt = r.attempt)
    (hc : ∀ r, r.cancelled = true → (f r).cancelled = true) : Ordered (runs.map f) latest where
  descending := by
    rw [List.pairwise_map]
    simpa only [hf] using h.descending
  attempt_le := by
    rw [List.forall_mem_map]
    intro r hr
    rw [hf]
    exact h.attempt_le r hr
  superseded := by
    rw [List.forall_mem_map]
    intro r hr ha
    rw [hf] at ha
    exact hc r (h.superseded r hr ha)

theorem succ (h : Ordered runs latest) (hall : ∀ r ∈ runs, r.cancelled = true) :
    Ordered runs (latest + 1) where
  descending := h.descending
  attempt_le r hr := Nat.le_succ_of_le (h.attempt_le r hr)
  superseded r hr _ := hall r hr

theorem cons (h : Ordered runs latest) (hall : ∀ r ∈ runs, r.cancelled = true) {run : CoreRun}
    (ha : run.attempt = latest + 1) : Ordered (run :: runs) (latest + 1) where
  descending := by
    refine .cons ?_ h.descending
    intro r hr
    have hle := h.attempt_le r hr
    omega
  attempt_le := by
    rw [List.forall_mem_cons]
    exact ⟨Nat.le_of_eq ha, (h.succ hall).attempt_le⟩
  superseded := by
    rw [List.forall_mem_cons]
    exact ⟨fun hne => absurd ha hne, (h.succ hall).superseded⟩

theorem attempt_le_head {run : CoreRun} {rest : List CoreRun} (h : Ordered (run :: rest) latest) :
    ∀ r ∈ run :: rest, r.attempt ≤ run.attempt := by
  rw [List.forall_mem_cons]
  refine ⟨Nat.le_refl _, ?_⟩
  intro r hr
  exact Nat.le_of_lt ((List.pairwise_cons.1 h.descending).1 r hr)

/-- At most one run has not been told to stop. -/
theorem uncancelled_length_le_one (h : Ordered runs latest) :
    (runs.filter fun r => !r.cancelled).length ≤ 1 := by
  have hlatest : ∀ r ∈ runs.filter fun r => !r.cancelled, r.attempt = latest := by
    intro r hr
    rw [List.mem_filter] at hr
    by_contra hne
    simp [h.superseded r hr.1 hne] at hr
  have hd := h.descending.filter fun r => !r.cancelled
  generalize (runs.filter fun r => !r.cancelled) = left at hlatest hd ⊢
  cases left with
  | nil => exact Nat.zero_le 1
  | cons r rest =>
      cases rest with
      | nil => exact Nat.le_refl 1
      | cons q rest =>
          have hr := hlatest r (by simp)
          have hq := hlatest q (by simp)
          have hlt := (List.pairwise_cons.1 hd).1 q (by simp)
          omega

end Ordered

/-- What always holds of the runs and of the one that is to be stopped, which is that of the latest
attempt. When there is none, or when the whole program was told to stop, all runs have been told. -/
structure Orderly (s : Supervisor) : Prop where
  ordered : Ordered s.runs s.attempt
  held : ∀ a, s.active = some a → a = s.attempt ∧ ∃ r ∈ s.runs, r.attempt = a
  released : s.active = none → ∀ r ∈ s.runs, r.cancelled = true
  told : s.cancelled = true → ∀ r ∈ s.runs, r.cancelled = true
  closing : s.isClosed = true → s.cancelled = true ∧ s.active = none
  present : s.phase ≠ .abandoned

namespace Orderly

variable {s : Supervisor}

theorem start : Orderly Supervisor.start where
  ordered := .nil 0
  held := by simp [Supervisor.start]
  released := by simp [Supervisor.start]
  told := by simp [Supervisor.start]
  closing := by simp [isClosed, Supervisor.start]
  present := by simp [Supervisor.start]

/-- To stop the run that is held is to stop all of them. -/
theorem cancelled_stopActive (h : Orderly s) : ∀ r ∈ s.stopActive.runs, r.cancelled = true := by
  unfold stopActive
  rw [List.forall_mem_map]
  intro r hr
  cases ha : s.active with
  | none => exact CoreRun.cancelled_stopIf none r (h.released ha r hr)
  | some a =>
      -- The run that is held is the only one that may not have been told yet.
      have hlatest := (h.held a ha).1
      by_cases hra : r.attempt = s.attempt
      · rw [CoreRun.stopIf, if_pos (by rw [hlatest, hra])]
      · exact CoreRun.cancelled_stopIf (some a) r (h.ordered.superseded r hr hra)

theorem ordered_stopActive (h : Orderly s) : Ordered s.stopActive.runs s.attempt :=
  h.ordered.map (CoreRun.attempt_stopIf s.active) (CoreRun.cancelled_stopIf s.active)

theorem map (h : Orderly s) {f : CoreRun → CoreRun} (hf : ∀ r, (f r).attempt = r.attempt)
    (hc : ∀ r, r.cancelled = true → (f r).cancelled = true) :
    Orderly { s with runs := s.runs.map f } where
  ordered := h.ordered.map hf hc
  held a ha := by
    obtain ⟨hlatest, r, hr, hra⟩ := h.held a ha
    exact ⟨hlatest, f r, List.mem_map_of_mem hr, (hf r).trans hra⟩
  released ha := by
    rw [List.forall_mem_map]
    exact fun r hr => hc r (h.released ha r hr)
  told ht := by
    rw [List.forall_mem_map]
    exact fun r hr => hc r (h.told ht r hr)
  closing := h.closing
  present := h.present

theorem record (h : Orderly s) (attempt : Nat) (result : Except DispatchError Unit) :
    Orderly (s.record attempt result) :=
  h.map (CoreRun.attempt_noteIf attempt result) fun r hr =>
    (CoreRun.cancelled_noteIf attempt result r).trans hr

theorem cancel (h : Orderly s) : Orderly s.cancel := by
  have hruns : ∀ r ∈ s.cancel.runs, r.cancelled = true := by
    unfold Supervisor.cancel
    rw [List.forall_mem_map]
    exact fun _ _ => rfl
  have hmap := h.map (f := fun r => { r with cancelled := true }) (fun _ => rfl) fun _ _ => rfl
  exact { hmap with
    told := fun _ => hruns
    closing := fun hc => ⟨rfl, (h.closing hc).2⟩ }

theorem wake (h : Orderly s) : Orderly { s with phase := .idle } :=
  { h with
    closing := by simp [isClosed]
    present := by simp }

theorem close (h : Orderly s) (hc : s.cancelled = true) : Orderly s.close where
  ordered := h.ordered_stopActive
  held := by simp [Supervisor.close, stopActive]
  released _ := h.cancelled_stopActive
  told _ := h.cancelled_stopActive
  closing _ := ⟨hc, rfl⟩
  present := by simp [Supervisor.close]

theorem restart (h : Orderly s) (hp : s.phase = .idle) (hc : s.cancelled = false)
    (kind : RestartKind) (load : Except StoreError Document) :
    Orderly (s.restart kind load) := by
  have hopen : (s.restart kind load).isClosed = false := by simp [isClosed, hp]
  cases load with
  | error e =>
      exact {
        ordered := h.ordered_stopActive.succ h.cancelled_stopActive
        held := by simp [Except.toOption]
        released := fun _ => h.cancelled_stopActive
        told := by simp [hc]
        closing := by simp [hopen]
        present := by simp [hp] }
  | ok document =>
      refine {
        ordered := h.ordered_stopActive.cons h.cancelled_stopActive rfl
        held := ?_
        released := by simp [Except.toOption]
        told := by simp [hc]
        closing := by simp [hopen]
        present := by simp [hp] }
      intro a ha
      have hlatest : s.attempt + 1 = a := Option.some.inj ha
      exact ⟨hlatest.symm, _, List.mem_cons_self, hlatest⟩

theorem change (h : Orderly s) {t : Supervisor} {e : Event} (hc : Change s e t) : Orderly t := by
  cases hc with
  | asked _ => exact { h with }
  | refused _ => exact h
  | cancelled => exact h.cancel
  | ticked ms => exact { h with }
  | rested load _ => exact h
  | closed load _ hcancelled => exact h.close hcancelled
  | served load hp hcancelled _ =>
      have hs : Orderly { s with queue := none } := { h with }
      exact hs.restart hp hcancelled .manual load
  | delayed load hp _ _ =>
      exact { h with
        closing := by simp [isClosed]
        present := by simp }
  | resumed load due hp hcancelled _ =>
      exact h.wake.restart rfl hcancelled .crash load
  | drained load hp _ =>
      have hclosed : s.isClosed = true := by simp [isClosed, hp]
      exact { h with
        closing := fun _ => h.closing hclosed
        present := by simp }
  | ignored a result _ => exact h.record a result
  | succeeded a u _ => exact { h.record a (.ok u) with }
  | failed a e _ => exact { h.record a (.error e) with }

end Orderly

theorem Reachable.orderly {es : List Event} {s : Supervisor} (h : Reachable es s) : Orderly s :=
  Leads.keeps h Orderly.start fun hu _ hc => hu.change hc

/-- Of all runs that were ever started, one for every load that succeeded, at most one has not been
told to stop. Those of earlier attempts have been told, the one that is held is that of the latest
attempt, and when the latest load failed or the supervisor has closed all have been told. -/
theorem Reachable.at_most_one_uncancelled {es : List Event} {s : Supervisor} (h : Reachable es s) :
    s.attempt = (Supervisor.start.loaded es).length ∧
      s.documents = (Supervisor.start.loaded es).filterMap Except.toOption ∧
      (∀ r ∈ s.runs, r.attempt ≠ s.attempt → r.cancelled = true) ∧
      (∀ a, s.active = some a → a = s.attempt ∧ ∃ r ∈ s.runs, r.attempt = a) ∧
      ((∃ e, (Supervisor.start.loaded es).head? = some (.error e)) ∨ s.isClosed = true →
        ∀ r ∈ s.runs, r.cancelled = true) ∧
      (s.runs.filter fun r => !r.cancelled).length ≤ 1 := by
  have ho := h.orderly
  refine ⟨?_, ?_, ho.ordered.superseded, ho.held, ?_, ho.ordered.uncancelled_length_le_one⟩
  · rw [h.attempt_eq]
    exact Nat.zero_add _
  · rw [h.documents_eq]
    exact List.append_nil _
  · intro hend
    have hnone : s.active = none := by
      rcases hend with ⟨e, hl⟩ | hclosed
      · exact h.active_eq_none hl
      · exact (ho.closing hclosed).2
    exact ho.released hnone

def brokenReload : List Event :=
  [.poll (.error (.invalidField "routing")), .request, .poll (.ok .empty), .request]

theorem at_most_one_uncancelled_brokenReload :
    Reachable brokenReload (Supervisor.start.after brokenReload) ∧
      (Supervisor.start.after brokenReload).documents = [.empty] ∧
      (Supervisor.start.loaded brokenReload).head? = some (.error (.invalidField "routing")) ∧
      ∀ r ∈ (Supervisor.start.after brokenReload).runs, r.cancelled = true := by
  have h : Reachable brokenReload (Supervisor.start.after brokenReload) := by
    refine .step (.step (.step (.step .refl ?_) ?_) ?_) ?_ <;> trivial
  have hl : (Supervisor.start.loaded brokenReload).head? =
      some (.error (.invalidField "routing")) := rfl
  obtain ⟨_, hdocuments, _, _, hstopped, _⟩ := Reachable.at_most_one_uncancelled h
  exact ⟨h, hdocuments, hl, hstopped (.inl ⟨_, hl⟩)⟩

end ProxyWarden.Supervisor

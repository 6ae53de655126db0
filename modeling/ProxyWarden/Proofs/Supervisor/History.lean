import ProxyWarden.Proofs.Supervisor.Changes

/-!
# The history of the supervisor

The supervisor does not keep what it did. Its history is read off the events that led to a state:
`Supervisor.loaded` are the outcomes of all the loads of the document on the way. Every load is one
attempt to restart the core (`Leads.attempt_eq`), and the runs that were started are those of the
loads that succeeded, in the same order and with the documents that these gave
(`Leads.documents_eq`).
-/
namespace ProxyWarden.Supervisor

/-- The state after some events, the latest event first. -/
def after (s : Supervisor) : List Event → Supervisor
  | [] => s
  | e :: es => (s.after es).step e

theorem Leads.eq_after {s t : Supervisor} {es : List Event} (h : Leads s es t) :
    t = s.after es := by
  induction h with
  | refl => rfl
  | step _ _ ih => rw [ih]; rfl

/-- What the load of the document gives, if the event makes the supervisor load it. -/
def loadOf? (s : Supervisor) : Event → Option (Except StoreError Document)
  | .poll load => if s.loads then some load else none
  | _ => none

/-- What the loads of the document gave in the course of some events, the latest first. -/
def loaded (s : Supervisor) : List Event → List (Except StoreError Document)
  | [] => []
  | e :: es => ((s.after es).loadOf? e).toList ++ s.loaded es

theorem Leads.loaded_cons {s t : Supervisor} {es : List Event} (h : Leads s es t) (e : Event) :
    s.loaded (e :: es) = (t.loadOf? e).toList ++ s.loaded es := by
  rw [loaded, ← h.eq_after]

/-- The documents of the runs that were started, the latest first. -/
def documents (s : Supervisor) : List Document := s.runs.map CoreRun.document

@[simp] theorem documents_cancel (s : Supervisor) : s.cancel.documents = s.documents := by
  simp [documents, cancel, Function.comp_def]

@[simp] theorem documents_stopActive (s : Supervisor) : s.stopActive.documents = s.documents := by
  simp [documents, stopActive, Function.comp_def]

@[simp] theorem documents_record (s : Supervisor) (attempt : Nat)
    (result : Except DispatchError Unit) : (s.record attempt result).documents = s.documents := by
  simp [documents, record, Function.comp_def]

/-- An attempt starts a run if and only if the load gives a document, and gives it to the run. -/
theorem documents_restart (s : Supervisor) (kind : RestartKind)
    (load : Except StoreError Document) :
    (s.restart kind load).documents = load.toOption.toList ++ s.documents := by
  cases load with
  | error e => exact s.documents_stopActive
  | ok document =>
      change document :: s.stopActive.documents = document :: s.documents
      rw [documents_stopActive]

/-! ## Attempts and loads -/

/-- A change either makes an attempt, with what the load of the document gives in it, or makes none
and starts no run. -/
theorem Change.attempts {s t : Supervisor} {e : Event} (h : Change s e t) :
    (∃ load, s.loadOf? e = some load ∧ t.attempt = s.attempt + 1 ∧
        t.documents = load.toOption.toList ++ s.documents ∧
        t.active = load.toOption.map fun _ => s.attempt + 1) ∨
      (s.loadOf? e = none ∧ t.attempt = s.attempt ∧ t.documents = s.documents ∧
        (t.active = s.active ∨ t.active = none)) := by
  cases h with
  | served load hp hc hq =>
      have hl : s.loads = true := by simp [loads, hp, hc, hq]
      exact .inl ⟨load, by simp [loadOf?, hl], attempt_restart _ _ _, documents_restart _ _ _,
        active_restart _ _ _⟩
  | resumed load due hp hc hd =>
      have hl : s.loads = true := by simp [loads, hp, hc, hd]
      exact .inl ⟨load, by simp [loadOf?, hl], attempt_restart _ _ _, documents_restart _ _ _,
        active_restart _ _ _⟩
  | rested load hl => exact .inr ⟨by simp [loadOf?, hl], rfl, rfl, .inl rfl⟩
  | closed load hp hc =>
      have hl : s.loads = false := by simp [loads, hc]
      exact .inr ⟨by simp [loadOf?, hl], rfl, s.documents_stopActive, .inr rfl⟩
  | delayed load hp hc hq =>
      have hl : s.loads = false := by simp [loads, hp, hq]
      exact .inr ⟨by simp [loadOf?, hl], rfl, rfl, .inl rfl⟩
  | drained load hp hr =>
      have hl : s.loads = false := by simp [loads, hp]
      exact .inr ⟨by simp [loadOf?, hl], rfl, rfl, .inl rfl⟩
  | cancelled => exact .inr ⟨rfl, rfl, s.documents_cancel, .inl rfl⟩
  | asked _ | refused _ | ticked _ => exact .inr ⟨rfl, rfl, rfl, .inl rfl⟩
  | ignored a result _ => exact .inr ⟨rfl, rfl, s.documents_record a result, .inl rfl⟩
  | succeeded a u _ => exact .inr ⟨rfl, rfl, s.documents_record a (.ok u), .inl rfl⟩
  | failed a e _ => exact .inr ⟨rfl, rfl, s.documents_record a (.error e), .inl rfl⟩

/-- Every load of the document is one attempt, and there are no others. -/
theorem Leads.attempt_eq {s t : Supervisor} {es : List Event} (h : Leads s es t) :
    t.attempt = s.attempt + (s.loaded es).length := by
  induction h with
  | refl => rfl
  | step h _ ih =>
      rw [h.loaded_cons]
      rcases (change_step _ _).attempts with ⟨load, hl, ha, -, -⟩ | ⟨hl, ha, -, -⟩
      · rw [ha, ih, hl]
        simp only [Option.toList_some, List.singleton_append, List.length_cons]
        omega
      · rw [ha, ih, hl]
        rfl

/-- The runs that were started are those of the loads that succeeded. -/
theorem Leads.documents_eq {s t : Supervisor} {es : List Event} (h : Leads s es t) :
    t.documents = (s.loaded es).filterMap Except.toOption ++ s.documents := by
  induction h with
  | refl => rfl
  | step h _ ih =>
      rw [h.loaded_cons]
      rcases (change_step _ _).attempts with ⟨load, hl, -, hd, -⟩ | ⟨hl, -, hd, -⟩
      · rw [hd, ih, hl]
        cases load <;> rfl
      · rw [hd, ih, hl]
        rfl

/-- If the latest load succeeded, the run that was started last was given what it gave. -/
theorem Leads.exists_run_of_loaded {s t : Supervisor} {es : List Event} {document : Document}
    (h : Leads s es t) (hl : (s.loaded es).head? = some (.ok document)) :
    ∃ run rest, t.runs = run :: rest ∧ run.document = document := by
  obtain ⟨earlier, hcons⟩ := List.head?_eq_some_iff.1 hl
  have hd : t.documents = document :: (earlier.filterMap Except.toOption ++ s.documents) := by
    rw [h.documents_eq, hcons]
    rfl
  obtain ⟨run, rest, hruns, hdocument, -⟩ := List.map_eq_cons_iff.1 hd
  exact ⟨run, rest, hruns, hdocument⟩

/-- After a load that failed there is no run to stop until the next attempt. -/
theorem Leads.active_eq_none {s t : Supervisor} {es : List Event} {e : StoreError}
    (h : Leads s es t) (hl : (s.loaded es).head? = some (.error e)) : t.active = none := by
  induction h with
  | refl => cases hl
  | step h _ ih =>
      rw [h.loaded_cons] at hl
      rcases (change_step _ _).attempts with ⟨load, hload, -, -, ha⟩ | ⟨hload, -, -, ha⟩
      · rw [hload] at hl
        simp only [Option.toList_some, List.singleton_append, List.head?_cons,
          Option.some.injEq] at hl
        rw [ha, hl]
        rfl
      · rw [hload] at hl
        rcases ha with ha | ha
        · rw [ha, ih hl]
        · exact ha

/-! ## The moments of the attempts -/

/-- An attempt to restart the core: when it was made, and what the load of the document gave. -/
structure Attempt where
  moment : Nat
  load : Except StoreError Document

def attempts (s : Supervisor) : List Event → List Attempt
  | [] => []
  | e :: es =>
    (((s.after es).loadOf? e).map (Attempt.mk (s.after es).now)).toList ++ s.attempts es

theorem Leads.attempts_cons {s t : Supervisor} {es : List Event} (h : Leads s es t) (e : Event) :
    s.attempts (e :: es) = ((t.loadOf? e).map (Attempt.mk t.now)).toList ++ s.attempts es := by
  rw [attempts, ← h.eq_after]

theorem map_load_attempts (s : Supervisor) (es : List Event) :
    (s.attempts es).map Attempt.load = s.loaded es := by
  induction es with
  | nil => rfl
  | cons e es ih =>
      rw [attempts, loaded, List.map_append, ih]
      cases (s.after es).loadOf? e <;> rfl

end ProxyWarden.Supervisor

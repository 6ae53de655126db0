import ProxyWarden.Proofs.Supervisor.Crashes
import ProxyWarden.Proofs.Supervisor.Requests

/-!
# The wait after a crash

The wait is computed when the request of a crash is taken from the queue, from a count that three
kinds of events change. `Supervisor.marks` are these events, read off the history; the count is the
length of the row of failures at its front, as far as its word holds it
(`Reachable.crashes_eq_failures`). `Awaiting` says of a moment that nothing but a restart after a
crash can come next, and not before or after that moment.
-/
namespace ProxyWarden.Supervisor

/-! ## The history of crashes -/

inductive Mark where
  /-- A restart asked for from outside was served, or the run of the latest attempt ended well. -/
  | cleared
  /-- The run of the latest attempt returned an error. -/
  | failed
deriving DecidableEq, Repr

def markOf? (s : Supervisor) : Event → Option Mark
  | .poll _ =>
    if s.phase = .idle ∧ s.cancelled = false ∧ s.queue = some .manual then some .cleared else none
  | .finish attempt result =>
    if attempt = s.attempt ∧ s.isClosed = false then
      match result with
      | .ok _ => some .cleared
      | .error _ => some .failed
    else none
  | _ => none

def marks (s : Supervisor) : List Event → List Mark
  | [] => []
  | e :: es => ((s.after es).markOf? e).toList ++ s.marks es

/-- The number of failures since the latest other mark. -/
def failures (s : Supervisor) (es : List Event) : Nat :=
  ((s.marks es).takeWhile fun m => m == .failed).length

def Mark.count (crashes : Nat) : Mark → Nat
  | cleared => 0
  | failed => crashes + 1

section
variable {s t : Supervisor} {es : List Event} {e : Event}

theorem markOf?_finish_of_counts {attempt : Nat} (h : s.counts attempt = true)
    (result : Except DispatchError Unit) : s.markOf? (.finish attempt result) =
      match result with
      | .ok _ => some .cleared
      | .error _ => some .failed := by
  obtain ⟨rfl, hopen⟩ := counts_iff.1 h
  exact if_pos ⟨rfl, hopen⟩

theorem markOf?_finish_of_not_counts {attempt : Nat} (h : s.counts attempt = false)
    (result : Except DispatchError Unit) : s.markOf? (.finish attempt result) = none := by
  refine if_neg ?_
  rintro ⟨rfl, hopen⟩
  rw [counts_iff.2 ⟨rfl, hopen⟩] at h
  cases h

theorem Leads.failures_cons (h : Leads s es t) (e : Event) :
    s.failures (e :: es) =
      ((t.markOf? e).map (Mark.count (s.failures es))).getD (s.failures es) := by
  unfold failures
  rw [marks, ← h.eq_after]
  cases t.markOf? e with
  | none => rfl
  | some m => cases m <;> rfl

/-- A change counts a mark, as far as the word of the count holds it, and nothing else. -/
theorem Change.crashes (h : Change s e t) :
    t.crashes = ((s.markOf? e).map fun m => min (m.count s.crashes) maxCrashes).getD s.crashes := by
  cases h with
  | served load hp hc hq =>
      have hmark : s.markOf? (.poll load) = some .cleared := if_pos ⟨hp, hc, hq⟩
      rw [hmark]
      cases load <;> rfl
  | resumed load due hp _ _ =>
      have hmark : s.markOf? (.poll load) = none := by simp [markOf?, hp]
      rw [hmark]
      cases load <;> rfl
  | rested load hl =>
      have hmark : s.markOf? (.poll load) = none := by
        refine if_neg ?_
        rintro ⟨hp, hc, hq⟩
        simp [loads, hp, hc, hq] at hl
      rw [hmark]
      rfl
  | closed load _ hc =>
      have hmark : s.markOf? (.poll load) = none := by simp [markOf?, hc]
      rw [hmark]
      rfl
  | delayed load _ _ hq =>
      have hmark : s.markOf? (.poll load) = none := by simp [markOf?, hq]
      rw [hmark]
      rfl
  | drained load hp _ =>
      have hmark : s.markOf? (.poll load) = none := by simp [markOf?, hp]
      rw [hmark]
      rfl
  | ignored attempt result hcounts =>
      rw [markOf?_finish_of_not_counts hcounts]
      rfl
  | succeeded attempt u hcounts =>
      rw [markOf?_finish_of_counts hcounts]
      rfl
  | failed attempt error hcounts =>
      rw [markOf?_finish_of_counts hcounts]
      rfl
  | asked _ | refused _ | cancelled | ticked _ => rfl

end

/-- The count of crashes is the number of failures since the last restart that was asked for from
outside or the last good end, as far as its word holds it. -/
theorem Reachable.crashes_eq_failures {es : List Event} {s : Supervisor} (h : Reachable es s) :
    s.crashes = min (start.failures es) maxCrashes := by
  induction h with
  | refl => rfl
  | @step es s e h _ ih =>
      rw [h.failures_cons, (change_step s e).crashes]
      cases s.markOf? e with
      | none => exact ih
      | some m =>
          cases m with
          | cleared => rfl
          | failed =>
              simp only [Option.map_some, Option.getD_some, Mark.count]
              omega

/-! ## Clocks that wait for the supervisor -/

/-- The clock does not pass a moment at which the supervisor has something to do. -/
def Event.InTime (s : Supervisor) : Event → Prop
  | .tick ms =>
    s.cancelled = false →
      (∀ due, s.phase = .backingOff due → s.now + ms ≤ due) ∧
        (s.phase = .idle → s.queue.isSome = true → ms = 0)
  | _ => True

/-- The supervisor has its turn whenever it has something to do. -/
def Punctual (s : Supervisor) : List Event → Prop
  | [] => True
  | e :: es => e.InTime (s.after es) ∧ s.Punctual es

/-- The next attempt is that after a crash, at a moment that is yet to come, unless the whole
program is told to stop before. -/
def Awaiting (due : Nat) (s : Supervisor) : Prop :=
  s.cancelled = true ∨ (s.phase = .backingOff due ∧ s.now ≤ due) ∨
    (s.phase = .idle ∧ s.queue = some .crash ∧ s.now + backoff s.crashes = due)

namespace Awaiting

variable {s t : Supervisor} {due : Nat} {e : Event}

theorem now_eq_of_load (h : Awaiting due s) {load : Except StoreError Document}
    (hl : s.loadOf? e = some load) : s.now = due := by
  have hloads : s.loads = true := by
    cases e with
    | poll load' =>
        by_contra hno
        simp [loadOf?, hno] at hl
    | request | cancel | tick _ | finish _ _ => cases hl
  rcases h with hc | ⟨hp, hle⟩ | ⟨hp, hq, -⟩
  · simp [loads, hc] at hloads
  · simp only [loads, hp, Bool.and_eq_true, decide_eq_true_eq] at hloads
    omega
  · simp [loads, hp, hq] at hloads

theorem crashPending (h : Awaiting due s) (hc : s.cancelled = false) : s.CrashPending := by
  rcases h with hcancelled | ⟨hp, -⟩ | ⟨-, hq, -⟩
  · cases hc.symm.trans hcancelled
  · exact .inr ⟨due, hp⟩
  · exact .inl hq

/-- Until the attempt nothing moves its moment: requests find the queue taken, the run whose failure
is waited out does not return again, and those of earlier attempts do not count. -/
theorem change (h : Awaiting due s) (ho : Orderly s) (hv : Vigilant s) (he : e.Enabled s)
    (hin : e.InTime s) (hc : Change s e t) (hl : s.loadOf? e = none) : Awaiting due t := by
  cases hcancelled : s.cancelled with
  | true => exact .inl (hc.cancelled_mono hcancelled)
  | false =>
      have hwaits := h.resolve_left (by simp [hcancelled])
      have hpending := h.crashPending hcancelled
      cases hc with
      | refused _ | rested _ _ | ignored _ _ _ => exact h
      | cancelled => exact .inl rfl
      | asked _ =>
          refine .inr (hwaits.imp_right ?_)
          rintro ⟨hp, hq, hdue⟩
          exact ⟨hp, by simp [hq], hdue⟩
      | ticked ms =>
          obtain ⟨hback, hidle⟩ := hin hcancelled
          refine .inr (hwaits.imp ?_ ?_)
          · rintro ⟨hp, -⟩
            exact ⟨hp, hback due hp⟩
          · rintro ⟨hp, hq, hdue⟩
            have hms : ms = 0 := hidle hp (by simp [hq])
            subst hms
            exact ⟨hp, hq, hdue⟩
      | closed _ _ hclosing => cases hcancelled.symm.trans hclosing
      | served load hp hopen hq => simp [loadOf?, loads, hp, hopen, hq] at hl
      | resumed load _ hp hopen hd => simp [loadOf?, loads, hp, hopen, hd] at hl
      | delayed load hp _ _ =>
          rcases hwaits with ⟨hback, -⟩ | ⟨-, -, hdue⟩
          · cases hp.symm.trans hback
          · exact .inr (.inl ⟨by rw [hdue], hdue ▸ Nat.le_add_right _ _⟩)
      | drained load hp _ =>
          rcases hwaits with ⟨hback, -⟩ | ⟨hidle, -, -⟩
          · cases hp.symm.trans hback
          · cases hp.symm.trans hidle
      | succeeded attempt u hcounts | failed attempt error hcounts =>
          obtain ⟨rfl, -⟩ := counts_iff.1 hcounts
          exact absurd hpending (hv.not_crashPending ho he)

end Awaiting

/-- However things go on, the first attempt from now on is made at the moment `due`. Until then,
unless the whole program is told to stop, the moment is not over, and the supervisor makes the
attempt in its next turn exactly when the moment has come. -/
def NextAttemptAt (s : Supervisor) (due : Nat) : Prop :=
  ∀ (t : Supervisor) (later : List Event), Leads s later t → s.Punctual later →
    (∀ a, (s.attempts later).getLast? = some a → a.moment = due) ∧
      (s.attempts later = [] → t.cancelled = false →
        t.now ≤ due ∧ (t.loads = true ↔ t.now = due))

theorem Leads.awaiting {past later : List Event} {s t : Supervisor} {due : Nat}
    (hs : Reachable past s) (hdue : Awaiting due s) (h : Leads s later t)
    (hp : s.Punctual later) :
    (∀ a, (s.attempts later).getLast? = some a → a.moment = due) ∧
      (s.attempts later = [] → Awaiting due t) := by
  induction h with
  | refl => exact ⟨by simp [attempts], fun _ => hdue⟩
  | @step later u e h he ih =>
      obtain ⟨hin, hp⟩ := hp
      rw [← h.eq_after] at hin
      obtain ⟨hfirst, hnone⟩ := ih hp
      rw [h.attempts_cons]
      by_cases hnil : s.attempts later = []
      · have hu := hnone hnil
        have hreach : Reachable (later ++ past) u := Leads.trans hs h
        rw [hnil, List.append_nil]
        cases hl : u.loadOf? e with
        | some load =>
            refine ⟨?_, by simp⟩
            rintro a ⟨⟩
            exact hu.now_eq_of_load hl
        | none =>
            refine ⟨by simp, fun _ => ?_⟩
            exact hu.change hreach.orderly hreach.vigilant he hin (change_step u e) hl
      · rw [List.getLast?_append_of_ne_nil _ hnil]
        refine ⟨hfirst, ?_⟩
        intro hempty
        exact absurd (List.append_eq_nil_iff.1 hempty).2 hnil

theorem backoff_pos (crashes : Nat) : 0 < backoff crashes := by
  unfold backoff backoffSeconds
  omega

theorem Awaiting.nextAttemptAt {past : List Event} {s : Supervisor} {due : Nat}
    (hdue : Awaiting due s) (hs : Reachable past s) : s.NextAttemptAt due := by
  intro t later h hp
  obtain ⟨hfirst, hnone⟩ := h.awaiting hs hdue hp
  refine ⟨hfirst, ?_⟩
  intro hnil hc
  rcases hnone hnil with hcancelled | ⟨hback, hle⟩ | ⟨hidle, hq, hmoment⟩
  · cases hc.symm.trans hcancelled
  · have hloads : t.loads = true ↔ due ≤ t.now := by simp [loads, hback, hc]
    rw [hloads]
    omega
  · have hloads : t.loads = false := by simp [loads, hidle, hq]
    have hpos := backoff_pos t.crashes
    rw [hloads]
    simp only [Bool.false_eq_true, false_iff]
    omega

/-! ## The wait follows the history -/

theorem Reachable.phase_eq_idle {past : List Event} {s : Supervisor} (h : Reachable past s)
    (hc : s.cancelled = false) (hb : ¬ s.BackingOff) : s.phase = .idle := by
  have ho := h.orderly
  have hopen : s.isClosed = false := by
    by_contra hclosed
    rw [Bool.not_eq_false] at hclosed
    cases (ho.closing hclosed).1.symm.trans hc
  cases hp : s.phase with
  | idle => rfl
  | backingOff due => exact absurd ⟨due, hp⟩ hb
  | draining => simp [isClosed, hp] at hopen
  | ended => simp [isClosed, hp] at hopen
  | abandoned => exact absurd hp ho.present

/-- The wait begins when the request of a crash is taken from the queue. -/
theorem awaiting_poll {s : Supervisor} (hp : s.phase = .idle) (hc : s.cancelled = false)
    (hq : s.queue = some .crash) (load : Except StoreError Document) :
    Awaiting (s.now + backoff s.crashes) (s.poll load) := by
  have htaken : s.poll load =
      { s with queue := none, phase := .backingOff (s.now + backoff s.crashes) } := by
    simp [poll, hp, hc, hq]
  rw [htaken]
  exact .inr (.inl ⟨rfl, Nat.le_add_right _ _⟩)

/-- A failure of the latest run asks for the restart itself, if nobody else has done so. -/
theorem Reachable.awaiting_finish {past : List Event} {s : Supervisor} (h : Reachable past s)
    {error : DispatchError} (he : (Event.finish s.attempt (.error error)).Enabled s)
    (hc : s.cancelled = false) (hq : s.queue = none) :
    Awaiting (s.now + backoff (s.finish s.attempt (.error error)).crashes)
      (s.finish s.attempt (.error error)) := by
  have hnot := h.vigilant.not_crashPending h.orderly he
  have hp := h.phase_eq_idle hc fun hb => hnot (.inr hb)
  have hcounts : s.counts s.attempt = true := counts_iff.2 ⟨rfl, by simp [isClosed, hp]⟩
  have haccepts : s.accepts = true := by simp [accepts, isClosed, hp]
  refine .inr (.inr ⟨?_, ?_, ?_⟩)
  · rw [finish_error hcounts error]
    exact hp
  · rw [finish_error hcounts error]
    simp [haccepts, hq]
  · rw [finish_error hcounts error]
    rfl

/-- The count of crashes follows the history. When the request of a crash is taken from the queue
there is at least one, and the attempt is made ten seconds and five more for each of them later. So
if nobody else asks for a restart, the attempt after so many failures in a row is made this time
after the last of them, as long as the word of the count holds their number. -/
theorem Reachable.restart_after_backoff {past : List Event} {s : Supervisor}
    (h : Reachable past s) :
    s.crashes = min (start.failures past) maxCrashes ∧
      (s.phase = .idle → s.cancelled = false → s.queue = some .crash →
        1 ≤ s.crashes ∧
          ∀ load, (s.poll load).NextAttemptAt (s.now + (10 + 5 * s.crashes) * 1000)) ∧
      ∀ error, (Event.finish s.attempt (.error error)).Enabled s → s.cancelled = false →
        s.queue = none →
        ∀ k, start.failures (.finish s.attempt (.error error) :: past) = k → k ≤ maxCrashes →
          (s.step (.finish s.attempt (.error error))).NextAttemptAt
            (s.now + (10 + 5 * k) * 1000) := by
  refine ⟨h.crashes_eq_failures, ?_, ?_⟩
  · intro hp hc hq
    refine ⟨(h.vigilant.founded (.inl hq)).2.1, ?_⟩
    intro load
    have hstep : Reachable (.poll load :: past) (s.poll load) := Leads.step h trivial
    exact (awaiting_poll hp hc hq load).nextAttemptAt hstep
  · intro error he hc hq k hk hmax
    have hstep : Reachable (.finish s.attempt (.error error) :: past)
        (s.finish s.attempt (.error error)) := Leads.step h he
    have hcrashes := hstep.crashes_eq_failures
    rw [hk, Nat.min_eq_left hmax] at hcrashes
    have hdue := h.awaiting_finish he hc hq
    rw [hcrashes] at hdue
    exact hdue.nextAttemptAt hstep

/-- The core has failed once and works again. -/
def recovered : List Event :=
  [.poll (.ok .empty), .tick 15000, .poll (.ok .empty), .finish 1 (.error (.missingPipe "stdout")),
    .poll (.ok .empty), .request]

/-- A request comes in during the wait after a second failure. -/
def secondWait : List Event :=
  [.poll (.ok .empty), .tick 12000, .request, .tick 8000, .poll (.ok .empty)]

theorem restart_after_backoff_recovered :
    Reachable recovered (Supervisor.start.after recovered) ∧
      (Supervisor.start.after recovered).now = 15000 ∧
      ∀ a, (((Supervisor.start.after recovered).step
        (.finish 2 (.error (.missingPipe "stdout")))).attempts secondWait).getLast? = some a →
          a.moment = 35000 := by
  have h : Reachable recovered (Supervisor.start.after recovered) :=
    .step (.step (.step (.step (.step (.step .refl trivial) trivial) ⟨_, .head _, rfl, rfl⟩)
      trivial) trivial) trivial
  have hnext := (Reachable.restart_after_backoff h).2.2 (.missingPipe "stdout")
    ⟨_, .head _, rfl, rfl⟩ rfl rfl 2 rfl (by decide)
  have hlater : Leads ((Supervisor.start.after recovered).step
      (.finish 2 (.error (.missingPipe "stdout")))) secondWait
      (((Supervisor.start.after recovered).step
        (.finish 2 (.error (.missingPipe "stdout")))).after secondWait) :=
    .step (.step (.step (.step (.step .refl trivial) trivial) trivial) trivial) trivial
  refine ⟨h, rfl, ?_⟩
  refine (hnext _ _ hlater ⟨trivial, ?_, trivial, ?_, trivial, trivial⟩).1
  · intro _
    refine ⟨?_, ?_⟩
    · rintro due ⟨⟩
      decide
    · rintro ⟨⟩
  · intro _
    refine ⟨?_, ?_⟩
    · rintro due ⟨⟩
      decide
    · rintro ⟨⟩

end ProxyWarden.Supervisor

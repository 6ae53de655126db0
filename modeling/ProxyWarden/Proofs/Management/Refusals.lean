import ProxyWarden.Proofs.Management.Spacing

/-!
# Which calls are refused

A limiter refuses a call exactly if a call that it admitted is less than one interval old
(`Limiter.refuses_iff`), and the calls that it refuses leave no trace in it (`Limiter.after_admitted`).
By this law the surface refuses restarts and uploads, each kind for itself: neither the calls of the
other kind matter, nor what the calls ask for, nor what becomes of those that are admitted
(`Leads.refused_iff_recent`).
-/
namespace ProxyWarden

namespace Limiter

variable {interval now : Nat} {moments : List Nat}

def after (l : Limiter) : List Nat → Limiter
  | [] => l
  | now :: moments => (l.after moments).call now

/-- The moments of the calls that are admitted, of calls at these moments, the latest first. -/
def admitted (l : Limiter) : List Nat → List Nat
  | [] => []
  | now :: moments =>
    if (l.after moments).admits now then now :: l.admitted moments else l.admitted moments

theorem after_start (interval : Nat) (moments : List Nat) :
    (start interval).after moments = ⟨interval, lastAdmitted interval moments⟩ := by
  induction moments with
  | nil => rfl
  | cons now moments ih =>
      rw [after, ih]
      exact call_eq rfl now

theorem admitted_sublist (l : Limiter) (moments : List Nat) :
    (l.admitted moments).Sublist moments := by
  induction moments with
  | nil => exact .slnil
  | cons now moments ih =>
      rw [admitted]
      split_ifs
      · exact ih.cons_cons now
      · exact ih.cons now

/-- A limiter that has admitted nothing yet remembers the latest of the calls that it admits. -/
theorem lastAccepted_after (interval : Nat) (moments : List Nat) :
    ((start interval).after moments).lastAccepted = ((start interval).admitted moments).head? := by
  induction moments with
  | nil => rfl
  | cons now moments ih =>
      rw [after, admitted, call]
      split_ifs
      · rfl
      · exact ih

/-- The calls that are refused leave no trace. -/
theorem after_admitted (l : Limiter) (moments : List Nat) :
    l.after (l.admitted moments) = l.after moments := by
  induction moments with
  | nil => rfl
  | cons now moments ih =>
      rw [admitted, after]
      split_ifs with hadmits
      · rw [after, ih]
      · rw [ih, call, if_neg hadmits]

/-- If time does not run backwards, a call is refused exactly if some call that was admitted is less
than one interval old. -/
theorem refuses_iff (h : (now :: moments).Pairwise fun later earlier => earlier ≤ later) :
    ((start interval).after moments).admits now = false ↔
      ∃ t ∈ (start interval).admitted moments, now < t + interval := by
  have hlast := lastAccepted_after interval moments
  have hinterval : ((start interval).after moments).interval = interval := by rw [after_start]
  have hordered := h.sublist ((admitted_sublist (start interval) moments).cons_cons now)
  rw [admits, hlast, hinterval]
  cases hadmitted : (start interval).admitted moments with
  | nil => simp
  | cons t ts =>
      rw [hadmitted, List.pairwise_cons, List.pairwise_cons] at hordered
      obtain ⟨hpast, hlatest, -⟩ := hordered
      have ht : t ≤ now := hpast t List.mem_cons_self
      rw [List.head?_cons]
      simp only [decide_eq_false_iff_not]
      constructor
      · intro hrecent
        exact ⟨t, List.mem_cons_self, by omega⟩
      · rintro ⟨x, hx, hrecent⟩
        have hle : x ≤ t := (List.mem_cons.1 hx).elim Nat.le_of_eq (hlatest x)
        omega

end Limiter

namespace Surface

variable {s₀ s : Surface} {es : List Event} {e : Event} {k : CallKind}

/-! ## Calls and their answers -/

def answer? (s : Surface) : Event → Option (Except ManagementError Unit)
  | .restart => some s.restart.1
  | .upload data restart => some (s.upload data restart).1
  | _ => none

/-- The event is a call that is turned away for its limiter. -/
def Refuses (s : Surface) (e : Event) : Prop := s.answer? e = some (.error .tooManyRequests)

instance (s : Surface) (e : Event) : Decidable (s.Refuses e) :=
  inferInstanceAs (Decidable (_ = _))

/-- The moments of the calls of a kind that are not refused, the latest first. -/
def admitted (s : Surface) (k : CallKind) : List Event → List Nat
  | [] => []
  | e :: es =>
    if e.kind? = some k ∧ ¬ (s.after es).Refuses e then (s.after es).now :: s.admitted k es
    else s.admitted k es

theorem Leads.admitted_cons (h : s₀.Leads es s) (k : CallKind) (e : Event) :
    s₀.admitted k (e :: es) =
      if e.kind? = some k ∧ ¬ s.Refuses e then s.now :: s₀.admitted k es
      else s₀.admitted k es := by
  rw [admitted, ← h.eq_after]

/-- A request that is passed on is not answered like one that comes too early. -/
theorem request_ne_tooManyRequests (s : Surface) : s.request.1 ≠ .error .tooManyRequests := by
  unfold request
  split
  · simp
  · simp

theorem replace_ne_tooManyRequests (s : Surface) (document : Document) (restart : Bool) :
    (s.replace document restart).1 ≠ .error .tooManyRequests := by
  unfold replace
  split
  · simp
  · dsimp only
    split_ifs
    · exact request_ne_tooManyRequests _
    · simp

theorem restart_refused_iff (s : Surface) :
    s.restart.1 = .error .tooManyRequests ↔ s.restarts.admits s.now = false := by
  unfold restart
  split_ifs with hadmits
  · simp [hadmits, request_ne_tooManyRequests]
  · simpa using hadmits

theorem upload_refused_iff (s : Surface) (data : String) (restart : Bool) :
    (s.upload data restart).1 = .error .tooManyRequests ↔ s.uploads.admits s.now = false := by
  unfold upload
  split_ifs with hadmits
  · dsimp only
    split
    · simp [hadmits]
    · simp [hadmits, replace_ne_tooManyRequests]
  · simpa using hadmits

/-- A call is refused by the limiter of its kind and by nothing else. -/
theorem refuses_iff_not_admits (he : e.kind? = some k) :
    s.Refuses e ↔ (s.limiter k).admits s.now = false := by
  cases e with
  | restart =>
      cases he
      rw [Refuses, answer?, Option.some_inj]
      exact restart_refused_iff s
  | upload data restart =>
      cases he
      rw [Refuses, answer?, Option.some_inj]
      exact upload_refused_iff s data restart
  | _ => cases he

/-- A call that is refused changes nothing at all. -/
theorem step_of_refuses (h : s.Refuses e) : s.step e = s := by
  cases e with
  | restart =>
      rw [Refuses, answer?, Option.some_inj, restart_refused_iff] at h
      rw [step, restart, if_neg (by simp [h])]
  | upload data restart =>
      rw [Refuses, answer?, Option.some_inj, upload_refused_iff] at h
      rw [step, upload, if_neg (by simp [h])]
  | _ => cases h

/-! ## Calls of one kind -/

theorem Leads.moment_le (h : s₀.Leads es s) (k : CallKind) : ∀ t ∈ s₀.moments k es, t ≤ s.now := by
  induction h with
  | refl => simp [moments]
  | @step es r e h _ ih =>
      have hnow := now_le_step r e
      have hpast : ∀ t ∈ s₀.moments k es, t ≤ (r.step e).now := fun t ht => (ih t ht).trans hnow
      rw [h.moments_cons]
      split_ifs
      · exact List.forall_mem_cons.2 ⟨hnow, hpast⟩
      · exact hpast

theorem Leads.pairwise_moments (h : s₀.Leads es s) (k : CallKind) :
    (s.now :: s₀.moments k es).Pairwise fun later earlier => earlier ≤ later := by
  refine .cons (h.moment_le k) ?_
  induction h with
  | refl => exact .nil
  | @step es r e h _ ih =>
      rw [h.moments_cons]
      split_ifs
      · exact .cons (h.moment_le k) ih
      · exact ih

theorem Leads.limiter_eq_after (hs : s₀.Opened) (h : s₀.Leads es s) (k : CallKind) :
    s.limiter k = (Limiter.start callInterval).after (s₀.moments k es) := by
  rw [h.limiter_eq hs, Limiter.after_start]

/-- The calls that are answered otherwise than by a refusal are those that a limiter admits which sees
the calls of this kind only. -/
theorem Leads.admitted_eq (hs : s₀.Opened) (h : s₀.Leads es s) (k : CallKind) :
    s₀.admitted k es = (Limiter.start callInterval).admitted (s₀.moments k es) := by
  induction h with
  | refl => rfl
  | @step es r e h _ ih =>
      rw [h.admitted_cons, h.moments_cons, ih]
      by_cases he : e.kind? = some k
      · have hrefuses := refuses_iff_not_admits (s := r) he
        rw [h.limiter_eq_after hs] at hrefuses
        simp only [he, hrefuses, true_and, Bool.not_eq_false, if_true, Limiter.admitted]
      · rw [if_neg he, if_neg fun hcall => he hcall.1]

/-- A restart or an upload is refused exactly if a call of its kind that was not refused is less than
one interval old, and then changes nothing at all, the limiters included. Whether it is refused depends
on when the calls of its kind came, and on nothing else. Every limiter, whatever its interval is, works
by this law, and is what it would be without the calls that it refused. -/
theorem Leads.refused_iff_recent (hs : s₀.Opened) (h : s₀.Leads es s) (he : e.kind? = some k) :
    (s.Refuses e ↔ ∃ t ∈ s₀.admitted k es, s.now < t + callInterval) ∧
    (s.Refuses e → s.step e = s) ∧
    (∀ (r₀ r : Surface) (fs : List Event) (f : Event), r₀.Opened → r₀.Leads fs r →
      f.kind? = some k → r₀.moments k fs = s₀.moments k es → r.now = s.now →
      (r.Refuses f ↔ s.Refuses e)) ∧
    ∀ interval moments now, (now :: moments).Pairwise (fun later earlier => earlier ≤ later) →
      (((Limiter.start interval).after moments).admits now = false ↔
        ∃ t ∈ (Limiter.start interval).admitted moments, now < t + interval) ∧
      (Limiter.start interval).after ((Limiter.start interval).admitted moments) =
        (Limiter.start interval).after moments := by
  refine ⟨?_, step_of_refuses, ?_, ?_⟩
  · rw [refuses_iff_not_admits he, h.limiter_eq_after hs, h.admitted_eq hs]
    exact Limiter.refuses_iff (h.pairwise_moments k)
  · intro r₀ r fs f hr hleads hf hmoments hnow
    rw [refuses_iff_not_admits hf, refuses_iff_not_admits he, hleads.limiter_eq_after hr,
      h.limiter_eq_after hs, hmoments, hnow]
  · intro interval moments now hordered
    exact ⟨Limiter.refuses_iff hordered, Limiter.after_admitted _ moments⟩

/-! ## A restart called again and again -/

/-- A restart, an upload that is no object, and calls that come too early. -/
def impatientCalls : List Event :=
  [.tick 1, .upload sampleUpload true, .restart, .tick 3999, .upload "[]" true, .tick 1000, .restart]

theorem leads_impatientCalls :
    sampleSurface.Leads impatientCalls (sampleSurface.after impatientCalls) :=
  .step (.step (.step (.step (.step (.step (.step .refl trivial) trivial) trivial) trivial) trivial)
    trivial) trivial

theorem refused_iff_recent_impatientCalls :
    sampleSurface.admitted .restart impatientCalls = [0] ∧
    sampleSurface.admitted .upload impatientCalls = [1000] ∧
    (sampleSurface.after impatientCalls).now = 5000 ∧
    ¬ (sampleSurface.after impatientCalls).Refuses .restart ∧
    (sampleSurface.after impatientCalls).Refuses (.upload sampleUpload false) := by
  have hrestarts : sampleSurface.admitted .restart impatientCalls = [0] := by decide +kernel
  have huploads : sampleSurface.admitted .upload impatientCalls = [1000] := by decide +kernel
  have hnow : (sampleSurface.after impatientCalls).now = 5000 := by decide +kernel
  have hrestart := (leads_impatientCalls.refused_iff_recent (e := .restart) opened_sampleSurface rfl).1
  have hupload := (leads_impatientCalls.refused_iff_recent (e := .upload sampleUpload false)
    opened_sampleSurface rfl).1
  rw [hnow] at hrestart hupload
  refine ⟨hrestarts, huploads, hnow, ?_, ?_⟩
  · rw [hrestart, hrestarts]
    decide
  · rw [hupload, huploads]
    decide

end Surface

end ProxyWarden

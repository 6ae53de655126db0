import Mathlib.Tactic.SplitIfs
import ProxyWarden.Management.Course

/-!
# What the limiters remember

Whether a call is admitted depends on the moments of the calls of its kind before it and on nothing
else. `lastAdmitted` says from these moments alone when a call was admitted last, and in every state
the limiter of a kind of calls remembers exactly that (`Leads.limiter_eq`).
-/
namespace ProxyWarden

/-- When a call was admitted last, of calls at these moments, the latest first: a call is admitted if
none was for one interval. -/
def lastAdmitted (interval : Nat) : List Nat → Option Nat
  | [] => none
  | now :: moments =>
    if (lastAdmitted interval moments).any fun t => decide (now - t < interval) then
      lastAdmitted interval moments
    else some now

namespace Limiter

variable {l : Limiter} {moments : List Nat}

theorem admits_eq (h : l.lastAccepted = lastAdmitted l.interval moments) (now : Nat) :
    l.admits now =
      !((lastAdmitted l.interval moments).any fun t => decide (now - t < l.interval)) := by
  rw [admits, h]
  cases lastAdmitted l.interval moments with
  | none => rfl
  | some t =>
      rw [Option.any_some, ← decide_not]
      exact decide_eq_decide.2 (by omega)

/-- A limiter remembers the last call that was admitted. -/
theorem call_eq (h : l.lastAccepted = lastAdmitted l.interval moments) (now : Nat) :
    l.call now = ⟨l.interval, lastAdmitted l.interval (now :: moments)⟩ := by
  have hadmits := admits_eq h now
  rw [lastAdmitted]
  unfold call
  cases hrefused : (lastAdmitted l.interval moments).any fun t => decide (now - t < l.interval) with
  | true =>
      rw [hadmits, hrefused, if_neg (by simp), if_pos rfl, ← h]
  | false =>
      rw [hadmits, hrefused, if_pos (by simp), if_neg (by simp)]

end Limiter

namespace Surface

variable {s t : Surface} {es : List Event}

def after (s : Surface) : List Event → Surface
  | [] => s
  | e :: es => (s.after es).step e

theorem Leads.eq_after (h : Leads s es t) : t = s.after es := by
  induction h with
  | refl => rfl
  | step _ _ ih => rw [ih]; rfl

/-- The calls that are limited, each kind for itself. -/
inductive CallKind where
  | restart
  | upload
deriving DecidableEq, Repr

def limiter (s : Surface) : CallKind → Limiter
  | .restart => s.restarts
  | .upload => s.uploads

def Event.kind? : Event → Option CallKind
  | .restart => some .restart
  | .upload _ _ => some .upload
  | _ => none

/-- The moments of the calls of a kind, admitted or not, the latest first. -/
def moments (s : Surface) (k : CallKind) : List Event → List Nat
  | [] => []
  | e :: es => if e.kind? = some k then (s.after es).now :: s.moments k es else s.moments k es

theorem Leads.moments_cons (h : Leads s es t) (k : CallKind) (e : Event) :
    s.moments k (e :: es) = if e.kind? = some k then t.now :: s.moments k es else s.moments k es := by
  rw [moments, ← h.eq_after]

theorem limiter_request (s : Surface) (k : CallKind) : s.request.2.limiter k = s.limiter k := by
  unfold request
  split
  · rfl
  · cases k <;> rfl

/-- Every restart goes through its limiter, whatever comes of it. -/
theorem limiter_restart (s : Surface) (k : CallKind) : s.restart.2.limiter k =
    if k = .restart then (s.limiter k).call s.now else s.limiter k := by
  unfold restart
  by_cases hadmits : s.restarts.admits s.now = true
  · rw [if_pos hadmits, limiter_request]
    cases k <;> rfl
  · rw [if_neg hadmits]
    cases k with
    | restart =>
        rw [if_pos rfl]
        exact (if_neg hadmits).symm
    | upload => rfl

theorem limiter_replace (s : Surface) (document : Document) (restart : Bool) (k : CallKind) :
    (s.replace document restart).2.limiter k = s.limiter k := by
  unfold replace
  split
  · cases k <;> rfl
  · dsimp only
    split_ifs
    · rw [limiter_request]
      cases k <;> rfl
    · cases k <;> rfl

/-- Every upload goes through its limiter, whatever comes of it. -/
theorem limiter_upload (s : Surface) (data : String) (restart : Bool) (k : CallKind) :
    (s.upload data restart).2.limiter k =
      if k = .upload then (s.limiter k).call s.now else s.limiter k := by
  unfold upload
  by_cases hadmits : s.uploads.admits s.now = true
  · rw [if_pos hadmits]
    dsimp only
    split
    · cases k <;> rfl
    · rw [limiter_replace]
      cases k <;> rfl
  · rw [if_neg hadmits]
    cases k with
    | restart => rfl
    | upload =>
        rw [if_pos rfl]
        exact (if_neg hadmits).symm

theorem limiter_step (s : Surface) (e : Event) (k : CallKind) : (s.step e).limiter k =
    if e.kind? = some k then (s.limiter k).call s.now else s.limiter k := by
  cases e with
  | restart =>
      rw [step, limiter_restart]
      cases k <;> rfl
  | upload data restart =>
      rw [step, limiter_upload]
      cases k <;> rfl
  | _ => cases k <;> rfl

theorem Opened.limiter_eq (h : s.Opened) (k : CallKind) : s.limiter k = .start callInterval := by
  obtain ⟨settings, accessLog, coreLog, cache, before, after, hopen⟩ := h
  unfold open? at hopen
  split at hopen
  · cases hopen
  · split at hopen
    · cases hopen
    · split at hopen
      · cases hopen
      · cases hopen
        cases k <;> rfl

/-- The limiter of each kind of calls remembers the last one that was admitted. -/
theorem Leads.limiter_eq (hs : s.Opened) (h : Leads s es t) (k : CallKind) :
    t.limiter k = ⟨callInterval, lastAdmitted callInterval (s.moments k es)⟩ := by
  induction h with
  | refl => exact hs.limiter_eq k
  | @step es t e h _ ih =>
      rw [h.moments_cons, limiter_step]
      split_ifs
      · rw [ih]
        exact Limiter.call_eq rfl t.now
      · exact ih

end Surface

end ProxyWarden

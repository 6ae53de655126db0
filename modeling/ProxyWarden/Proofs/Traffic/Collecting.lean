import ProxyWarden.Proofs.Traffic.Differences
import ProxyWarden.Proofs.Traffic.Rounds

/-!
# Rounds from beginning to end

A round that is followed to its end takes one of seven courses (`Course`): it completes, one of its
queries fails, or it sees at its beginning or after one of its waits that it is cancelled. What it
returns depends on the answers alone: the rates are those of the pause, whenever the answers came, and
the counters of an answer can stand in any order (`collect_ignores_latency`).
-/
namespace ProxyWarden.Traffic

variable {cancelAt : Option Nat} {now moment due waits : Nat} {source : Source} {r : Round}
  {reply : Except StatsError (List Counter)}

/-! ## The moments of a round -/

def firstAnswered (now : Nat) (source : Source) : Nat := now + source.next.delay

def secondReply (now : Nat) (source : Source) : Reply := (source.ask now).next

/-- When the second query is begun, one second after the first answer. -/
def resumed (now : Nat) (source : Source) : Nat := firstAnswered now source + 1000

def secondAnswered (now : Nat) (source : Source) : Nat :=
  resumed now source + (secondReply now source).delay

theorem cancelledBy_mono {t : Nat} (h : cancelledBy cancelAt t = true) (hle : t ≤ moment) :
    cancelledBy cancelAt moment = true := by
  cases cancelAt with
  | none => cases h
  | some c => exact decide_eq_true (Nat.le_trans (of_decide_eq_true h) hle)

/-- A token that is cancelled by the time the round can go on is seen to be cancelled. -/
theorem cancelledBy_nextMoment (hdue : r.due? = some due) (hlive : cancelledBy cancelAt now = false)
    (h : cancelledBy cancelAt due = true) :
    cancelledBy cancelAt (nextMoment cancelAt now r) = true := by
  cases cancelAt with
  | none => cases h
  | some c =>
      simp only [cancelledBy, decide_eq_true_eq, decide_eq_false_iff_not] at *
      simp only [nextMoment, hdue]
      rw [if_pos (Nat.lt_of_not_le hlive)]
      omega

theorem nextMoment_of_live (hdue : r.due? = some due) (hlive : cancelledBy cancelAt now = false)
    (h : cancelledBy cancelAt due = false) : nextMoment cancelAt now r = due := by
  cases cancelAt with
  | none => simp only [nextMoment, hdue]
  | some c =>
      simp only [cancelledBy, decide_eq_false_iff_not] at *
      simp only [nextMoment, hdue]
      rw [if_pos (Nat.lt_of_not_le hlive)]
      omega

/-! ## Waiting -/

/-- What is left of a round that has gone on at a moment. -/
def settle (cancelAt : Option Nat) (waits : Nat) (p : Round × Source) (now : Nat) : Collection :=
  match p.1 with
  | .ended result => ⟨result, now, p.2⟩
  | next => followRound cancelAt waits next (nextMoment cancelAt now next) p.2

theorem followRound_succ : followRound cancelAt (waits + 1) r now source =
    settle cancelAt waits (r.poll now (cancelledBy cancelAt now) source) now := rfl

theorem result?_of_due? (h : r.due? = some due) : r.result? = none := by
  cases r with
  | ended result => cases h
  | _ => rfl

theorem settle_of_due? (h : r.due? = some due) : settle cancelAt waits (r, source) now =
    followRound cancelAt waits r (nextMoment cancelAt now r) source := by
  cases r with
  | ended result => cases h
  | _ => rfl

theorem settle_of_cancelled (hdue : r.due? = some due) (hlive : cancelledBy cancelAt now = false)
    (h : cancelledBy cancelAt due = true) : ∃ moment, cancelledBy cancelAt moment = true ∧
      settle cancelAt (waits + 1) (r, source) now = ⟨.error .cancelled, moment, source⟩ := by
  have hseen := cancelledBy_nextMoment hdue hlive h
  refine ⟨nextMoment cancelAt now r, hseen, ?_⟩
  rw [settle_of_due? hdue, followRound_succ, hseen,
    (Round.poll_of_cancelled (result?_of_due? hdue) _ source).1]
  rfl

theorem settle_of_live (hdue : r.due? = some due) (hlive : cancelledBy cancelAt now = false)
    (h : cancelledBy cancelAt due = false) : settle cancelAt (waits + 1) (r, source) now =
      settle cancelAt waits (r.poll due false source) due := by
  rw [settle_of_due? hdue, nextMoment_of_live hdue hlive h, followRound_succ, h]

inductive Round.Awaits (due : Nat) (reply : Except StatsError (List Counter)) : Round → Prop where
  | first : Awaits due reply (.first due reply)
  | second (sample : Sample) (start : Nat) : Awaits due reply (.second sample start due reply)

namespace Round.Awaits

theorem due?_eq (h : r.Awaits due reply) : r.due? = some due := by
  cases h <;> rfl

theorem turn_of_lt (h : r.Awaits due reply) (hlt : now < due) (source : Source) :
    r.turn now false source = (r, source) := by
  cases h <;> simp [Round.turn, hlt]

/-- Once the answer is there, the round ends or pauses. -/
theorem poll_due (h : r.Awaits due reply) (source : Source) :
    r.poll due false source = r.turn due false source := by
  unfold Round.poll
  cases h <;> cases reply <;> simp [Round.turn, sampleGap]

end Round.Awaits

/-- A query that was begun at a moment and is answered without delay is seen to be answered at once,
any other after a wait. -/
theorem settle_answer (h : r.Awaits due reply) (hle : now ≤ due)
    (hlive : cancelledBy cancelAt now = false) (hdue : cancelledBy cancelAt due = false)
    (waits : Nat) (source : Source) : ∃ left, waits ≤ left ∧
      settle cancelAt (waits + 1) (r.turn now false source) now =
        settle cancelAt left (r.turn due false source) due := by
  cases Nat.eq_or_lt_of_le hle with
  | inl heq =>
      subst heq
      exact ⟨waits + 1, Nat.le_succ waits, rfl⟩
  | inr hlt =>
      refine ⟨waits, Nat.le_refl waits, ?_⟩
      rw [h.turn_of_lt hlt, settle_of_live h.due?_eq hlive hdue, h.poll_due]

theorem settle_answer_of_cancelled (h : r.Awaits due reply) (hle : now ≤ due)
    (hlive : cancelledBy cancelAt now = false) (hdue : cancelledBy cancelAt due = true)
    (waits : Nat) (source : Source) : ∃ moment, cancelledBy cancelAt moment = true ∧
      settle cancelAt (waits + 1) (r.turn now false source) now =
        ⟨.error .cancelled, moment, source⟩ := by
  have hlt : now < due := by
    refine Nat.lt_of_le_of_ne hle ?_
    rintro rfl
    cases hlive.symm.trans hdue
  rw [h.turn_of_lt hlt]
  exact settle_of_cancelled h.due?_eq hlive hdue

/-! ## The courses of a round -/

/-- What can become of a round that begins at a moment, and how it comes to that. -/
inductive Course (cancelAt : Option Nat) (now : Nat) (source : Source) : Collection → Prop where
  /-- It was cancelled before it began. -/
  | unbegun : cancelledBy cancelAt now = true →
      Course cancelAt now source ⟨.error .cancelled, now, source⟩
  /-- It is cancelled while it waits for the first answer. -/
  | leftFirst {moment : Nat} : cancelledBy cancelAt now = false →
      cancelledBy cancelAt (firstAnswered now source) = true → cancelledBy cancelAt moment = true →
      Course cancelAt now source ⟨.error .cancelled, moment, source.ask now⟩
  | failedFirst {e : StatsError} : cancelledBy cancelAt (firstAnswered now source) = false →
      source.next.result = .error e →
      Course cancelAt now source ⟨.error e, firstAnswered now source, source.ask now⟩
  /-- It is cancelled in the pause. -/
  | leftPause {counters : List Counter} {moment : Nat} :
      cancelledBy cancelAt (firstAnswered now source) = false →
      source.next.result = .ok counters → cancelledBy cancelAt (resumed now source) = true →
      cancelledBy cancelAt moment = true →
      Course cancelAt now source ⟨.error .cancelled, moment, source.ask now⟩
  /-- It is cancelled while it waits for the second answer. -/
  | leftSecond {counters : List Counter} {moment : Nat} :
      cancelledBy cancelAt (resumed now source) = false → source.next.result = .ok counters →
      cancelledBy cancelAt (secondAnswered now source) = true → cancelledBy cancelAt moment = true →
      Course cancelAt now source
        ⟨.error .cancelled, moment, (source.ask now).ask (resumed now source)⟩
  | failedSecond {counters : List Counter} {e : StatsError} :
      cancelledBy cancelAt (secondAnswered now source) = false →
      source.next.result = .ok counters → (secondReply now source).result = .error e →
      Course cancelAt now source ⟨.error e, secondAnswered now source,
        (source.ask now).ask (resumed now source)⟩
  | completed {before after : List Counter} :
      cancelledBy cancelAt (secondAnswered now source) = false →
      source.next.result = .ok before → (secondReply now source).result = .ok after →
      Course cancelAt now source
        ⟨.ok (Round.snapshots (.ofCounters before) (firstAnswered now source) after),
          secondAnswered now source, (source.ask now).ask (resumed now source)⟩

/-- From the second query on. -/
theorem course_of_resumed {before : List Counter} (hfirst : source.next.result = .ok before)
    (hlive : cancelledBy cancelAt (resumed now source) = false) (waits : Nat) :
    Course cancelAt now source (settle cancelAt (waits + 1)
      ((Round.second (.ofCounters before) (firstAnswered now source) (secondAnswered now source)
        (secondReply now source).result).turn (resumed now source) false
          ((source.ask now).ask (resumed now source))) (resumed now source)) := by
  have hle : resumed now source ≤ secondAnswered now source := Nat.le_add_right _ _
  cases hdue : cancelledBy cancelAt (secondAnswered now source) with
  | true =>
      obtain ⟨moment, hmoment, heq⟩ :=
        settle_answer_of_cancelled (.second _ _) hle hlive hdue waits _
      rw [heq]
      exact .leftSecond hlive hfirst hdue hmoment
  | false =>
      obtain ⟨left, -, heq⟩ := settle_answer (.second _ _) hle hlive hdue waits _
      rw [heq]
      cases hsecond : (secondReply now source).result with
      | error e => simpa [Round.turn, settle] using .failedSecond hdue hfirst hsecond
      | ok after => simpa [Round.turn, settle] using .completed hdue hfirst hsecond

/-- From the pause on. -/
theorem course_of_answered {before : List Counter} (hfirst : source.next.result = .ok before)
    (hlive : cancelledBy cancelAt (firstAnswered now source) = false) (waits : Nat) :
    Course cancelAt now source (settle cancelAt (waits + 2)
      (.pausing (.ofCounters before) (resumed now source), source.ask now)
        (firstAnswered now source)) := by
  have hwaits : (Round.pausing (.ofCounters before) (resumed now source)).due? =
      some (resumed now source) := rfl
  cases hdue : cancelledBy cancelAt (resumed now source) with
  | true =>
      obtain ⟨moment, hmoment, heq⟩ := settle_of_cancelled hwaits hlive hdue
      rw [heq]
      exact .leftPause hlive hfirst hdue hmoment
  | false =>
      rw [settle_of_live hwaits hlive hdue]
      have hturn : (Round.pausing (.ofCounters before) (resumed now source)).turn
          (resumed now source) false (source.ask now) =
            (.second (.ofCounters before) (firstAnswered now source) (secondAnswered now source)
              (secondReply now source).result, (source.ask now).ask (resumed now source)) := by
        simp [Round.turn, resumed, sampleGap, secondAnswered, secondReply]
      unfold Round.poll
      rw [hturn]
      exact course_of_resumed hfirst hdue waits

theorem collect_course (cancelAt : Option Nat) (now : Nat) (source : Source) :
    Course cancelAt now source (collect cancelAt now source) := by
  unfold collect
  rw [followRound_succ]
  cases hnow : cancelledBy cancelAt now with
  | true => exact .unbegun hnow
  | false =>
      change Course cancelAt now source (settle cancelAt 3 ((Round.first (firstAnswered now source)
        source.next.result).turn now false (source.ask now)) now)
      have hle : now ≤ firstAnswered now source := Nat.le_add_right _ _
      cases hdue : cancelledBy cancelAt (firstAnswered now source) with
      | true =>
          obtain ⟨moment, hmoment, heq⟩ := settle_answer_of_cancelled .first hle hnow hdue 2 _
          rw [heq]
          exact .leftFirst hnow hdue hmoment
      | false =>
          obtain ⟨left, hleft, heq⟩ := settle_answer .first hle hnow hdue 2 (source.ask now)
          rw [heq]
          cases hfirst : source.next.result with
          | error e => simpa [Round.turn, settle] using .failedFirst hdue hfirst
          | ok before =>
              obtain ⟨waits, rfl⟩ := Nat.exists_eq_add_of_le' hleft
              simpa [Round.turn, resumed, sampleGap] using course_of_answered hfirst hdue waits

/-! ## What every course keeps -/

/-- What holds of a round that begins at a moment and leaves this collection. -/
structure Collects (cancelAt : Option Nat) (now : Nat) (source : Source) (c : Collection) : Prop where
  /-- It begins at most two queries, which set nothing back, and the second one only after the first
  was answered without an error, one second after the answer. -/
  queries : ∃ asked, c.source.queries = asked ++ source.queries ∧ (∀ q ∈ asked, q.reset = false) ∧
    (asked.map (·.moment) = [] ∨ asked.map (·.moment) = [now] ∨
      asked.map (·.moment) = [firstAnswered now source + 1000, now] ∧
        ∃ counters, source.next.result = .ok counters)
  /-- Cancelled before it begins, it begins no query. -/
  unbegun : cancelledBy cancelAt now = true → c.result = .error .cancelled ∧ c.source = source
  /-- Cancelled by the time of the first answer, it begins no second query. -/
  left_first : cancelledBy cancelAt (firstAnswered now source) = true →
    c.result = .error .cancelled ∧ c.source.queries.length ≤ source.queries.length + 1
  /-- Cancelled by the end of the pause, it begins no second query. -/
  left_pause : ∀ counters, source.next.result = .ok counters →
    cancelledBy cancelAt (firstAnswered now source + 1000) = true →
      c.result = .error .cancelled ∧ c.source.queries.length ≤ source.queries.length + 1
  left_second : ∀ counters, source.next.result = .ok counters →
    cancelledBy cancelAt (secondAnswered now source) = true → c.result = .error .cancelled
  failed_first : ∀ e, source.next.result = .error e →
    cancelledBy cancelAt (firstAnswered now source) = false → c.result = .error e
  failed_second : ∀ counters e, source.next.result = .ok counters →
    (secondReply now source).result = .error e →
      cancelledBy cancelAt (secondAnswered now source) = false → c.result = .error e
  /-- It returns snapshots exactly if both queries are answered without an error in time. -/
  completed : (∃ list, c.result = .ok list) ↔ (∃ counters, source.next.result = .ok counters) ∧
    (∃ counters, (secondReply now source).result = .ok counters) ∧
      cancelledBy cancelAt (secondAnswered now source) = false

theorem cancelledBy_firstAnswered (h : cancelledBy cancelAt now = true) :
    cancelledBy cancelAt (firstAnswered now source) = true :=
  cancelledBy_mono h (Nat.le_add_right _ _)

theorem cancelledBy_resumed (h : cancelledBy cancelAt (firstAnswered now source) = true) :
    cancelledBy cancelAt (resumed now source) = true :=
  cancelledBy_mono h (Nat.le_add_right _ _)

theorem cancelledBy_secondAnswered (h : cancelledBy cancelAt (resumed now source) = true) :
    cancelledBy cancelAt (secondAnswered now source) = true :=
  cancelledBy_mono h (Nat.le_add_right _ _)

variable {c : Collection}

theorem Course.queries (h : Course cancelAt now source c) :
    ∃ asked, c.source.queries = asked ++ source.queries ∧ (∀ q ∈ asked, q.reset = false) ∧
      (asked.map (·.moment) = [] ∨ asked.map (·.moment) = [now] ∨
        asked.map (·.moment) = [resumed now source, now] ∧
          ∃ counters, source.next.result = .ok counters) := by
  have hone : ∀ q ∈ [(⟨now, false⟩ : Query)], q.reset = false := by simp
  have htwo : ∀ q ∈ [(⟨resumed now source, false⟩ : Query), ⟨now, false⟩], q.reset = false := by simp
  cases h with
  | unbegun _ => exact ⟨[], rfl, by simp, .inl rfl⟩
  | leftFirst _ _ _ => exact ⟨[⟨now, false⟩], rfl, hone, .inr (.inl rfl)⟩
  | failedFirst _ _ => exact ⟨[⟨now, false⟩], rfl, hone, .inr (.inl rfl)⟩
  | leftPause _ _ _ _ => exact ⟨[⟨now, false⟩], rfl, hone, .inr (.inl rfl)⟩
  | leftSecond _ hfirst _ _ => exact ⟨[_, _], rfl, htwo, .inr (.inr ⟨rfl, _, hfirst⟩)⟩
  | failedSecond _ hfirst _ => exact ⟨[_, _], rfl, htwo, .inr (.inr ⟨rfl, _, hfirst⟩)⟩
  | completed _ hfirst _ => exact ⟨[_, _], rfl, htwo, .inr (.inr ⟨rfl, _, hfirst⟩)⟩

/-- A round that was cancelled before it began does nothing. -/
theorem Course.eq_of_cancelled (h : Course cancelAt now source c)
    (hc : cancelledBy cancelAt now = true) : c = ⟨.error .cancelled, now, source⟩ := by
  have hfirst : cancelledBy cancelAt (firstAnswered now source) = true := cancelledBy_firstAnswered hc
  have hresumed := cancelledBy_resumed hfirst
  have hsecond := cancelledBy_secondAnswered hresumed
  cases h with
  | unbegun _ => rfl
  | leftFirst hlive _ _ => cases hlive.symm.trans hc
  | failedFirst hlive _ => cases hlive.symm.trans hfirst
  | leftPause hlive _ _ _ => cases hlive.symm.trans hfirst
  | leftSecond hlive _ _ _ => cases hlive.symm.trans hresumed
  | failedSecond hlive _ _ => cases hlive.symm.trans hsecond
  | completed hlive _ _ => cases hlive.symm.trans hsecond

/-- A round that is cancelled by the end of the pause leaves before its second query. -/
theorem Course.left (h : Course cancelAt now source c)
    (hc : cancelledBy cancelAt (resumed now source) = true)
    (hfirst : cancelledBy cancelAt (firstAnswered now source) = true ∨
      ∃ counters, source.next.result = .ok counters) :
    c.result = .error .cancelled ∧ c.source.queries.length ≤ source.queries.length + 1 := by
  have hlate := cancelledBy_secondAnswered hc
  cases h with
  | unbegun _ => exact ⟨rfl, Nat.le_succ _⟩
  | leftFirst _ _ _ => exact ⟨rfl, Nat.le_refl _⟩
  | leftPause _ _ _ _ => exact ⟨rfl, Nat.le_refl _⟩
  | failedFirst hlive hfailed =>
      simp [hlive, hfailed] at hfirst
  | leftSecond hlive _ _ _ => cases hlive.symm.trans hc
  | failedSecond hlive _ _ => cases hlive.symm.trans hlate
  | completed hlive _ _ => cases hlive.symm.trans hlate

theorem Course.failed_first {e : StatsError} (h : Course cancelAt now source c)
    (hfirst : source.next.result = .error e)
    (hlive : cancelledBy cancelAt (firstAnswered now source) = false) : c.result = .error e := by
  cases h with
  | unbegun hc => cases hlive.symm.trans (cancelledBy_firstAnswered hc)
  | leftFirst _ hc _ => cases hlive.symm.trans hc
  | failedFirst _ hfailed =>
      cases hfailed.symm.trans hfirst
      rfl
  | leftPause _ hok _ _ => cases hok.symm.trans hfirst
  | leftSecond _ hok _ _ => cases hok.symm.trans hfirst
  | failedSecond _ hok _ => cases hok.symm.trans hfirst
  | completed _ hok _ => cases hok.symm.trans hfirst

theorem Course.left_second {before : List Counter} (h : Course cancelAt now source c)
    (hfirst : source.next.result = .ok before)
    (hc : cancelledBy cancelAt (secondAnswered now source) = true) :
    c.result = .error .cancelled := by
  cases h with
  | failedFirst _ hfailed => cases hfailed.symm.trans hfirst
  | failedSecond hlive _ _ => cases hlive.symm.trans hc
  | completed hlive _ _ => cases hlive.symm.trans hc
  | _ => rfl

/-- If nothing cancels the round after its first answer, the second answer decides. -/
theorem Course.result_of_live {before : List Counter} (h : Course cancelAt now source c)
    (hfirst : source.next.result = .ok before)
    (hlive : cancelledBy cancelAt (secondAnswered now source) = false) :
    c.result = (secondReply now source).result.map
      (Round.snapshots (.ofCounters before) (firstAnswered now source)) := by
  have hlate : cancelledBy cancelAt (resumed now source) ≠ true := by
    intro hc
    cases hlive.symm.trans (cancelledBy_secondAnswered hc)
  cases h with
  | unbegun hc => exact absurd (cancelledBy_resumed (cancelledBy_firstAnswered hc)) hlate
  | leftFirst _ hc _ => exact absurd (cancelledBy_resumed hc) hlate
  | leftPause _ _ hc _ => exact absurd hc hlate
  | leftSecond _ _ hc _ => cases hlive.symm.trans hc
  | failedFirst _ hfailed => cases hfailed.symm.trans hfirst
  | failedSecond _ _ hsecond =>
      rw [hsecond]
      rfl
  | completed _ hok hsecond =>
      cases hok.symm.trans hfirst
      rw [hsecond]
      rfl

theorem Course.answers_of_ok {list : List Snapshot} (h : Course cancelAt now source c)
    (hok : c.result = .ok list) :
    ∃ before after, source.next.result = .ok before ∧ (secondReply now source).result = .ok after ∧
      cancelledBy cancelAt (secondAnswered now source) = false ∧
        list = Round.snapshots (.ofCounters before) (firstAnswered now source) after := by
  cases h with
  | completed hlive hfirst hsecond =>
      cases hok
      exact ⟨_, _, hfirst, hsecond, hlive, rfl⟩
  | _ => cases hok

theorem Course.collects (h : Course cancelAt now source c) : Collects cancelAt now source c where
  queries := h.queries
  unbegun hc := by
    rw [h.eq_of_cancelled hc]
    exact ⟨rfl, rfl⟩
  left_first hc := h.left (cancelledBy_resumed hc) (.inl hc)
  left_pause counters hfirst hc := h.left hc (.inr ⟨counters, hfirst⟩)
  left_second _ hfirst hc := h.left_second hfirst hc
  failed_first _ hfirst hlive := h.failed_first hfirst hlive
  failed_second counters e hfirst hsecond hlive := by
    rw [h.result_of_live hfirst hlive, hsecond]
    rfl
  completed := by
    constructor
    · intro hok
      obtain ⟨list, hlist⟩ := hok
      obtain ⟨before, after, hfirst, hsecond, hlive, -⟩ := h.answers_of_ok hlist
      exact ⟨⟨before, hfirst⟩, ⟨after, hsecond⟩, hlive⟩
    · intro hall
      obtain ⟨⟨before, hfirst⟩, ⟨after, hsecond⟩, hlive⟩ := hall
      rw [h.result_of_live hfirst hlive, hsecond]
      exact ⟨_, rfl⟩

/-! ## Two rounds with the same answers -/

/-- What is shown of a snapshot: everything but the moments at which it was measured. -/
structure Reading where
  kind : Kind
  name : String
  received : Nat
  sent : Nat
  receivedPerSecond : Nat
  sentPerSecond : Nat
deriving DecidableEq, Repr

def Snapshot.reading (s : Snapshot) : Reading :=
  ⟨s.kind, s.name, s.io.rx.total, s.io.tx.total, s.io.rx.rate, s.io.tx.rate⟩

/-- Readings depend on how long was measured, and not on when. -/
theorem reading_between {start stop start' stop' : Nat} (h : stop - start = stop' - start')
    (kind : Kind) (name : String) (before after : Volume) :
    (Snapshot.between kind name before after start stop).reading =
      (Snapshot.between kind name before after start' stop').reading := by
  simp only [Snapshot.between, Snapshot.reading, RateCounter.addReceived, RateCounter.addSent,
    RateCounter.startingAt, Meter.add, Meter.startingAt, h]

theorem map_reading_difference {start stop start' stop' : Nat} (h : stop - start = stop' - start')
    (prev next : Sample) : (prev.difference next start stop).map Snapshot.reading =
      (prev.difference next start' stop').map Snapshot.reading := by
  simp only [Sample.difference, Sample.differenceOf, List.map_flatMap, List.map_map,
    Function.comp_def, reading_between h]

/-- The rates of a round are those of its pause. -/
theorem map_reading_snapshots (first : Sample) (start start' : Nat) (counters : List Counter) :
    (Round.snapshots first start counters).map Snapshot.reading =
      (Round.snapshots first start' counters).map Snapshot.reading := by
  apply map_reading_difference
  rw [Nat.add_mul, Nat.add_mul, Nat.add_sub_cancel_left, Nat.add_sub_cancel_left]

/-- Two answers are the same error, or have the same counters in any order. -/
inductive SameAnswer : Except StatsError (List Counter) → Except StatsError (List Counter) → Prop
  where
  | error (e : StatsError) : SameAnswer (.error e) (.error e)
  | ok {cs ds : List Counter} : cs.Perm ds → SameAnswer (.ok cs) (.ok ds)

/-- A round begins at most two queries, the second one exactly a second after the first answer, and
returns snapshots exactly if both are answered without an error. A query that fails gives its error. A
round that sees that it is cancelled ends at once, whatever else could go on. When the queries are
answered, and in which order their counters stand, does not show in the snapshots. -/
theorem collect_ignores_latency (cancelAt : Option Nat) (now : Nat) (source : Source) :
    Collects cancelAt now source (collect cancelAt now source) ∧
    (∀ r : Round, r.result? = none → ∀ moment source',
      r.poll moment true source' = (.ended (.error .cancelled), source')) ∧
    ∀ cancelAt' now' source', SameAnswer source.next.result source'.next.result →
      SameAnswer (secondReply now source).result (secondReply now' source').result →
      ∀ list list', (collect cancelAt now source).result = .ok list →
        (collect cancelAt' now' source').result = .ok list' →
          list.map Snapshot.reading = list'.map Snapshot.reading := by
  refine ⟨(collect_course cancelAt now source).collects,
    fun r hresult moment source' => (Round.poll_of_cancelled hresult moment source').1, ?_⟩
  intro cancelAt' now' source' hfirst hsecond list list' hok hok'
  obtain ⟨before, after, hbefore, hafter, -, rfl⟩ :=
    (collect_course cancelAt now source).answers_of_ok hok
  obtain ⟨before', after', hbefore', hafter', -, rfl⟩ :=
    (collect_course cancelAt' now' source').answers_of_ok hok'
  rw [hbefore, hbefore'] at hfirst
  rw [hafter, hafter'] at hsecond
  cases hfirst with
  | ok hperm =>
      cases hsecond with
      | ok hperm' =>
          rw [ofCounters_perm hperm,
            map_reading_snapshots _ _ (firstAnswered now' source')]
          unfold Round.snapshots
          rw [ofCounters_perm hperm']

def quickSource : Source := ⟨[⟨0, .ok earlierCounters⟩, ⟨0, .ok laterCounters⟩], []⟩

/-- The same answers, late and the other way round. -/
def slowSource : Source :=
  ⟨[⟨300, .ok earlierCounters.reverse⟩, ⟨2000, .ok laterCounters.reverse⟩], []⟩

theorem collect_ignores_latency_slowAnswers :
    (∃ list list', (collect none 0 quickSource).result = .ok list ∧
      (collect (some 4000) 7 slowSource).result = .ok list' ∧
      list.map Snapshot.reading = list'.map Snapshot.reading) ∧
    (collect (some 2000) 7 slowSource).result = .error .cancelled ∧
    (collect (some 300) 7 slowSource).source.queries.length ≤ 1 := by
  have hquick := collect_ignores_latency none 0 quickSource
  obtain ⟨list, hlist⟩ := hquick.1.completed.2 ⟨⟨_, rfl⟩, ⟨_, rfl⟩, rfl⟩
  obtain ⟨list', hlist'⟩ := (collect_ignores_latency (some 4000) 7 slowSource).1.completed.2
    ⟨⟨_, rfl⟩, ⟨_, rfl⟩, by decide⟩
  have hsame := hquick.2.2 (some 4000) 7 slowSource (.ok (List.reverse_perm _).symm)
    (.ok (List.reverse_perm _).symm) list list' hlist hlist'
  refine ⟨⟨list, list', hlist, hlist', hsame⟩, ?_, ?_⟩
  · exact (collect_ignores_latency (some 2000) 7 slowSource).1.left_second _ rfl (by decide)
  · exact ((collect_ignores_latency (some 300) 7 slowSource).1.left_first (by decide)).2

end ProxyWarden.Traffic

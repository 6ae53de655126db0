import Mathlib.Tactic.SplitIfs
import ProxyWarden.Traffic.Cache

/-!
# What rounds leave in the cache

What the rounds of a cache do is read off the events that led to a state (`Cache.log`): the queries
that they begin, the answers that they take and where they see that they are cancelled. A round that
took two answers without an error has completed (`completed?`), and the snapshots in the cache are
those of the round that completed last (`Cache.Reachable.reads_latest_round`). The invariant ties how
far a round has come to the latest notes of its owner (`Round.Fits`).
-/
namespace ProxyWarden.Traffic

/-! ## Notes on rounds -/

/-- What a round does. -/
inductive Note where
  /-- It begins its first query, which has this number among all queries. -/
  | first (query : Nat)
  | second (query : Nat)
  /-- It takes the answer of the query that it began last. -/
  | answered (moment : Nat)
  /-- It sees that it is cancelled. -/
  | stopped
deriving DecidableEq, Repr

def Note.query? : Note → Option Nat
  | first query => some query
  | second query => some query
  | _ => none

def answerTo (replies : List Reply) (query : Nat) : Except StatsError (List Counter) :=
  ((replies[query]?.or replies.getLast?).getD ⟨0, .ok []⟩).result

/-- The snapshots of the round that ends with the latest note, if both of its queries were answered
without an error: the difference of the answers over the pause. -/
def completed? (replies : List Reply) : List Note → Option (List Snapshot)
  | .answered _ :: .second query' :: .answered start :: .first query :: _ =>
    match answerTo replies query, answerTo replies query' with
    | .ok before, .ok after =>
      some ((Sample.ofCounters before).difference (.ofCounters after) (start * nanosPerMilli)
        ((start + sampleGap) * nanosPerMilli))
    | _, _ => none
  | _ => none

namespace Round

variable {r : Round} {replies : List Reply} {notes : List Note} {now : Nat} {cancelled : Bool}
  {source : Source}

/-- What one step of a round does, if it does anything. -/
def note? (r : Round) (now : Nat) (cancelled : Bool) (source : Source) : Option Note :=
  match r with
  | .ended _ => none
  | .fresh => if cancelled then some .stopped else some (.first source.queries.length)
  | .first due _ =>
    if cancelled then some .stopped else if now < due then none else some (.answered now)
  | .pausing _ due =>
    if cancelled then some .stopped
    else if now < due then none
    else some (.second source.queries.length)
  | .second _ _ due _ =>
    if cancelled then some .stopped else if now < due then none else some (.answered now)

/-- What a round does when it goes on as far as possible, the latest first. -/
def pollNotes (r : Round) (now : Nat) (cancelled : Bool) (source : Source) : List Note :=
  let once := r.turn now cancelled source
  (once.1.note? now cancelled once.2).toList ++ (r.note? now cancelled source).toList

/-- The latest notes tell how far the round has come, with these queries and answers. -/
def Fits (replies : List Reply) (notes : List Note) : Round → Prop
  | .fresh => True
  | .first _ reply => ∃ query rest, notes = .first query :: rest ∧ reply = answerTo replies query
  | .pausing sample due => ∃ query start before rest,
      notes = .answered start :: .first query :: rest ∧ answerTo replies query = .ok before ∧
        sample = .ofCounters before ∧ due = start + sampleGap
  | .second sample start _ reply => ∃ query query' before rest,
      notes = .second query' :: .answered start :: .first query :: rest ∧
        answerTo replies query = .ok before ∧ sample = .ofCounters before ∧
        reply = answerTo replies query'
  | .ended result => completed? replies notes = result.toOption

/-- What one step of a round can be: what was there, what it does, and what is there then. -/
inductive Turned (now : Nat) (source : Source) : Bool → Round → Option Note → Round → Source → Prop
  where
  | finished (cancelled : Bool) (result : Except StatsError (List Snapshot)) :
      Turned now source cancelled (.ended result) none (.ended result) source
  | stopped {r : Round} : r.result? = none →
      Turned now source true r (some .stopped) (.ended (.error .cancelled)) source
  | waits {r : Round} : r.result? = none → Turned now source false r none r source
  | asks : Turned now source false .fresh (some (.first source.queries.length))
      (.first (now + source.next.delay) source.next.result) (source.ask now)
  | fails (due : Nat) (e : StatsError) : Turned now source false (.first due (.error e))
      (some (.answered now)) (.ended (.error e)) source
  | pauses (due : Nat) (counters : List Counter) : Turned now source false
      (.first due (.ok counters)) (some (.answered now))
      (.pausing (.ofCounters counters) (now + sampleGap)) source
  | asksAgain (sample : Sample) (due : Nat) : Turned now source false (.pausing sample due)
      (some (.second source.queries.length))
      (.second sample (due - sampleGap) (now + source.next.delay) source.next.result)
      (source.ask now)
  | failsAgain (sample : Sample) (start due : Nat) (e : StatsError) : Turned now source false
      (.second sample start due (.error e)) (some (.answered now)) (.ended (.error e)) source
  | completes (sample : Sample) (start due : Nat) (counters : List Counter) :
      Turned now source false (.second sample start due (.ok counters)) (some (.answered now))
        (.ended (.ok (snapshots sample start counters))) source

theorem turned (r : Round) (now : Nat) (cancelled : Bool) (source : Source) :
    Turned now source cancelled r (r.note? now cancelled source)
      (r.turn now cancelled source).1 (r.turn now cancelled source).2 := by
  cases r with
  | ended result => exact .finished cancelled result
  | fresh =>
      cases cancelled with
      | true => exact .stopped rfl
      | false => exact .asks
  | first due reply =>
      cases cancelled with
      | true => exact .stopped rfl
      | false =>
          by_cases hwait : now < due
          · simpa [turn, note?, hwait] using .waits rfl
          · cases reply with
            | error e => simpa [turn, note?, hwait] using .fails due e
            | ok counters => simpa [turn, note?, hwait] using .pauses due counters
  | pausing sample due =>
      cases cancelled with
      | true => exact .stopped rfl
      | false =>
          by_cases hwait : now < due
          · simpa [turn, note?, hwait] using .waits rfl
          · simpa [turn, note?, hwait] using .asksAgain sample due
  | second sample start due reply =>
      cases cancelled with
      | true => exact .stopped rfl
      | false =>
          by_cases hwait : now < due
          · simpa [turn, note?, hwait] using .waits rfl
          · cases reply with
            | error e => simpa [turn, note?, hwait] using .failsAgain sample start due e
            | ok counters => simpa [turn, note?, hwait] using .completes sample start due counters

namespace Turned

variable {n : Option Note} {r' : Round} {source' : Source}

theorem replies_eq (h : Turned now source cancelled r n r' source') :
    source'.replies = source.replies := by
  cases h <;> rfl

/-- Every query gets the next number. -/
theorem queries_eq (h : Turned now source cancelled r n r' source') :
    (List.range source'.queries.length).reverse =
      (n.bind Note.query?).toList ++ (List.range source.queries.length).reverse := by
  have hasked : (List.range (source.ask now).queries.length).reverse =
      source.queries.length :: (List.range source.queries.length).reverse := by
    simp [Source.ask, List.range_succ]
  cases h with
  | asks => exact hasked
  | asksAgain sample due => exact hasked
  | _ => rfl

/-- A step of a round fits the notes with what it does. -/
theorem fits (h : Turned now source cancelled r n r' source')
    (hr : r.Fits source.replies notes) : r'.Fits source.replies (n.toList ++ notes) := by
  cases h with
  | finished cancelled result => exact hr
  | stopped hresult => rfl
  | waits hresult => exact hr
  | asks => exact ⟨_, _, rfl, rfl⟩
  | fails due e =>
      obtain ⟨query, rest, rfl, -⟩ := hr
      rfl
  | pauses due counters =>
      obtain ⟨query, rest, rfl, hreply⟩ := hr
      exact ⟨_, _, _, _, rfl, hreply.symm, rfl, rfl⟩
  | asksAgain sample due =>
      obtain ⟨query, start, before, rest, rfl, hreply, hsample, rfl⟩ := hr
      rw [Nat.add_sub_cancel]
      exact ⟨_, _, _, _, rfl, hreply, hsample, rfl⟩
  | failsAgain sample start due e =>
      obtain ⟨query, query', before, rest, rfl, hreply, -, hreply'⟩ := hr
      simp [Fits, completed?, hreply, ← hreply', Except.toOption]
  | completes sample start due counters =>
      obtain ⟨query, query', before, rest, rfl, hreply, rfl, hreply'⟩ := hr
      simp [Fits, completed?, hreply, ← hreply', Except.toOption, snapshots]

/-- A round completes exactly with the note that tells of its second answer. -/
theorem completed?_eq (h : Turned now source cancelled r n r' source')
    (hr : r.Fits source.replies notes) (hresult : r.result? = none) :
    n.bind (fun m => completed? source.replies (m :: notes)) = r'.result?.bind Except.toOption := by
  have hfits := h.fits hr
  cases h with
  | finished cancelled result => cases hresult
  | waits _ => rw [hresult]; rfl
  | stopped _ => exact hfits
  | asks => rfl
  | fails due e => exact hfits
  | pauses due counters =>
      obtain ⟨query, rest, rfl, -⟩ := hr
      rfl
  | asksAgain sample due => rfl
  | failsAgain sample start due e => exact hfits
  | completes sample start due counters => exact hfits

/-- A round that is cancelled begins no query. -/
theorem of_cancelled (h : Turned now source true r n r' source') (hresult : r.result? = none) :
    n = some .stopped ∧ r' = .ended (.error .cancelled) ∧ source' = source := by
  cases h with
  | finished cancelled result => cases hresult
  | stopped _ => exact ⟨rfl, rfl, rfl⟩

end Turned

end Round

/-! ## The log of all rounds -/

/-- Who began a round: the loop, or someone who asked for it. -/
inductive Owner where
  | loop
  | asked
deriving DecidableEq, Repr

/-- What the rounds did, the latest first. -/
abbrev Log := List (Owner × Note)

namespace Log

def ofOwner (o : Owner) (log : Log) : List Note := (log.filter fun n => n.1 == o).map (·.2)

def queries (log : Log) : List Nat := log.filterMap fun n => n.2.query?

def completions (replies : List Reply) : Log → List (List Snapshot)
  | [] => []
  | n :: log =>
    (completed? replies (ofOwner n.1 (n :: log))).toList ++ completions replies log

variable {o o' : Owner} {notes : List Note} {log : Log} {replies : List Reply}

theorem ofOwner_append_self (o : Owner) (notes : List Note) (log : Log) :
    ofOwner o (notes.map (fun n => (o, n)) ++ log) = notes ++ ofOwner o log := by
  simp [ofOwner, List.filter_map, Function.comp_def]

theorem ofOwner_append_of_ne (h : o' ≠ o) (notes : List Note) (log : Log) :
    ofOwner o (notes.map (fun n => (o', n)) ++ log) = ofOwner o log := by
  have hne : (o' == o) = false := by simpa using h
  simp [ofOwner, List.filter_map, Function.comp_def, hne]

/-- At most one note of one owner more. -/
theorem completions_toList (o : Owner) (n : Option Note) (log : Log) :
    completions replies (n.toList.map (fun n => (o, n)) ++ log) =
      (n.bind fun n => completed? replies (n :: ofOwner o log)).toList ++ completions replies log := by
  cases n with
  | none => rfl
  | some n =>
      have hown := ofOwner_append_self o [n] log
      simp only [List.map_cons, List.map_nil, List.singleton_append] at hown
      simp [completions, hown]

theorem queries_map_append (o : Owner) (notes : List Note) (log : Log) :
    queries (notes.map (fun n => (o, n)) ++ log) = notes.filterMap Note.query? ++ queries log := by
  rw [queries, List.filterMap_append, List.filterMap_map]
  rfl

end Log

/-! ## Rounds that go on as far as possible -/

/-- The notes tell how far the rounds of one owner have come, and number the queries. -/
structure Round.Told (replies : List Reply) (log : Log) (o : Owner) (r : Round) (source : Source) :
    Prop where
  replies_eq : source.replies = replies
  queries_eq : log.queries = (List.range source.queries.length).reverse
  fits : r.Fits replies (log.ofOwner o)

section
variable {replies : List Reply} {log : Log} {o : Owner} {r : Round} {source : Source}

theorem Round.Told.turn (h : r.Told replies log o source) (now : Nat) (cancelled : Bool) :
    (r.turn now cancelled source).1.Told replies
      ((r.note? now cancelled source).toList.map (fun n => (o, n)) ++ log) o
      (r.turn now cancelled source).2 := by
  have hturned := r.turned now cancelled source
  have hreplies := h.replies_eq
  refine ⟨hturned.replies_eq.trans hreplies, ?_, ?_⟩
  · rw [Log.queries_map_append, h.queries_eq, hturned.queries_eq]
    cases r.note? now cancelled source with
    | none => rfl
    | some n => cases n <;> rfl
  · rw [Log.ofOwner_append_self]
    rw [← hreplies]
    exact hturned.fits (hreplies ▸ h.fits)

theorem Round.Told.completions_turn (h : r.Told replies log o source) (hresult : r.result? = none)
    (now : Nat) (cancelled : Bool) :
    Log.completions replies ((r.note? now cancelled source).toList.map (fun n => (o, n)) ++ log) =
      ((r.turn now cancelled source).1.result?.bind Except.toOption).toList ++
        Log.completions replies log := by
  have hreplies := h.replies_eq
  rw [Log.completions_toList, ← hreplies,
    (r.turned now cancelled source).completed?_eq (hreplies ▸ h.fits) hresult]

/-- What a poll leaves is told by the notes, and completes a round exactly if it ends one with
snapshots. -/
theorem Round.Told.poll (h : r.Told replies log o source) (hresult : r.result? = none)
    (now : Nat) (cancelled : Bool) :
    (r.poll now cancelled source).1.Told replies
        ((r.pollNotes now cancelled source).map (fun n => (o, n)) ++ log) o
        (r.poll now cancelled source).2 ∧
      Log.completions replies ((r.pollNotes now cancelled source).map (fun n => (o, n)) ++ log) =
        ((r.poll now cancelled source).1.result?.bind Except.toOption).toList ++
          Log.completions replies log := by
  have honce := h.turn now cancelled
  have hcompletions := h.completions_turn hresult now cancelled
  unfold Round.poll Round.pollNotes
  rw [List.map_append, List.append_assoc]
  generalize r.turn now cancelled source = once at honce hcompletions ⊢
  obtain ⟨r', source'⟩ := once
  refine ⟨honce.turn now cancelled, ?_⟩
  cases r' with
  | ended result => exact hcompletions -- The second step finds the round over and does nothing.
  | _ =>
      have htwice := honce.completions_turn rfl now cancelled
      rw [hcompletions] at htwice
      exact htwice

theorem Round.poll_of_cancelled (hresult : r.result? = none) (now : Nat) (source : Source) :
    r.poll now true source = (.ended (.error .cancelled), source) ∧
      r.pollNotes now true source = [.stopped] := by
  obtain ⟨hnote, hended, hsource⟩ := (r.turned now true source).of_cancelled hresult
  unfold Round.poll Round.pollNotes
  dsimp only
  rw [hnote, hended, hsource]
  exact ⟨rfl, rfl⟩

end

namespace Cache

variable {interval : Nat} {replies : List Reply} {es later : List Event} {c c' : Cache} {past : Log}

/-! ## What happens in the cache -/

def loopNotes (c : Cache) : List Note :=
  match c.loop with
  | .collecting _ round => round.pollNotes c.now c.loopCancelled c.source
  | _ => []

/-- What the rounds of the loop do in some steps of the loop, the latest first. -/
def turnsNotes : Nat → Cache → List Note
  | 0, _ => []
  | turns + 1, c => turnsNotes turns c.turnLoop.1 ++ c.loopNotes

def askedNotes (c : Cache) : List Note :=
  match c.asked with
  | some round => round.pollNotes c.now c.askedCancelled c.source
  | none => []

/-- What the rounds do in an event, the latest first. -/
def notes (c : Cache) : Event → Log
  | .pollLoop => (turnsNotes (2 * (lateness + 3)) c).map fun n => (.loop, n)
  | .pollAsked => c.askedNotes.map fun n => (.asked, n)
  | _ => []

def after (interval : Nat) (replies : List Reply) : List Event → Cache
  | [] => Cache.start interval replies
  | e :: es => (after interval replies es).step e

def log (interval : Nat) (replies : List Reply) : List Event → Log
  | [] => []
  | e :: es => (after interval replies es).notes e ++ log interval replies es

theorem Reachable.eq_after (h : Reachable interval replies es c) : c = after interval replies es := by
  induction h with
  | start => rfl
  | step _ _ ih => rw [ih]; rfl

theorem Reachable.log_cons (h : Reachable interval replies es c) (e : Event) :
    log interval replies (e :: es) = c.notes e ++ log interval replies es := by
  rw [log, ← h.eq_after]

/-! ## The invariant -/

/-- The log tells how far the rounds have come, and the snapshots are those of the round that
completed last. -/
structure Told (replies : List Reply) (past : Log) (c : Cache) : Prop where
  replies_eq : c.source.replies = replies
  queries_eq : past.queries = (List.range c.source.queries.length).reverse
  loop : ∀ due round, c.loop = .collecting due round →
    round.result? = none ∧ round.Fits replies (past.ofOwner .loop)
  asked : ∀ round, c.asked = some round →
    round.result? = none ∧ round.Fits replies (past.ofOwner .asked)
  snapshots : c.snapshots = (past.completions replies).head?.getD []

theorem accept_snapshots {older : List (List Snapshot)} (h : c.snapshots = older.head?.getD [])
    (result : Except StatsError (List Snapshot)) :
    (c.accept result).snapshots = (result.toOption.toList ++ older).head?.getD [] := by
  cases result with
  | error e => exact h
  | ok snapshots => rfl

@[simp] theorem accept_source (c : Cache) (result : Except StatsError (List Snapshot)) :
    (c.accept result).source = c.source := by
  cases result <;> rfl

@[simp] theorem accept_asked (c : Cache) (result : Except StatsError (List Snapshot)) :
    (c.accept result).asked = c.asked := by
  cases result <;> rfl

@[simp] theorem accept_loop (c : Cache) (result : Except StatsError (List Snapshot)) :
    (c.accept result).loop = c.loop := by
  cases result <;> rfl

theorem Told.turnLoop (h : Told replies past c) :
    Told replies (c.loopNotes.map (fun n => (.loop, n)) ++ past) c.turnLoop.1 := by
  unfold Cache.turnLoop loopNotes
  cases hloop : c.loop with
  | off => exact h
  | ended => exact h
  | starting =>
      refine ⟨h.replies_eq, h.queries_eq, ?_, h.asked, h.snapshots⟩
      intro due round hround
      dsimp only at hround
      split_ifs at hround
  | waiting due =>
      dsimp only
      split_ifs
      · refine ⟨h.replies_eq, h.queries_eq, ?_, h.asked, h.snapshots⟩
        intro due' round hround
        cases hround
      · exact h
      · refine ⟨h.replies_eq, h.queries_eq, ?_, h.asked, h.snapshots⟩
        intro due' round hround
        cases hround
        exact ⟨rfl, trivial⟩
  | collecting due round =>
      obtain ⟨hresult, hfits⟩ := h.loop due round hloop
      obtain ⟨hpoll, hcompletions⟩ :=
        Round.Told.poll ⟨h.replies_eq, h.queries_eq, hfits⟩ hresult c.now c.loopCancelled
      dsimp only
      generalize round.poll c.now c.loopCancelled c.source = p at hpoll hcompletions ⊢
      obtain ⟨next, source⟩ := p
      have hasked : ∀ round', c.asked = some round' → round'.result? = none ∧ round'.Fits replies
          (Log.ofOwner .asked ((round.pollNotes c.now c.loopCancelled c.source).map
            (fun n => (.loop, n)) ++ past)) := by
        rw [Log.ofOwner_append_of_ne (by decide)]
        exact h.asked
      cases next with
      | ended result =>
          refine ⟨by simpa using hpoll.replies_eq, by simpa using hpoll.queries_eq, ?_,
            by simpa using hasked, ?_⟩
          · intro due' round' hround
            cases hround
          · rw [hcompletions]
            change (Cache.accept _ result).snapshots = _
            refine accept_snapshots ?_ result
            exact h.snapshots
      | _ =>
          refine ⟨hpoll.replies_eq, hpoll.queries_eq, ?_, hasked, ?_⟩
          · intro due' round' hround
            cases hround
            exact ⟨rfl, hpoll.fits⟩
          · rw [hcompletions]
            exact h.snapshots

theorem Told.turnsLoop (h : Told replies past c) (turns : Nat) :
    Told replies ((turnsNotes turns c).map (fun n => (.loop, n)) ++ past)
      (Cache.turnsLoop turns c).1 := by
  induction turns generalizing c past with
  | zero => exact h
  | succ turns ih =>
      rw [turnsNotes, List.map_append, List.append_assoc]
      exact ih h.turnLoop

theorem Told.pollAsked (h : Told replies past c) :
    Told replies (c.askedNotes.map (fun n => (.asked, n)) ++ past) c.pollAsked.1 := by
  unfold Cache.pollAsked askedNotes
  cases hround : c.asked with
  | none => exact h
  | some round =>
      obtain ⟨hresult, hfits⟩ := h.asked round hround
      obtain ⟨hpoll, hcompletions⟩ :=
        Round.Told.poll ⟨h.replies_eq, h.queries_eq, hfits⟩ hresult c.now c.askedCancelled
      dsimp only
      generalize round.poll c.now c.askedCancelled c.source = p at hpoll hcompletions ⊢
      obtain ⟨next, source⟩ := p
      have hloop : ∀ due round', c.loop = .collecting due round' → round'.result? = none ∧
          round'.Fits replies (Log.ofOwner .loop ((round.pollNotes c.now c.askedCancelled
            c.source).map (fun n => (.asked, n)) ++ past)) := by
        rw [Log.ofOwner_append_of_ne (by decide)]
        exact h.loop
      cases next with
      | ended result =>
          refine ⟨by simpa using hpoll.replies_eq, by simpa using hpoll.queries_eq,
            by simpa using hloop, ?_, ?_⟩
          · intro round' hround'
            cases hround'
          · rw [hcompletions]
            change (Cache.accept _ result).snapshots = _
            refine accept_snapshots ?_ result
            exact h.snapshots
      | _ =>
          refine ⟨hpoll.replies_eq, hpoll.queries_eq, hloop, ?_, ?_⟩
          · intro round' hround'
            cases hround'
            exact ⟨rfl, hpoll.fits⟩
          · rw [hcompletions]
            exact h.snapshots

theorem Told.step (h : Told replies past c) (e : Event) :
    Told replies (c.notes e ++ past) (c.step e) := by
  cases e with
  | run =>
      refine ⟨h.replies_eq, h.queries_eq, ?_, h.asked, h.snapshots⟩
      intro due round hround
      cases hround
  | collect cancelled =>
      change Told replies past (c.collect cancelled)
      unfold Cache.collect
      cases hround : c.asked with
      | some round => exact h
      | none =>
          refine ⟨h.replies_eq, h.queries_eq, h.loop, ?_, h.snapshots⟩
          intro round hfresh
          cases hfresh
          exact ⟨rfl, trivial⟩
  | pollLoop => exact h.turnsLoop _
  | pollAsked => exact h.pollAsked
  | cancelLoop => exact ⟨h.replies_eq, h.queries_eq, h.loop, h.asked, h.snapshots⟩
  | cancelAsked => exact ⟨h.replies_eq, h.queries_eq, h.loop, h.asked, h.snapshots⟩
  | tick ms => exact ⟨h.replies_eq, h.queries_eq, h.loop, h.asked, h.snapshots⟩

theorem Reachable.told (h : Reachable interval replies es c) :
    Told replies (log interval replies es) c := by
  induction h with
  | start =>
      refine ⟨rfl, rfl, ?_, ?_, rfl⟩
      · intro due round hround
        cases hround
      · intro round hround
        cases hround
  | @step es c e hc _ ih =>
      rw [hc.log_cons]
      exact ih.step e

/-! ## The loop after it was cancelled -/

@[simp] theorem accept_loopCancelled (c : Cache) (result : Except StatsError (List Snapshot)) :
    (c.accept result).loopCancelled = c.loopCancelled := by
  cases result <;> rfl

theorem loopCancelled_turnLoop (c : Cache) : c.turnLoop.1.loopCancelled = c.loopCancelled := by
  unfold Cache.turnLoop
  cases c.loop with
  | off => rfl
  | ended => rfl
  | starting => rfl
  | waiting due =>
      dsimp only
      split_ifs <;> rfl
  | collecting due round =>
      dsimp only
      generalize round.poll c.now c.loopCancelled c.source = p
      obtain ⟨next, source⟩ := p
      cases next with
      | ended result => simp
      | _ => rfl

theorem loopCancelled_turnsLoop (turns : Nat) (c : Cache) :
    (Cache.turnsLoop turns c).1.loopCancelled = c.loopCancelled := by
  induction turns generalizing c with
  | zero => rfl
  | succ turns ih => exact (ih c.turnLoop.1).trans (loopCancelled_turnLoop c)

theorem loopCancelled_pollAsked (c : Cache) : c.pollAsked.1.loopCancelled = c.loopCancelled := by
  unfold Cache.pollAsked
  cases c.asked with
  | none => rfl
  | some round =>
      dsimp only
      generalize round.poll c.now c.askedCancelled c.source = p
      obtain ⟨next, source⟩ := p
      cases next with
      | ended result => simp
      | _ => rfl

theorem loopCancelled_step (h : c.loopCancelled = true) (e : Event) :
    (c.step e).loopCancelled = true := by
  cases e with
  | collect cancelled =>
      change (c.collect cancelled).loopCancelled = true
      unfold Cache.collect
      cases c.asked with
      | some round => exact h
      | none => exact h
  | pollLoop => exact (loopCancelled_turnsLoop _ c).trans h
  | pollAsked => exact (loopCancelled_pollAsked c).trans h
  | cancelLoop => rfl
  | _ => exact h

/-- A step of a loop that was cancelled keeps the snapshots, and its round only sees that it is
cancelled. -/
theorem Told.turnLoop_of_cancelled (h : Told replies past c) (hc : c.loopCancelled = true) :
    c.turnLoop.1.snapshots = c.snapshots ∧ c.loopNotes.filterMap Note.query? = [] := by
  unfold Cache.turnLoop loopNotes
  cases hloop : c.loop with
  | off => exact ⟨rfl, rfl⟩
  | ended => exact ⟨rfl, rfl⟩
  | starting => exact ⟨rfl, rfl⟩
  | waiting due =>
      dsimp only
      rw [if_pos hc]
      exact ⟨rfl, rfl⟩
  | collecting due round =>
      obtain ⟨hpoll, hnotes⟩ := Round.poll_of_cancelled (h.loop due round hloop).1 c.now c.source
      dsimp only
      rw [hc, hpoll, hnotes]
      exact ⟨rfl, rfl⟩

theorem Told.turnsLoop_of_cancelled (h : Told replies past c) (hc : c.loopCancelled = true)
    (turns : Nat) : (Cache.turnsLoop turns c).1.snapshots = c.snapshots ∧
      (turnsNotes turns c).filterMap Note.query? = [] := by
  induction turns generalizing c past with
  | zero => exact ⟨rfl, rfl⟩
  | succ turns ih =>
      obtain ⟨hsnapshots, hnotes⟩ := h.turnLoop_of_cancelled hc
      obtain ⟨hmore, hlater⟩ := ih h.turnLoop ((loopCancelled_turnLoop c).trans hc)
      refine ⟨hmore.trans hsnapshots, ?_⟩
      rw [turnsNotes, List.filterMap_append, hlater, hnotes]
      rfl

theorem Told.queries_of_cancelled (h : Told replies past c) (hc : c.loopCancelled = true)
    (e : Event) : (Log.ofOwner .loop (c.notes e ++ past)).filterMap Note.query? =
      (past.ofOwner .loop).filterMap Note.query? := by
  cases e with
  | pollLoop =>
      have hnotes := (h.turnsLoop_of_cancelled hc (2 * (lateness + 3))).2
      rw [notes, Log.ofOwner_append_self, List.filterMap_append, hnotes]
      rfl
  | pollAsked => rw [notes, Log.ofOwner_append_of_ne (by decide)]
  | _ => rfl

/-- Whoever reads the cache gets the snapshots of the round that completed last, whatever the
answers, their delays and errors and the order of events were. What does not complete a round leaves
the snapshots as they are, and a loop that was cancelled begins no query and changes nothing. -/
theorem Reachable.reads_latest_round (h : Reachable interval replies es c) :
    c.read false = .ok (((log interval replies es).completions replies).head?.getD []) ∧
    (log interval replies es).queries = (List.range c.source.queries.length).reverse ∧
    (∀ e, e.Enabled c → (log interval replies (e :: es)).completions replies =
      (log interval replies es).completions replies → (c.step e).snapshots = c.snapshots) ∧
    (c.loopCancelled = true → ∀ later c', Reachable interval replies (later ++ es) c' →
      c'.loopCancelled = true ∧
      ((log interval replies (later ++ es)).ofOwner .loop).filterMap Note.query? =
        ((log interval replies es).ofOwner .loop).filterMap Note.query? ∧
      (c'.step .pollLoop).snapshots = c'.snapshots) := by
  have htold := h.told
  refine ⟨congrArg Except.ok htold.snapshots, htold.queries_eq, ?_, ?_⟩
  · intro e henabled hsame
    rw [(h.step henabled).told.snapshots, hsame, htold.snapshots]
  · intro hc later
    induction later with
    | nil =>
        intro c' h'
        obtain rfl : c' = c := h'.eq_after.trans h.eq_after.symm
        exact ⟨hc, rfl, (htold.turnsLoop_of_cancelled hc _).1⟩
    | cons e later ih =>
        intro c' h'
        cases h' with
        | @step _ before _ hreached _ =>
            have hbefore : Reachable interval replies (later ++ es) before := hreached
            obtain ⟨hcancelled, hqueries, -⟩ := ih before hbefore
            have hafter := loopCancelled_step hcancelled e
            refine ⟨hafter, ?_, ((hbefore.told.step e).turnsLoop_of_cancelled hafter _).1⟩
            rw [← hqueries, List.cons_append, hbefore.log_cons,
              hbefore.told.queries_of_cancelled hcancelled]

/-- Two answers, then the core is gone. -/
def sampleReplies : List Reply := [
  ⟨0, .ok [⟨"user>>>ann>>>traffic>>>uplink", 5⟩]⟩,
  ⟨20, .ok [⟨"user>>>ann>>>traffic>>>uplink", 25⟩]⟩,
  ⟨0, .error (.notReady "gone")⟩]

/-- A round that completes, and one that fails after the loop was cancelled. -/
def sampleEvents : List Event := [
  .pollLoop, .pollAsked, .collect false, .cancelLoop, .pollAsked, .tick 20, .pollAsked, .tick 1000,
  .pollAsked, .collect false, .run]

theorem reads_latest_round_secondFails :
    (after 5000 sampleReplies sampleEvents).read false =
      .ok (((log 5000 sampleReplies sampleEvents).completions sampleReplies).head?.getD []) ∧
    ((log 5000 sampleReplies sampleEvents).completions sampleReplies).length = 1 ∧
    (log 5000 sampleReplies sampleEvents).map Prod.snd =
      [.answered 1020, .first 2, .answered 1020, .second 1, .answered 0, .first 0] := by
  have h : Reachable 5000 sampleReplies sampleEvents (after 5000 sampleReplies sampleEvents) :=
    .step (.step (.step (.step (.step (.step (.step (.step (.step (.step (.step .start rfl) trivial)
      trivial) trivial) trivial) trivial) trivial) trivial) trivial) trivial) trivial
  exact ⟨h.reads_latest_round.1, by decide +kernel, by decide +kernel⟩

end Cache

end ProxyWarden.Traffic

import ProxyWarden.Dispatch.Program
import ProxyWarden.Proofs.Dispatch.Lines

/-!
# Every line once and in order

Whatever goes on around a run and in whichever order, the lines that it forwards are the first lines
of the output, each of them once (`Relay.forwarded_isPrefix_lines`). What carries this is an account
of the lines that are under way between the core and the run: `Relay.Coherent`. A run that met a
setback has ended and forwards nothing any more, and a run ends well only if it was cancelled or has
come to the end of everything.
-/
namespace ProxyWarden.Dispatch

/-! ## Turns -/

namespace Run

variable {r : Run} {now : Ready} {answer : Except JournalError Unit}
variable {result : Except DispatchError Unit}

theorem result?_eq_some_iff : r.result? = some result ↔ r.stage = .ended result := by
  unfold result?
  split
  · next x hstage => simp [hstage]
  · next hstage =>
      constructor
      · intro h
        cases h
      · intro h
        exact absurd h (hstage result)

theorem turn_of_ended (h : r.stage = .ended result) : r.turn now answer = r := by
  simp only [turn, h]

theorem listens_iff :
    r.listens now = true ↔ r.stage = .reading ∧ now.cancelled = false ∧ r.news? now = none := by
  unfold listens
  cases hstage : r.stage with
  | reading => simp
  | waiting => simp
  | ended result => simp

theorem turn_of_listens (h : r.listens now = true) :
    r.turn now answer = r.receive now.received answer := by
  obtain ⟨hstage, hcancelled, hnews⟩ := listens_iff.1 h
  simp only [turn, hstage, hcancelled, hnews, Bool.false_eq_true, if_false]

/-- A turn that does not listen is one of these. -/
inductive Deaf (r : Run) (now : Ready) : Run → Prop where
  | stop : r.result? = none → now.cancelled = true → Deaf r now r.stop
  | fail (e : IoError) : r.stage = .reading → Deaf r now (r.finish (.error (.stdin e)))
  | fed : r.stage = .reading → Deaf r now { r with fed := true }
  | wait : r.stage ≠ .reading → Deaf r now r
  | lost (e : IoError) : r.stage = .waiting → Deaf r now (r.finish (.error (.wait e)))
  | exited (s : ExitStatus) : r.stage = .waiting → now.exit = some (.ok s) →
      Deaf r now (r.finish (if s.isSuccess then .ok () else .error (.exited s)))

theorem deaf_of_not_listens (h : r.listens now = false) : Deaf r now (r.turn now answer) := by
  cases hstage : r.stage with
  | reading =>
      cases hcancelled : now.cancelled with
      | true =>
          have hturn : r.turn now answer = r.stop := by simp [turn, hstage, hcancelled]
          rw [hturn]
          exact .stop (by simp [result?, hstage]) hcancelled
      | false =>
          cases hnews : r.news? now with
          | none =>
              have hlistens := listens_iff.2 ⟨hstage, hcancelled, hnews⟩
              rw [hlistens] at h
              cases h
          | some outcome =>
              cases outcome with
              | error e =>
                  have hturn : r.turn now answer = r.finish (.error (.stdin e)) := by
                    simp [turn, hstage, hcancelled, hnews]
                  rw [hturn]
                  exact .fail e hstage
              | ok _ =>
                  have hturn : r.turn now answer = { r with fed := true } := by
                    simp [turn, hstage, hcancelled, hnews]
                  rw [hturn]
                  exact .fed hstage
  | waiting =>
      cases hcancelled : now.cancelled with
      | true =>
          have hturn : r.turn now answer = r.stop := by simp [turn, hstage, hcancelled]
          rw [hturn]
          exact .stop (by simp [result?, hstage]) hcancelled
      | false =>
          cases hexit : now.exit with
          | none =>
              have hturn : r.turn now answer = r := by simp [turn, hstage, hcancelled, hexit]
              rw [hturn]
              exact .wait (by simp [hstage])
          | some outcome =>
              cases outcome with
              | error e =>
                  have hturn : r.turn now answer = r.finish (.error (.wait e)) := by
                    simp [turn, hstage, hcancelled, hexit]
                  rw [hturn]
                  exact .lost e hstage
              | ok s =>
                  have hturn : r.turn now answer =
                      r.finish (if s.isSuccess then .ok () else .error (.exited s)) := by
                    simp [turn, hstage, hcancelled, hexit]
                  rw [hturn]
                  exact .exited s hstage hexit
  | ended result =>
      rw [turn_of_ended hstage]
      exact .wait (by simp [hstage])

theorem Deaf.forwarded {r' : Run} (h : Deaf r now r') : r'.forwarded = r.forwarded := by
  cases h <;> rfl

theorem sawCancel_receive (r : Run) (received : Received) (answer : Except JournalError Unit) :
    (r.receive received answer).sawCancel = r.sawCancel := by
  cases received with
  | nothing => rfl
  | line l =>
      cases answer with
      | ok _ => rfl
      | error e => rfl
  | closed => rfl

end Run

/-! ## The reader -/

namespace Reader

inductive Reads (r : Reader) : Reader → Prop where
  | idle : Reads r r
  | cut (line rest : Bytes) : r.finished = false → r.held = none →
      r.text = line ++ Bytes.newline :: rest → Bytes.newline ∉ line →
      Reads r { r with text := rest, held := some (Utf8.lossy (dropReturn line)) }
  | lost : r.finished = false → r.held = none → r.ending = some .failed →
      Reads r { r with finished := true }
  | done : r.finished = false → r.held = none → r.ending = some .closed → r.text = [] →
      Reads r { r with finished := true }
  | openLine : r.finished = false → r.held = none → r.ending = some .closed →
      Bytes.newline ∉ r.text → r.text ≠ [] →
      Reads r { r with text := [], held := some (Utf8.lossy r.text) }

theorem reads_read (r : Reader) : Reads r r.read := by
  unfold read
  split
  · exact .idle
  · next hidle =>
      rw [Bool.or_eq_true, not_or, Bool.not_eq_true, Option.not_isSome_iff_eq_none] at hidle
      obtain ⟨hfinished, hheld⟩ := hidle
      split
      · next line rest hcut =>
          obtain ⟨htext, hline⟩ := cutLine?_eq_some hcut
          exact .cut line rest hfinished hheld htext hline
      · next hcut =>
          have hopen := cutLine?_eq_none hcut
          split
          · exact .idle
          · next hending => exact .lost hfinished hheld hending
          · next hending =>
              split
              · next hempty => exact .done hfinished hheld hending (List.isEmpty_iff.1 hempty)
              · next hempty =>
                  have hne : r.text ≠ [] := by simpa using hempty
                  exact .openLine hfinished hheld hending hopen hne

end Reader

namespace Relay

variable {r r' : Relay} {output : Bytes} {event : Event} {events : List Event}

/-! ## What is under way -/

/-- The lines that the run has not received yet, in order. -/
def underway (r : Relay) : List String :=
  r.slot.toList ++ (r.reader.held.toList ++ lines (r.reader.text ++ r.coming))

/-- No line is left between the core and the run, and none will come. -/
structure Drained (r : Relay) : Prop where
  slot : r.slot = none
  finished : r.reader.finished = true

/-- The lines that were forwarded and those under way are the lines of the output, and the run goes
beyond reading only when nothing is under way. -/
structure Coherent (output : Bytes) (r : Relay) : Prop where
  account : r.run.forwarded.reverse.map Prod.snd ++ r.underway = lines output
  channel : ∀ p ∈ r.run.forwarded, p.1 = .ofLine p.2
  printed : r.reader.ending = some .closed → r.coming = []
  finished : r.reader.finished = true → r.reader.held = none ∧
    (r.reader.ending = some .failed ∨ r.reader.ending = some .closed ∧ r.reader.text = [])
  waiting : r.run.stage = .waiting → r.Drained
  exited : r.run.stage = .ended (.ok ()) → r.run.sawCancel = false →
    r.Drained ∧ ∃ s, r.exit = some (.ok s) ∧ s.isSuccess = true

theorem coherent_start (output : Bytes) : Coherent output (start output) where
  account := rfl
  channel := by
    intro p hp
    cases hp
  printed := by
    intro h
    cases h
  finished := by
    intro h
    cases h
  waiting := by
    intro h
    cases h
  exited := by
    intro h
    cases h

namespace Coherent

/-- Nothing is lost as long as the run does nothing and the lines stay under way. -/
theorem of_run_eq (h : Coherent output r) (hrun : r'.run = r.run)
    (hunderway : r'.underway = r.underway)
    (hprinted : r'.reader.ending = some .closed → r'.coming = [])
    (hfinished : r'.reader.finished = true → r'.reader.held = none ∧
      (r'.reader.ending = some .failed ∨ r'.reader.ending = some .closed ∧ r'.reader.text = []))
    (hdrained : r.Drained → r'.Drained)
    (hexit : ∀ s, r.exit = some s → r'.exit = some s) : Coherent output r' where
  account := by
    rw [hrun, hunderway]
    exact h.account
  channel := by
    rw [hrun]
    exact h.channel
  printed := hprinted
  finished := hfinished
  waiting := by
    rw [hrun]
    intro hstage
    exact hdrained (h.waiting hstage)
  exited := by
    rw [hrun]
    intro hstage hcancel
    obtain ⟨hd, s, hs, hsuccess⟩ := h.exited hstage hcancel
    exact ⟨hdrained hd, s, hexit _ hs, hsuccess⟩

theorem arrive (h : Coherent output r) (count : Nat) : Coherent output (r.step (.arrive count)) := by
  rw [Relay.step]
  cases hending : r.reader.ending with
  | some _ => exact h
  | none =>
      refine h.of_run_eq rfl ?_ ?_ ?_ ?_ (fun _ hs => hs)
      · simp [underway, List.append_assoc]
      · intro hclosed
        simp [hending] at hclosed
      · intro hfinished
        have hsettled := (h.finished hfinished).2
        simp [hending] at hsettled
      · intro hd
        exact ⟨hd.slot, hd.finished⟩

theorem close (h : Coherent output r) : Coherent output (r.step .close) := by
  rw [Relay.step]
  split
  · next hending hcoming =>
      refine h.of_run_eq rfl rfl (fun _ => hcoming) ?_ ?_ (fun _ hs => hs)
      · intro hfinished
        have hsettled := (h.finished hfinished).2
        simp [hending] at hsettled
      · intro hd
        exact ⟨hd.slot, hd.finished⟩
  · exact h

theorem fail (h : Coherent output r) : Coherent output (r.step .fail) := by
  rw [Relay.step]
  split
  · next hending =>
      refine h.of_run_eq rfl rfl ?_ ?_ ?_ (fun _ hs => hs)
      · intro hclosed
        cases hclosed
      · intro hfinished
        exact ⟨(h.finished hfinished).1, .inl rfl⟩
      · intro hd
        exact ⟨hd.slot, hd.finished⟩
  · exact h

theorem send (h : Coherent output r) : Coherent output (r.step .send) := by
  rw [Relay.step]
  split
  · next hslot =>
      refine h.of_run_eq rfl ?_ h.printed ?_ ?_ (fun _ hs => hs)
      · simp [underway, hslot]
      · intro hfinished
        exact ⟨rfl, (h.finished hfinished).2⟩
      · intro hd
        exact ⟨(h.finished hd.finished).1, hd.finished⟩
  · exact h

theorem read (h : Coherent output r) : Coherent output (r.step .read) := by
  have hreads := r.reader.reads_read
  rw [Relay.step]
  generalize r.reader.read = after at hreads ⊢
  have hworking : ∀ {p : Prop}, r.Drained → r.reader.finished = false → p := by
    intro p hd hfinished
    rw [hd.finished] at hfinished
    cases hfinished
  cases hreads with
  | idle => exact h
  | cut line rest hfinished hheld htext hline =>
      refine h.of_run_eq rfl ?_ h.printed ?_ (fun hd => hworking hd hfinished) (fun _ hs => hs)
      · simp [underway, hheld, htext, lines_append_newline hline]
      · intro hdone
        simp [hfinished] at hdone
  | lost hfinished hheld hending =>
      refine h.of_run_eq rfl rfl h.printed ?_ (fun hd => hworking hd hfinished) (fun _ hs => hs)
      intro _
      exact ⟨hheld, .inl hending⟩
  | done hfinished hheld hending htext =>
      refine h.of_run_eq rfl rfl h.printed ?_ (fun hd => hworking hd hfinished) (fun _ hs => hs)
      intro _
      exact ⟨hheld, .inr ⟨hending, htext⟩⟩
  | openLine hfinished hheld hending hopen hne =>
      have hcoming := h.printed hending
      refine h.of_run_eq rfl ?_ h.printed ?_ (fun hd => hworking hd hfinished) (fun _ hs => hs)
      · simp [underway, hheld, hcoming, lines_of_open hopen hne, lines_nil]
      · intro hdone
        simp [hfinished] at hdone

/-- The run receives what stands first among the lines under way. -/
theorem turn_of_listens (h : Coherent output r) (hlistens : r.run.listens r.ready = true)
    (answer : Except JournalError Unit) : Coherent output (r.step (.turn answer)) := by
  have hstage := (Run.listens_iff.1 hlistens).1
  rw [Relay.step, Run.turn_of_listens hlistens, hlistens]
  have hreceived : r.ready.received = r.received := rfl
  rw [hreceived, Relay.received]
  cases hslot : r.slot with
  | some l =>
      have haccount := h.account
      rw [underway, hslot] at haccount
      have hpassed : (((Channel.ofLine l, l) :: r.run.forwarded).reverse.map Prod.snd) ++
          (r.reader.held.toList ++ lines (r.reader.text ++ r.coming)) = lines output := by
        simpa using haccount
      have hchannel : ∀ p ∈ (Channel.ofLine l, l) :: r.run.forwarded, p.1 = .ofLine p.2 :=
        List.forall_mem_cons.2 ⟨rfl, h.channel⟩
      cases answer with
      | ok _ =>
          exact {
            account := hpassed
            channel := hchannel
            printed := h.printed
            finished := h.finished
            waiting := by simp [Run.receive, Run.forward, hstage]
            exited := by simp [Run.receive, Run.forward, hstage] }
      | error e =>
          exact {
            account := hpassed
            channel := hchannel
            printed := h.printed
            finished := h.finished
            waiting := by simp [Run.receive, Run.forward, Run.finish]
            exited := by simp [Run.receive, Run.forward, Run.finish] }
  | none =>
      have haccount := h.account
      rw [underway, hslot] at haccount
      cases hfinished : r.reader.finished with
      | true =>
          exact {
            account := haccount
            channel := h.channel
            printed := h.printed
            finished := h.finished
            waiting := fun _ => ⟨rfl, hfinished⟩
            exited := by simp [Run.receive] }
      | false =>
          exact {
            account := haccount
            channel := h.channel
            printed := h.printed
            finished := h.finished
            waiting := by simp [Run.receive, hstage]
            exited := by simp [Run.receive, hstage] }

theorem turn (h : Coherent output r) (answer : Except JournalError Unit) :
    Coherent output (r.step (.turn answer)) := by
  cases hlistens : r.run.listens r.ready with
  | true => exact h.turn_of_listens hlistens answer
  | false =>
      rw [Relay.step, hlistens]
      have hdeaf : Run.Deaf r.run r.ready (r.run.turn r.ready answer) :=
        Run.deaf_of_not_listens hlistens
      generalize r.run.turn r.ready answer = after at hdeaf ⊢
      have hforwarded := hdeaf.forwarded
      -- The lines stay where they are, so only the stage of the run needs a look.
      refine {
        account := by rw [hforwarded]; exact h.account
        channel := by rw [hforwarded]; exact h.channel
        printed := h.printed
        finished := h.finished
        waiting := ?_
        exited := ?_ }
      · intro hstage
        cases hdeaf with
        | stop => cases hstage
        | fail => cases hstage
        | fed hreading => exact absurd (hreading.symm.trans hstage) (by simp)
        | wait => exact ⟨(h.waiting hstage).slot, (h.waiting hstage).finished⟩
        | lost => cases hstage
        | exited => cases hstage
      · intro hstage hcancel
        cases hdeaf with
        | stop => cases hcancel
        | fail e => simp [Run.finish] at hstage
        | fed hreading => exact absurd (hreading.symm.trans hstage) (by simp)
        | wait =>
            obtain ⟨hd, hexit⟩ := h.exited hstage hcancel
            exact ⟨⟨hd.slot, hd.finished⟩, hexit⟩
        | lost e => simp [Run.finish] at hstage
        | exited s hwaiting hexit =>
            have hsuccess : s.isSuccess = true := by
              by_contra hfailure
              simp [Run.finish, hfailure] at hstage
            have hd := h.waiting hwaiting
            exact ⟨⟨hd.slot, hd.finished⟩, s, hexit, hsuccess⟩

theorem step (h : Coherent output r) (event : Event) : Coherent output (r.step event) := by
  cases event with
  | cancel =>
      refine h.of_run_eq rfl rfl h.printed h.finished ?_ (fun _ hs => hs)
      intro hd
      exact ⟨hd.slot, hd.finished⟩
  | fed outcome =>
      refine h.of_run_eq rfl rfl h.printed h.finished ?_ (fun _ hs => hs)
      intro hd
      exact ⟨hd.slot, hd.finished⟩
  | exited outcome =>
      refine h.of_run_eq rfl rfl h.printed h.finished ?_ ?_
      · intro hd
        exact ⟨hd.slot, hd.finished⟩
      · intro s hs
        simp [Relay.step, hs]
  | arrive count => exact h.arrive count
  | close => exact h.close
  | fail => exact h.fail
  | read => exact h.read
  | send => exact h.send
  | turn answer => exact h.turn answer

/-- When nothing is under way and the output could be read, every line was forwarded. -/
theorem all_forwarded (h : Coherent output r) (hdrained : r.Drained) :
    r.reader.ending = some .failed ∨ r.run.forwarded.reverse.map Prod.snd = lines output := by
  obtain ⟨hheld, hending⟩ := h.finished hdrained.finished
  rcases hending with hfailed | ⟨hclosed, htext⟩
  · exact .inl hfailed
  · right
    have haccount := h.account
    have hnothing : r.underway = [] := by
      simp [underway, hdrained.slot, hheld, htext, h.printed hclosed, lines_nil]
    rw [hnothing, List.append_nil] at haccount
    exact haccount

theorem steps (h : Coherent output r) (events : List Event) : Coherent output (r.steps events) := by
  induction events generalizing r with
  | nil => exact h
  | cons event events ih => exact ih (h.step event)

end Coherent

/-! ## Setbacks -/

/-- What ends a run before its time. -/
inductive Setback where
  | cancelled
  | feeding (e : IoError)
  | sink (e : JournalError)

/-- The run finds out about a setback: it looks whether it was cancelled, it looks at the outcome of
the feeding, or a journal refuses the line that it forwards. -/
inductive Meets (r : Relay) : Event → Setback → Prop where
  | cancelled (answer : Except JournalError Unit) : r.run.result? = none → r.cancelled = true →
      Meets r (.turn answer) .cancelled
  | feeding (e : IoError) (answer : Except JournalError Unit) : r.run.stage = .reading →
      r.cancelled = false → r.run.fed = false → r.feeding = some (.error e) →
      Meets r (.turn answer) (.feeding e)
  | sink (l : String) (e : JournalError) : r.passing? = some l → Meets r (.turn (.error e)) (.sink e)

def Setback.result : Setback → Except DispatchError Unit
  | cancelled => .ok ()
  | feeding e => .error (.stdin e)
  | sink e => .error (.sink e)

theorem Meets.result {setback : Setback} (h : Meets r event setback) :
    (r.step event).run.result? = some setback.result := by
  cases h with
  | cancelled answer hopen hcancelled =>
      have hready : r.ready.cancelled = true := hcancelled
      cases hstage : r.run.stage with
      | reading => simp [Relay.step, Run.turn, hstage, hready, Run.stop, Run.result?, Setback.result]
      | waiting => simp [Relay.step, Run.turn, hstage, hready, Run.stop, Run.result?, Setback.result]
      | ended result => simp [Run.result?, hstage] at hopen
  | feeding e answer hstage hcancelled hfed hfeeding =>
      have hready : r.ready.cancelled = false := hcancelled
      have hnews : r.run.news? r.ready = some (.error e) := by
        rw [Run.news?, hfed]
        exact hfeeding
      simp [Relay.step, Run.turn, hstage, hready, hnews, Run.finish, Run.result?, Setback.result]
  | sink l e hpassing =>
      unfold passing? at hpassing
      split_ifs at hpassing with hlistens
      have hreceived : r.ready.received = .line l := by
        change r.received = .line l
        rw [Relay.received, hpassing]
      rw [Relay.step, Run.turn_of_listens hlistens, hreceived]
      rfl

/-- Only its own turns do anything to a run. -/
theorem run_step_of_not_turn (h : ∀ answer, event ≠ .turn answer) : (r.step event).run = r.run := by
  cases event with
  | turn answer => exact absurd rfl (h answer)
  | arrive count => rw [step]; split <;> rfl
  | close => rw [step]; split <;> rfl
  | fail => rw [step]; split <;> rfl
  | send => rw [step]; split <;> rfl
  | cancel => rfl
  | fed outcome => rfl
  | exited outcome => rfl
  | read => rfl

/-- What a run has come to stays when it has ended. -/
theorem run_step_of_ended {result : Except DispatchError Unit} (h : r.run.result? = some result)
    (event : Event) : (r.step event).run = r.run := by
  by_cases hturn : ∃ answer, event = .turn answer
  · obtain ⟨answer, rfl⟩ := hturn
    exact Run.turn_of_ended (Run.result?_eq_some_iff.1 h)
  · apply run_step_of_not_turn
    exact not_exists.1 hturn

theorem run_steps_of_ended {result : Except DispatchError Unit} (h : r.run.result? = some result)
    (events : List Event) : (r.steps events).run = r.run := by
  induction events generalizing r with
  | nil => rfl
  | cons event events ih =>
      have hone := run_step_of_ended h event
      have hended : (r.step event).run.result? = some result := by
        rw [hone]
        exact h
      exact (ih hended).trans hone

/-! ## The course of events -/

/-- Each event of a course, with the relay that it found. -/
def moments (r : Relay) : List Event → List (Relay × Event)
  | [] => []
  | event :: events => (r, event) :: (r.step event).moments events

theorem exists_of_mem_moments {m : Relay × Event} (h : m ∈ r.moments events) :
    ∃ later, r.steps events = (m.1.step m.2).steps later := by
  induction events generalizing r with
  | nil => cases h
  | cons event events ih =>
      rw [moments, List.mem_cons] at h
      rcases h with rfl | h
      · exact ⟨events, rfl⟩
      · exact ih h

/-- A setback settles how the run ends and what it has forwarded. -/
theorem Meets.run_steps {m : Relay × Event} {setback : Setback} (h : Meets m.1 m.2 setback)
    (hm : m ∈ r.moments events) : (r.steps events).run = (m.1.step m.2).run := by
  obtain ⟨later, hlater⟩ := exists_of_mem_moments hm
  rw [hlater]
  exact run_steps_of_ended h.result later

theorem meets_of_sawCancel_turn {answer : Except JournalError Unit}
    (hbefore : r.run.sawCancel = false)
    (h : (r.step (.turn answer)).run.sawCancel = true) : Meets r (.turn answer) .cancelled := by
  cases hlistens : r.run.listens r.ready with
  | true =>
      rw [step, Run.turn_of_listens hlistens, Run.sawCancel_receive, hbefore] at h
      cases h
  | false =>
      have hdeaf : Run.Deaf r.run r.ready (r.run.turn r.ready answer) :=
        Run.deaf_of_not_listens hlistens
      rw [step] at h
      dsimp only at h
      generalize r.run.turn r.ready answer = after at hdeaf h
      cases hdeaf with
      | stop hopen hcancelled => exact .cancelled answer hopen hcancelled
      | fail e => exact absurd (hbefore.symm.trans h) Bool.false_ne_true
      | fed => exact absurd (hbefore.symm.trans h) Bool.false_ne_true
      | wait => exact absurd (hbefore.symm.trans h) Bool.false_ne_true
      | lost e => exact absurd (hbefore.symm.trans h) Bool.false_ne_true
      | exited s => exact absurd (hbefore.symm.trans h) Bool.false_ne_true

theorem meets_of_sawCancel_step (hbefore : r.run.sawCancel = false)
    (h : (r.step event).run.sawCancel = true) : Meets r event .cancelled := by
  by_cases hturn : ∃ answer, event = .turn answer
  · obtain ⟨answer, rfl⟩ := hturn
    exact meets_of_sawCancel_turn hbefore h
  · rw [run_step_of_not_turn (not_exists.1 hturn), hbefore] at h
    cases h

theorem meets_of_sawCancel (hbefore : r.run.sawCancel = false)
    (h : (r.steps events).run.sawCancel = true) :
    ∃ m ∈ r.moments events, Meets m.1 m.2 .cancelled := by
  induction events generalizing r with
  | nil =>
      rw [show r.steps [] = r from rfl, hbefore] at h
      cases h
  | cons event events ih =>
      cases hstep : (r.step event).run.sawCancel with
      | true => exact ⟨(r, event), List.mem_cons_self, meets_of_sawCancel_step hbefore hstep⟩
      | false =>
          obtain ⟨m, hm, hmeets⟩ := ih hstep h
          exact ⟨m, List.mem_cons_of_mem _ hm, hmeets⟩

/-- A run that ended well without noticing that it was cancelled met no setback. -/
theorem not_meets_of_result_ok (hresult : (r.steps events).run.result? = some (.ok ()))
    (hcancel : ¬ ∃ m ∈ r.moments events, Meets m.1 m.2 .cancelled) :
    ∀ m ∈ r.moments events, ∀ setback, ¬ Meets m.1 m.2 setback := by
  intro m hm setback hmeets
  have hend : (r.steps events).run.result? = some setback.result :=
    (congrArg Run.result? (hmeets.run_steps hm)).trans hmeets.result
  rw [hresult] at hend
  cases setback with
  | cancelled => exact hcancel ⟨m, hm, hmeets⟩
  | feeding e => cases hend
  | sink e => cases hend

/-- Whatever happens in whichever order, the lines that were forwarded are the first lines of the
output, in order and each once, and each went where it belongs. After a setback none follows. A run
ends well only if it found itself cancelled, or met no setback at all, saw the core exit with status
zero and forwarded every line of an output that could be read. -/
theorem forwarded_isPrefix_lines (output : Bytes) (events : List Event) :
    let r := (start output).steps events
    let passed := r.run.forwarded.reverse
    (passed.map Prod.snd <+: lines output ∧
      ∀ p ∈ passed, p.1 = .access ↔ AccessLine.marker <:+: p.2.toList) ∧
    (∀ m ∈ (start output).moments events, ∀ setback, Meets m.1 m.2 setback →
      r.run.forwarded = (m.1.step m.2).run.forwarded) ∧
    (r.run.result? = some (.ok ()) →
      (∃ m ∈ (start output).moments events, Meets m.1 m.2 .cancelled) ∨
      (∀ m ∈ (start output).moments events, ∀ setback, ¬ Meets m.1 m.2 setback) ∧
        (∃ s, r.exit = some (.ok s) ∧ s.word = 0) ∧
        (r.reader.ending = some .failed ∨ passed.map Prod.snd = lines output)) := by
  intro r passed
  have hcoherent : Coherent output r := (coherent_start output).steps events
  refine ⟨⟨⟨r.underway, hcoherent.account⟩, ?_⟩, ?_, ?_⟩
  · intro p hp
    rw [hcoherent.channel p (List.mem_reverse.1 hp)]
    exact ofLine_eq_access_iff p.2
  · intro m hm setback hmeets
    exact congrArg Run.forwarded (hmeets.run_steps hm)
  · intro hresult
    by_cases hcancel : ∃ m ∈ (start output).moments events, Meets m.1 m.2 .cancelled
    · exact .inl hcancel
    · right
      have hquiet : r.run.sawCancel = false := by
        by_contra hsaw
        rw [Bool.not_eq_false] at hsaw
        exact hcancel (meets_of_sawCancel rfl hsaw)
      obtain ⟨hdrained, s, hexit, hsuccess⟩ :=
        hcoherent.exited (Run.result?_eq_some_iff.1 hresult) hquiet
      have hword : s.word = 0 := by simpa [ExitStatus.isSuccess] using hsuccess
      exact ⟨not_meets_of_result_ok hresult hcancel, ⟨s, hexit, hword⟩,
        hcoherent.all_forwarded hdrained⟩

/-- Lines arrive in parts, the first is forwarded before the second is there. -/
example :
    let r := (start (Bytes.ofAscii "a\r\nb accepted")).steps [.fed (.ok ()), .arrive 4, .turn (.ok ()),
      .read, .send, .turn (.ok ()), .arrive 20, .close, .read, .exited (.ok ⟨0⟩), .send,
      .turn (.ok ()), .read, .turn (.ok ()), .turn (.ok ())]
    r.run.forwarded = [(.access, "b accepted"), (.core, "a")] ∧ r.run.result? = some (.ok ()) := by
  decide +kernel

/-! ## Programs -/

variable {σ : Type}

theorem exists_steps_perform (sink : Sink σ) (turns : Nat) (r : Relay) (s : σ) :
    ∃ events, (perform sink turns r s).1 = r.steps events := by
  induction turns generalizing r s with
  | zero => exact ⟨[], rfl⟩
  | succ turns ih =>
      rw [perform]
      dsimp only
      split
      · obtain ⟨events, hevents⟩ := ih (((r.step .read).step .send).step (.turn (.ok ()))) s
        exact ⟨.read :: .send :: .turn (.ok ()) :: events, hevents⟩
      · next l _ =>
          generalize sink s (.ofLine l) l = answer
          split_ifs with hcancel
          · obtain ⟨events, hevents⟩ :=
              ih ((((r.step .read).step .send).step (.turn answer.1)).step .cancel) answer.2.1
            exact ⟨.read :: .send :: .turn answer.1 :: .cancel :: events, hevents⟩
          · obtain ⟨events, hevents⟩ :=
              ih (((r.step .read).step .send).step (.turn answer.1)) answer.2.1
            exact ⟨.read :: .send :: .turn answer.1 :: events, hevents⟩

/-- The run of a program is one of the courses that events can take. -/
theorem exists_steps_performRun (sink : Sink σ) (program : Program) (document : Bytes) (s : σ) :
    ∃ events,
      (performRun sink program document s).1 = ((start program.output).steps events).run := by
  obtain ⟨events, hevents⟩ := exists_steps_perform sink ((lines program.output).length + 3)
    ((start program.output).steps (program.events document)) s
  refine ⟨program.events document ++ events, ?_⟩
  rw [steps, List.foldl_append]
  exact congrArg Relay.run hevents

end Relay

end ProxyWarden.Dispatch

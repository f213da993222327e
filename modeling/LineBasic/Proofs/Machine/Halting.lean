import LineBasic.Proofs.Machine.Asking
import LineBasic.Proofs.Machine.Completion

/-!
# Requests to stop

A request to stop may find the run at a statement, or suspended, or suspended while another thread
keeps the machine to itself. In the last case the request is only noted, and whatever takes the run
up again has to look at the note first. `Quelled` says what may still change of a run that was
suspended when the request was noted: the reply to a question that was held then is stored, the run
may end without a fault, and nothing else that the program can see is touched. Every request but an
accepted run keeps this, so no further statement is performed.
-/

namespace LineBasic

namespace Console

def asking? : Console → Option String
  | .buffer b => b.asking
  | .stream _ => none

/-- How often what was shown has been cleared. A stream keeps no count: what clears its screen is
written to it. -/
def clears : Console → Nat
  | .buffer b => b.clears
  | .stream _ => 0

theorem feed_fst (c : Console) (reply : Reply) : (c.feed reply).1 = c.asking? := by
  cases c with
  | buffer b =>
      simp only [feed, asking?]
      split <;> simp_all
  | stream s => rfl

theorem clears_feed (c : Console) (reply : Reply) : (c.feed reply).2.clears = c.clears := by
  cases c with
  | buffer b =>
      simp only [feed]
      split <;> rfl
  | stream s => rfl

/-- A reply answers the question that is held, so that none is held afterwards. -/
theorem asking?_feed (c : Console) (reply : Reply) : (c.feed reply).2.asking? = none := by
  cases c with
  | buffer b =>
      simp only [feed]
      split <;> simp_all [asking?]
  | stream s => rfl

end Console

theorem Timers.cancelled_of_cancel {t : Timers} {timer : Timer}
    (h : timer ∈ (t.cancel timer.id).queue) : timer.cancelled = true := by
  obtain ⟨old, -, hold⟩ := List.mem_map.mp h
  split at hold
  · rw [← hold]
  · next hother =>
    rw [hold] at hother
    simp at hother

namespace Machine

variable {m m₁ : Machine} {fed : String → Prop}

/-- What has become of a run that was suspended in `m` with a request to stop noted, after replies
among those `fed`. -/
structure Quelled (m : Machine) (fed : String → Prop) (m₁ : Machine) : Prop where
  rest : ∃ console display timers timer vars halted waiting phase completion log,
    m₁ = { m with
      console := console, display := display, timers := timers, timer := timer, vars := vars,
      halted := halted, waiting := waiting, phase := phase, completion := completion, log := log }
  written : m₁.console.written = m.console.written
  clears : m₁.console.clears = m.console.clears
  pixels : m₁.display.map (·.pixels) = m.display.map (·.pixels)
  vars : m₁.vars = m.vars ∨ ∃ name text, m.console.asking? = some name ∧ fed text ∧
    m₁.vars = m.vars.insert name (readReply name text)
  asking : m₁.console.asking? = none ∨
    m₁.console.asking? = m.console.asking? ∧ m₁.vars = m.vars
  course : (m₁.phase = .paused ∨ m₁.phase = .waiting) ∧ m₁.halted = true ∧
      m₁.completion = .pending ∨
    m₁.phase = .ended ∧ m₁.completion = .done {}

/-- The end of a run that is not completed yet, without a fault. -/
theorem run_finish_none (hphase : m.phase ≠ .ended) (hpending : m.completion = .pending) :
    ∃ log, (finish none).run.run m =
      (.ok (), { cancelTimer m with phase := .ended, completion := .done {}, log := log }) := by
  have hcancel : (cancelTimer m).completion = .pending := by
    unfold cancelTimer
    split <;> exact hpending
  obtain ⟨log, hlog⟩ := run_trace 1 "program ended" { cancelTimer m with phase := .ended }
  refine ⟨log, ?_⟩
  rw [finish_eq, run_bind, run_get]
  dsimp only
  rw [if_neg hphase, run_bind, run_modify]
  dsimp only
  rw [conclude, run_bind, hlog]
  dsimp only
  rw [complete, run_bind, run_get]
  simp only [hcancel]
  rfl

/-- A request to stop ends a suspended run at once, without a fault, and cancels its timer. -/
theorem run_stop_of_suspended (hphase : m.phase = .paused ∨ m.phase = .waiting)
    (hpending : m.completion = .pending) :
    ∃ log, stop.run.run m = (.ok (), { cancelTimer { m with halted := true } with
      phase := .ended, completion := .done {}, log := log }) := by
  have hended : m.phase ≠ .ended := by rcases hphase with h | h <;> simp [h]
  obtain ⟨log, hfinish⟩ := run_finish_none (m := { m with halted := true }) hended hpending
  refine ⟨log, ?_⟩
  unfold stop
  rw [run_bind, run_get]
  dsimp only
  rw [if_neg hended, run_bind, halt, run_modify]
  dsimp only
  rw [run_bind, run_get]
  dsimp only
  rw [if_pos hphase, hfinish]

/-! ## A run that is suspended and to end -/

namespace Quelled

theorem refl (hphase : m.phase = .paused ∨ m.phase = .waiting) (hhalted : m.halted = true)
    (hpending : m.completion = .pending) : Quelled m fed m where
  rest := ⟨_, _, _, _, _, _, _, _, _, _, rfl⟩
  written := rfl
  clears := rfl
  pixels := rfl
  vars := .inl rfl
  asking := .inr ⟨rfl, rfl⟩
  course := .inl ⟨hphase, hhalted, hpending⟩

/-- The state of its run can change behind the scenes, as long as the run stays suspended or ended.
-/
theorem alter (h : Quelled m fed m₁) (timers : Timers) (timer : Option Nat) (waiting : Bool) :
    Quelled m fed { m₁ with timers := timers, timer := timer, waiting := waiting } := by
  obtain ⟨_, _, _, _, _, _, _, _, _, _, rfl⟩ := h.rest
  exact ⟨⟨_, _, _, _, _, _, _, _, _, _, rfl⟩, h.written, h.clears, h.pixels, h.vars, h.asking,
    h.course⟩

/-- The request to stop may be made again. -/
theorem noted (h : Quelled m fed m₁) : Quelled m fed { m₁ with halted := true } := by
  obtain ⟨_, _, _, _, _, _, _, _, _, _, rfl⟩ := h.rest
  exact ⟨⟨_, _, _, _, _, _, _, _, _, _, rfl⟩, h.written, h.clears, h.pixels, h.vars, h.asking,
    h.course.imp (fun hcourse => ⟨hcourse.1, rfl, hcourse.2.2⟩) id⟩

/-- It can end without a fault. -/
theorem finish (h : Quelled m fed m₁) (log : Array LogRecord) :
    Quelled m fed { cancelTimer m₁ with
      phase := .ended, completion := .done {}, log := log } := by
  obtain ⟨_, _, _, _, _, _, _, _, _, _, rfl⟩ := h.rest
  unfold cancelTimer
  split
  · exact ⟨⟨_, _, _, _, _, _, _, _, _, _, rfl⟩, h.written, h.clears, h.pixels, h.vars, h.asking,
      .inr ⟨rfl, rfl⟩⟩
  · exact ⟨⟨_, _, _, _, _, _, _, _, _, _, rfl⟩, h.written, h.clears, h.pixels, h.vars, h.asking,
      .inr ⟨rfl, rfl⟩⟩

/-- A reply answers the question that was held, or is kept for later. -/
theorem heard (h : Quelled m fed m₁) (text : String) :
    Quelled m fed { m₁ with console := (m₁.console.feed (some text)).2 } := by
  obtain ⟨_, _, _, _, _, _, _, _, _, _, rfl⟩ := h.rest
  exact ⟨⟨_, _, _, _, _, _, _, _, _, _, rfl⟩, (Console.written_feed _ _).trans h.written,
    (Console.clears_feed _ _).trans h.clears, h.pixels, h.vars, .inl (Console.asking?_feed _ _),
    h.course⟩

/-- The reply to the question that was held is stored. -/
theorem stored (h : Quelled m fed m₁) {name text : String}
    (hasking : m₁.console.asking? = some name) (hfed : fed text) : Quelled m fed { m₁ with
      console := (m₁.console.feed (some text)).2, vars := m₁.vars.insert name (readReply name text),
      waiting := false } := by
  have hheld : m₁.console.asking? = m.console.asking? ∧ m₁.vars = m.vars :=
    h.asking.resolve_left (by simp [hasking])
  obtain ⟨_, _, _, _, _, _, _, _, _, _, rfl⟩ := h.rest
  refine ⟨⟨_, _, _, _, _, _, _, _, _, _, rfl⟩, (Console.written_feed _ _).trans h.written,
    (Console.clears_feed _ _).trans h.clears, h.pixels, .inr ⟨name, text, ?_, hfed, ?_⟩,
    .inl (Console.asking?_feed _ _), h.course⟩
  · exact hheld.1.symm.trans hasking
  · exact congrArg (fun vars => Table.insert vars name (readReply name text)) hheld.2

end Quelled

/-- What an action comes to that might have taken up the run: the run does not go on. -/
abbrev Subdues (m : Machine) (fed : String → Prop) (x : Except Fault Progress × Machine) : Prop :=
  Matched (Below fun _ => False) (Below (Quelled m fed)) (fun _ => True) x x

/-- Taking up the run ends it. -/
theorem subdues_goOn (h : Quelled m fed m₁) (hphase : m₁.phase ≠ .ended) :
    Subdues m fed (goOn.run.run m₁) := by
  obtain ⟨-, hhalted, hpending⟩ := h.course.resolve_right fun hended => hphase hended.1
  obtain ⟨log, hfinish⟩ := run_finish_none hphase hpending
  unfold goOn
  rw [run_bind, run_get]
  dsimp only
  rw [if_pos hhalted, run_bind, hfinish]
  exact .stops ⟨rfl, h.finish log⟩

theorem subdues_wake (h : Quelled m fed m₁) : Subdues m fed (wake.run.run m₁) := by
  have huntimed : Quelled m fed { m₁ with timer := none } := h.alter m₁.timers none m₁.waiting
  unfold wake
  rw [run_bind, run_modify]
  dsimp only
  rw [run_bind, run_get]
  dsimp only
  split
  · next hphase => exact subdues_goOn huntimed (by simp [hphase])
  · exact .stops ⟨rfl, huntimed⟩

theorem subdues_resume (h : Quelled m fed m₁) : Subdues m fed (resume.run.run m₁) := by
  have hreleased : Quelled m fed { m₁ with waiting := false } := h.alter m₁.timers m₁.timer false
  unfold resume
  rw [run_bind, run_get]
  dsimp only
  split
  · exact .stops ⟨rfl, h⟩
  · rw [run_bind, run_modify]
    dsimp only
    rw [run_bind, run_get]
    dsimp only
    split
    · next hphase => exact subdues_goOn hreleased (by simp [hphase])
    · exact .stops ⟨rfl, hreleased⟩

theorem subdues_feed (h : Quelled m fed m₁) {text : String} (hfed : fed text) :
    Subdues m fed ((feed (some text)).run.run m₁) := by
  by_cases hended : m₁.phase = .ended
  · rw [run_feed_of_ended hended]
    exact .stops ⟨rfl, h.heard text⟩
  · unfold feed
    rw [run_bind, run_get]
    dsimp only
    rw [run_bind, run_set]
    dsimp only
    rw [Console.feed_fst]
    cases hasking : m₁.console.asking? with
    | none => exact .stops ⟨rfl, h.heard text⟩
    | some name =>
        have hstored := h.stored hasking hfed
        unfold receive
        simp only [run_bind, run_get, if_neg hended, replyValue_some, setVariable, run_modify,
          run_pure]
        unfold react
        rw [run_bind, run_get]
        dsimp only
        split
        · exact subdues_goOn hstored hended
        · exact .stops ⟨rfl, hstored⟩

theorem quelled_stop (h : Quelled m fed m₁) : Quelled m fed (stop.run.run m₁).2 := by
  rcases h.course with ⟨hphase, -, hpending⟩ | ⟨hended, -⟩
  · obtain ⟨log, hstop⟩ := run_stop_of_suspended hphase hpending
    rw [hstop]
    exact h.noted.finish log
  · rw [run_stop_of_ended hended]
    exact h

theorem quelled_stopElsewhere (h : Quelled m fed m₁) :
    Quelled m fed (stopElsewhere.run.run m₁).2 := by
  unfold stopElsewhere
  rw [run_bind, run_get]
  dsimp only
  split
  · exact h
  · exact h.noted

theorem quelled_press (h : Quelled m fed m₁) (key : String) :
    Quelled m fed ((press key).run.run m₁).2 := by
  obtain ⟨console, display, _, _, _, _, _, _, _, _, rfl⟩ := h.rest
  unfold press
  rw [run_bind, run_get]
  dsimp only
  cases display with
  | none => exact h
  | some d =>
      exact ⟨⟨_, _, _, _, _, _, _, _, _, _, rfl⟩, h.written, h.clears, h.pixels, h.vars, h.asking,
        h.course⟩

/-- Requests that start no run: replies among those `fed`, keys, timers, requests to stop, and
requests to take up the run. -/
def Request.Quiet (fed : String → Prop) : Request → Prop
  | .feed (some text) => fed text
  | .press _ | .tick | .tickAll | .stop | .stopElsewhere | .resume => True
  | _ => False

/-- No such request lets the run go on. -/
theorem attuned_quelled (m : Machine) (fed : String → Prop) :
    Attuned (Request.Quiet fed) (fun _ => True) (Below fun _ => False) (Below (Quelled m fed))
      (fun _ => True) where
  drives request h := by
    cases request <;> first | rfl | cases h
  cycle := by
    rintro m _ ⟨-, ⟨⟩⟩
  start := by
    rintro m _ source ⟨⟩
  feed := by
    rintro m₁ _ reply hquiet ⟨rfl, h⟩
    cases reply with
    | none => cases hquiet
    | some text => exact subdues_feed h hquiet
  resume := by
    rintro m₁ _ ⟨rfl, h⟩
    exact subdues_resume h
  fires := by
    rintro m₁ _ ⟨rfl, h⟩
    rfl
  wake := by
    rintro m₁ _ ⟨rfl, h⟩ -
    exact subdues_wake (h.alter m₁.timers.pop.2 m₁.timer m₁.waiting)
  drain := by
    rintro m₁ _ ⟨rfl, h⟩ -
    exact ⟨rfl, h.alter m₁.timers.pop.2 m₁.timer m₁.waiting⟩
  press := by
    rintro m₁ _ key ⟨rfl, h⟩
    exact agrees_below (quelled_press h key) fun _ _ => trivial
  stop := by
    rintro m₁ _ ⟨rfl, h⟩
    exact agrees_below (quelled_stop h) fun _ _ => trivial
  stopElsewhere := by
    rintro m₁ _ ⟨rfl, h⟩
    exact agrees_below (quelled_stopElsewhere h) fun _ _ => trivial
  finish := by
    rintro m₁ _ fault ⟨⟩

/-- A run that is asked for while another one is under way or suspended is refused. -/
theorem run_start_of_busy (source : String)
    (h : m.phase = .running ∨ m.phase = .paused ∨ m.phase = .waiting) :
    (start source).run.run m = (.error (.run .alreadyRunning none), m) := by
  rw [start_eq, run_bind, run_get]
  dsimp only
  rw [if_pos h]
  rfl

/-- Every run among the requests is asked for while one is under way or suspended. -/
def RunsRefused (n : Nat) (requests : List Request) (m : Machine) : Prop :=
  ∀ before source after answers m₁, requests = before ++ .run source :: after →
    attend n before m = some (answers, m₁) →
      m₁.phase = .running ∨ m₁.phase = .paused ∨ m₁.phase = .waiting

theorem RunsRefused.tail {n : Nat} {request : Request} {rest : List Request}
    (h : RunsRefused n (request :: rest) m) {answer : Except Fault Value}
    (hhandle : handle n request m = some (answer, m₁)) : RunsRefused n rest m₁ := by
  intro before source after answers m₂ hsplit hattend
  refine h (request :: before) source after (answer :: answers) m₂
    (congrArg (request :: ·) hsplit) ?_
  rw [attend, hhandle]
  simp [hattend]

/-- Nor does any sequence of such requests, with runs among them that are refused. -/
theorem Quelled.attend (h : Quelled m fed m₁) {n : Nat} {later : List Request}
    (hquiet : ∀ request ∈ later, request.Quiet fed ∨ ∃ source, request = .run source)
    (hrefused : RunsRefused n later m₁) :
    trail n later m₁ = [] ∧
      ∀ answers m₂, attend n later m₁ = some (answers, m₂) → Quelled m fed m₂ := by
  induction later generalizing m₁ with
  | nil =>
      refine ⟨rfl, ?_⟩
      rintro _ _ ⟨⟩
      exact h
  | cons request rest ih =>
      have hone : request.moments n m₁ = [] ∧
          ∀ answer m₂, handle n request m₁ = some (answer, m₂) → Quelled m fed m₂ := by
        rcases hquiet request (by simp) with hrequest | ⟨source, rfl⟩
        · have T := attuned_quelled m fed
          refine ⟨?_, fun answer m₂ hhandle => T.handle_below hrequest h (by simp) hhandle⟩
          have hmoments := (T.handle (n := n) hrequest ⟨rfl, h⟩ (by simp)).2
          cases hfirst : request.moments n m₁ with
          | nil => rfl
          | cons k ks =>
              rw [hfirst] at hmoments
              cases hmoments with
              | cons hk _ => exact hk.2.elim
        · have hstart := run_start_of_busy source (hrefused [] source rest [] m₁ rfl rfl)
          rw [Request.moments, momentsAfter, handle, following, course_bind, followed_eq, hstart]
          refine ⟨rfl, ?_⟩
          rintro _ _ ⟨⟩
          exact h
      rw [trail, hone.1, List.nil_append]
      cases hhandle : handle n request m₁ with
      | none =>
          refine ⟨rfl, fun answers m₂ hattend => ?_⟩
          obtain ⟨_, _, _, hsome, -⟩ := attend_cons hattend
          rw [hhandle] at hsome
          cases hsome
      | some x =>
          obtain ⟨htrail, hend⟩ := ih (hone.2 x.1 x.2 hhandle)
            (fun r hr => hquiet r (by simp [hr])) (hrefused.tail hhandle)
          refine ⟨htrail, fun answers m₂ hattend => ?_⟩
          obtain ⟨answer, more, m₃, hsome, hrest, -⟩ := attend_cons hattend
          rw [hhandle] at hsome
          cases hsome
          exact hend more m₂ hrest

/-! ## A statement that asks for the end of the run -/

/-- A machine in the course of a run has begun one. -/
theorem Going.begun {b : Bool} (h : Going b m) : Going true m := by
  have hpending := h.accounted.pending (by simp [h.phase]) (by simp [h.phase])
  exact ⟨⟨fun _ => by simp [hpending], h.accounted.absent, h.accounted.ended, h.accounted.cursor,
    h.accounted.program⟩, h.phase⟩

theorem timer_cancelTimer (m : Machine) : (cancelTimer m).timer = none := by
  unfold cancelTimer
  split
  · rfl
  · assumption

theorem asked_cancelTimer (m : Machine) : (cancelTimer m).timers.asked = m.timers.asked := by
  unfold cancelTimer
  split <;> rfl

theorem unaffected_asked (asked : List Float) : Unaffected fun m => m.timers.asked = asked where
  display _ _ h := h
  dice _ _ h := h
  log _ _ h := h
  vars _ _ h := h
  heap _ _ h := h
  loops _ _ h := h
  stack _ _ h := h
  jump _ _ h := h
  halt _ h := h
  write _ _ h := h
  clear _ h := h
  ending m h := (asked_cancelTimer m).trans h
  completion _ _ h := h

/-- A run has ended without a fault, and no delay was asked for beyond those given. -/
def EndsWell (asked : List Float) (x : Except Fault Progress × Machine) : Prop :=
  ∃ m outcome, x = (.ok .stops, m) ∧ m.phase = .ended ∧ m.completion = .done outcome ∧
    outcome.fault = none ∧ m.timers.asked = asked

theorem endsWell_finish (hphase : m.phase ≠ .ended) (hpending : m.completion = .pending) :
    EndsWell m.timers.asked ((do finish none; return .stops : Action Progress).run.run m) := by
  obtain ⟨log, hfinish⟩ := run_finish_none hphase hpending
  rw [run_bind, hfinish]
  exact ⟨_, _, rfl, rfl, rfl, rfl, asked_cancelTimer m⟩

theorem endsWell_boundary (hphase : m.phase ≠ .ended) (hpending : m.completion = .pending)
    (hhalted : m.halted = true) : EndsWell m.timers.asked (boundary.run.run m) := by
  unfold boundary
  rw [run_bind, run_get]
  dsimp only
  rw [if_pos hhalted]
  exact endsWell_finish hphase hpending

/-- A run that a statement has asked to end, and that is not at fault, ends after that statement.
-/
theorem endsWell_cycle {k : Machine} (h : Going true k) {reaction : Reaction}
    (hstep : step.run.run k = (.ok reaction, m₁)) (hhalted : m₁.halted = true)
    (hwell : ∀ outcome, m₁.completion = .done outcome → outcome.fault = none) :
    EndsWell k.timers.asked (cycle.run.run k) := by
  have haccounted := (accounted_step h.accounted).1
  have U := unaffected_asked k.timers.asked
  have hasked := (U.performFrame.step (U.pauseFor fun _ _ h => h)
    (U.ask (fun _ _ h => h) fun _ _ h => h)).keeps rfl
  have V := unaffected_phase k.phase
  have hphase := (V.performFrame.step (V.pauseFor fun _ _ h => h)
    (V.ask (fun _ _ h => h) fun _ _ h => h)).keeps (.inl rfl)
  rw [hstep] at haccounted hasked hphase
  dsimp only at haccounted hasked hphase
  unfold cycle
  rw [run_bind, hstep]
  dsimp only
  rw [run_bind, run_get]
  dsimp only
  by_cases hended : m₁.phase = .ended
  · obtain ⟨outcome, hdone⟩ := (haccounted.ended (haccounted.begun rfl)).mp hended
    rw [if_pos hended]
    exact ⟨m₁, outcome, rfl, hended, hdone, hwell outcome hdone, hasked⟩
  · have hrunning : m₁.phase = .running := (hphase.resolve_right hended).trans h.phase
    have hpending := haccounted.pending (by simp [hrunning]) hended
    rw [if_neg hended, ← hasked]
    split
    · exact endsWell_boundary (m := { m₁ with jumped := false }) hended hpending hhalted
    · split
      · exact endsWell_finish hended hpending
      · next line _ =>
        exact endsWell_boundary (m := { m₁ with cursor := (line.number : Int) }) hended hpending
          hhalted

/-- A request to stop is never lost, whatever a new machine was asked before.

A run that is suspended ends at once, without a fault, and the timer that it holds is cancelled. If
a request to stop was only noted while the run was suspended, then no statement of the run is
performed any more, whatever is asked apart from a run that is accepted: what was shown, the points
of the display, loops, calls and the cursor stay as they were, a variable changes only if it is the
one whose question was held and a reply to it was fed, and the run stays suspended or ends without a
fault. If a statement itself asks for the end and is not at fault, the run ends without a fault
after that statement, and sets no timer. -/
theorem stop_never_lost {m₀ : Machine} (hnew : IsNew m₀) (n : Nat) {requests : List Request}
    (hplain : ∀ request ∈ requests, request.Plain) :
    (∀ answers m, attend n requests m₀ = some (answers, m) →
      m.phase = .paused ∨ m.phase = .waiting →
      (∃ m₁, stop.run.run m = (.ok (), m₁) ∧ m₁.phase = .ended ∧ m₁.completion = .done {} ∧
        m₁.timer = none ∧ ∀ id, m.timer = some id →
          ∀ timer ∈ m₁.timers.queue, timer.id = id → timer.cancelled = true) ∧
      (m.halted = true → ∀ n' later,
        (∀ request ∈ later, request.Quiet (fun text => .feed (some text) ∈ later) ∨
          ∃ source, request = .run source) →
        RunsRefused n' later m →
        trail n' later m = [] ∧ ∀ answers' m₁, attend n' later m = some (answers', m₁) →
          m₁.console.written = m.console.written ∧ m₁.console.clears = m.console.clears ∧
          m₁.display.map (·.pixels) = m.display.map (·.pixels) ∧
          m₁.program = m.program ∧ m₁.cursor = m.cursor ∧ m₁.loops = m.loops ∧
          m₁.stack = m.stack ∧ m₁.heap = m.heap ∧
          (m₁.vars = m.vars ∨ ∃ name text, m.console.asking? = some name ∧
            .feed (some text) ∈ later ∧ m₁.vars = m.vars.insert name (readReply name text)) ∧
          (m₁.phase = .paused ∨ m₁.phase = .waiting ∨
            m₁.phase = .ended ∧ m₁.completion = .done {}))) ∧
    ∀ k ∈ trail n requests m₀, ∀ reaction m₁, step.run.run k = (.ok reaction, m₁) →
      m₁.halted = true → (∀ outcome, m₁.completion = .done outcome → outcome.fault = none) →
      ∃ m₂ outcome, cycle.run.run k = (.ok .stops, m₂) ∧ m₂.phase = .ended ∧
        m₂.completion = .done outcome ∧ outcome.fault = none ∧
        m₂.timers.asked = k.timers.asked := by
  refine ⟨fun answers m hattend hphase => ?_, fun k hk reaction m₁ hstep hhalted hwell => ?_⟩
  · have haccounted := (attuned_accounted.attend_below hplain hnew.accounted (by simp) hattend).1
    have hpending : m.completion = .pending := by
      apply haccounted.pending
      · rcases hphase with h | h <;> simp [h]
      · rcases hphase with h | h <;> simp [h]
    refine ⟨?_, fun hhalted n' later hquiet hrefused => ?_⟩
    · obtain ⟨log, hstop⟩ := run_stop_of_suspended hphase hpending
      refine ⟨_, hstop, rfl, rfl, ?_, fun id hid timer htimer hequal => ?_⟩
      · exact timer_cancelTimer _
      · rw [cancelTimer_some (m := { m with halted := true }) hid] at htimer
        subst hequal
        exact Timers.cancelled_of_cancel htimer
    · obtain ⟨htrail, hend⟩ := (Quelled.refl hphase hhalted hpending).attend hquiet hrefused
      refine ⟨htrail, fun answers' m₁ hattend' => ?_⟩
      have hquelled := hend answers' m₁ hattend'
      obtain ⟨_, _, _, _, _, _, _, _, _, _, hrest⟩ := hquelled.rest
      refine ⟨hquelled.written, hquelled.clears, hquelled.pixels, by rw [hrest], by rw [hrest],
        by rw [hrest], by rw [hrest], by rw [hrest], hquelled.vars, ?_⟩
      rcases hquelled.course with ⟨hsuspended, -⟩ | hended
      · exact hsuspended.imp_right .inl
      · exact .inr (.inr hended)
  · have hgoing := attuned_accounted.trail_below hplain hnew.accounted (by simp) k hk
    exact endsWell_cycle hgoing.begun hstep hhalted hwell

/-- A program that ends before its last line. -/
def ending : Program where
  lines := [{ number := 10, instruction := .command .halt },
    { number := 20, instruction := .command .clearConsole }]

theorem load_ending : Program.load "10 END\n20 CLT" = .ok ending := by
  have hsplit : (Program.splitSource "10 END\n20 CLT").filter (!Program.isBlankLine ·) =
      ["10 END", "20 CLT"] := by decide
  have hlines : ["10 END", "20 CLT"].mapM parseLine = .ok ending.lines := by
    with_unfolding_all rfl
  unfold Program.load
  rw [hsplit, hlines]
  exact Program.ofLines_of_ascending ending.ascending

/-- A paused run is asked to stop while another thread keeps the machine to itself. Another run is
refused, and when the timer of the pause fires the run ends without printing anything. In another
session a statement asks for the end, and the run ends there. -/
theorem stop_never_lost_pausing :
    (∃ answers m, attend 1 [.run "10 PAUSE 5\n20 PRINT \"A\"", .stopElsewhere]
        { constants := defaultConstants, functions := defaultFunctions } = some (answers, m) ∧
      m.phase = .paused ∧ m.halted = true ∧ trail 1 [.run "10 END", .tick] m = [] ∧
      ∃ answers' m₁, attend 1 [.run "10 END", .tick] m = some (answers', m₁) ∧
        m₁.phase = .ended ∧ m₁.console.written = m.console.written ∧ m₁.vars = m.vars) ∧
    ∃ k ∈ trail 1 [.run "10 END\n20 CLT"]
        { constants := defaultConstants, functions := defaultFunctions },
      k.halted = false ∧ ∃ m₂ outcome, cycle.run.run k = (.ok .stops, m₂) ∧
        m₂.completion = .done outcome ∧ outcome.fault = none := by
  have hnew : IsNew { constants := defaultConstants, functions := defaultFunctions } := rfl
  refine ⟨?_, ?_⟩
  · obtain ⟨s, -, -, hrun⟩ := handle_run_pausing
    have hattend : ∃ answers m, attend 1 [.run "10 PAUSE 5\n20 PRINT \"A\"", .stopElsewhere]
        { constants := defaultConstants, functions := defaultFunctions } = some (answers, m) ∧
          m.phase = .paused ∧ m.halted = true ∧ m.console.asking? = none ∧
          ∃ answers' m₁, attend 1 [.run "10 END", .tick] m = some (answers', m₁) ∧
            m₁.phase = .ended := by
      rw [attend, hrun]
      exact ⟨_, _, rfl, rfl, rfl, rfl, _, _, rfl, rfl⟩
    obtain ⟨answers, m, hattend, hphase, hhalted, hasking, answers', m₁, hlater, hended⟩ := hattend
    have hrefused : RunsRefused 1 [.run "10 END", .tick] m := by
      intro before source after answers m₁ hsplit hbefore
      cases before with
      | nil =>
          cases hbefore
          exact .inr (.inl hphase)
      | cons request before =>
          cases before with
          | nil => cases hsplit
          | cons request before => simp at hsplit
    obtain ⟨-, hquelled⟩ := (stop_never_lost hnew 1 (by simp [Request.Plain, Request.drives])).1
      answers m hattend (.inl hphase)
    obtain ⟨htrail, hend⟩ := hquelled hhalted 1 [.run "10 END", .tick]
      (by simp [Request.Quiet]) hrefused
    obtain ⟨hwritten, -, -, -, -, -, -, -, hvars, -⟩ := hend answers' m₁ hlater
    refine ⟨answers, m, hattend, hphase, hhalted, htrail, answers', m₁, hlater, hended, hwritten,
      ?_⟩
    rcases hvars with hvars | ⟨name, -, hheld, -⟩
    · exact hvars
    · rw [hasking] at hheld
      cases hheld
  · have hstart : (start "10 END\n20 CLT").run.run
        { constants := defaultConstants, functions := defaultFunctions } = (.ok .goesOn,
          { reset { constants := defaultConstants, functions := defaultFunctions } with
            program := ending, cursor := 10 }) := by
      unfold start
      rw [load_ending]
      rfl
    have hfirst : { reset { constants := defaultConstants, functions := defaultFunctions } with
        program := ending, cursor := 10 } ∈ trail 1 [.run "10 END\n20 CLT"]
          { constants := defaultConstants, functions := defaultFunctions } := by
      rw [trail, Request.moments, momentsAfter, hstart]
      simp [moments]
    obtain ⟨m₂, outcome, hcycle, -, hdone, hfault, -⟩ :=
      (stop_never_lost hnew 1 (by simp [Request.Plain, Request.drives])).2 _ hfirst .quiet _ rfl rfl
        fun _ hpending => Completion.noConfusion hpending
    exact ⟨_, hfirst, rfl, m₂, outcome, hcycle, hdone, hfault⟩

end Machine

end LineBasic

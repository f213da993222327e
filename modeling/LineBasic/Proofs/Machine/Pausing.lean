import LineBasic.Proofs.Machine.Stepping
import LineBasic.Proofs.Value.Truth

/-!
# Pauses and the cycle they end

A pause is due when the statement at the cursor is a `PAUSE` that succeeds with a positive value, a
line follows, and nobody has asked the run to end. `duePause?` says so without a look at the delay
or the timers of the machine.

The unbroken cycle differs from the real one in its boundary only: it clears a delay and takes no
notice of it. Where no pause is due the two cycles do the same; where one is due the unbroken cycle
goes on and the real one suspends the run at the same place.
-/

namespace LineBasic

namespace Machine

def isPositive (v : Value) : Bool :=
  match v.greater (.int 0) with
  | .ok positive => positive
  | .error _ => false

/-- The value of the `PAUSE` at the cursor after it has been performed, if there is one. -/
def pauseHere : Action (Option Value) := do
  match ← commandHere with
  | some (.pause millis) =>
    let v ← evaluate millis
    pauseFor v
    return some v
  | _ => return none

/-- The pause that the statement at the cursor brings about: it is a `PAUSE` that succeeds with a
positive value, a line follows, and the run has not been asked to end. -/
def duePause? (m : Machine) : Option Value :=
  match pauseHere.run.run m with
  | (.ok (some v), m₁) =>
    if isPositive v ∧ (m.program.next? m.cursor).isSome ∧ m₁.halted = false then some v else none
  | _ => none

/-- What happens between two statements when pauses take no time: the run ends if it was asked to,
a missing reply suspends it, and otherwise it goes on. -/
def unbrokenBoundary : Action Progress := do
  let m ← get
  if m.halted then
    finish none
    return .stops
  set { m with delay := none }
  awaitReply

/-- One statement and what follows it when pauses take no time. -/
def unbrokenCycle : Action Progress := cycleWith unbrokenBoundary

/-- A machine between two statements of a run that goes on. -/
structure Underway (m : Machine) : Prop where
  phase : m.phase = .running
  jumped : m.jumped = false
  halted : m.halted = false
  waiting : m.waiting = false
  delay : m.delay = none
  timer : m.timer = none

/-- Two machines that differ in their timers only, none of which belongs to the run. -/
structure Retimed (t u : Timers) (m m' : Machine) : Prop where
  timers : m.timers = t
  same : m' = { m with timers := u }
  timer : m.timer = none

theorem retimed_trace {t u : Timers} (level : Int) (message : String) :
    Simulates (Retimed t u) (trace level message) (trace level message) := by
  refine simulates_trace ?_ ?_ ?_ level message
  · rintro m m' ⟨rfl, rfl, h⟩; rfl
  · rintro m m' ⟨rfl, rfl, h⟩; rfl
  · rintro m m' r ⟨rfl, rfl, h⟩; exact ⟨rfl, rfl, h⟩

theorem retimed_finish {t u : Timers} (fault : Option Fault) :
    Simulates (Retimed t u) (finish fault) (finish fault) := by
  refine simulates_finish retimed_trace ?_ ?_ ?_ ?_ ?_ fault
  · rintro m m' ⟨rfl, rfl, h⟩; rfl
  · rintro m m' ⟨rfl, rfl, h⟩; rfl
  · rintro m m' ⟨rfl, rfl, h⟩; rfl
  · rintro m m' ⟨rfl, rfl, h⟩
    rw [cancelTimer_none h, cancelTimer_none (m := { m with timers := u }) h]
    exact ⟨rfl, rfl, h⟩
  · rintro m m' c ⟨rfl, rfl, h⟩; exact ⟨rfl, rfl, h⟩

/-- Statements take no notice of the timers. -/
theorem retimed_performFrame (t u : Timers) : PerformFrame (Retimed t u) where
  constants := by rintro m m' ⟨rfl, rfl, h⟩; rfl
  functions := by rintro m m' ⟨rfl, rfl, h⟩; rfl
  heap := by rintro m m' ⟨rfl, rfl, h⟩; rfl
  vars := by rintro m m' ⟨rfl, rfl, h⟩; rfl
  display := by rintro m m' ⟨rfl, rfl, h⟩; rfl
  dice := by rintro m m' ⟨rfl, rfl, h⟩; rfl
  setDisplay := by rintro m m' d ⟨rfl, rfl, h⟩; exact ⟨rfl, rfl, h⟩
  setDice := by rintro m m' d ⟨rfl, rfl, h⟩; exact ⟨rfl, rfl, h⟩
  push := by rintro m m' r ⟨rfl, rfl, h⟩; exact ⟨rfl, rfl, h⟩
  stop := by
    intro m m' name _ _
    refine simulates_stop (retimed_finish none) ?_ ?_
    · rintro m m' ⟨rfl, rfl, h⟩; rfl
    · rintro m m' ⟨rfl, rfl, h⟩; exact ⟨rfl, rfl, h⟩
  cursor := by rintro m m' ⟨rfl, rfl, h⟩; rfl
  program := by rintro m m' ⟨rfl, rfl, h⟩; rfl
  loops := by rintro m m' ⟨rfl, rfl, h⟩; rfl
  stack := by rintro m m' ⟨rfl, rfl, h⟩; rfl
  setVars := by rintro m m' v ⟨rfl, rfl, h⟩; exact ⟨rfl, rfl, h⟩
  setHeap := by rintro m m' v ⟨rfl, rfl, h⟩; exact ⟨rfl, rfl, h⟩
  setLoops := by rintro m m' l ⟨rfl, rfl, h⟩; exact ⟨rfl, rfl, h⟩
  setStack := by rintro m m' s ⟨rfl, rfl, h⟩; exact ⟨rfl, rfl, h⟩
  jump := by rintro m m' l ⟨rfl, rfl, h⟩; exact ⟨rfl, rfl, h⟩
  halt := by rintro m m' ⟨rfl, rfl, h⟩; exact ⟨rfl, rfl, h⟩
  write := by rintro m m' text ⟨rfl, rfl, h⟩; exact ⟨rfl, rfl, h⟩
  clear := by rintro m m' ⟨rfl, rfl, h⟩; exact ⟨rfl, rfl, h⟩
  trace := retimed_trace
  finish := retimed_finish

theorem retimed_step {t u : Timers} : Simulates (Retimed t u) step step := by
  have F := retimed_performFrame t u
  refine F.step (fun v => ?_) (fun name => ?_)
  · refine simulates_pauseFor F.heap F.trace ?_ v
    rintro m m' d ⟨rfl, rfl, h⟩
    exact ⟨rfl, rfl, h⟩
  · refine F.ask ?_ ?_ ?_ ?_ name
    · rintro m m' ⟨rfl, rfl, h⟩; rfl
    · rintro m m' b ⟨rfl, rfl, h⟩; exact ⟨rfl, rfl, h⟩
    · rintro m m' ⟨rfl, rfl, h⟩; rfl
    · rintro m m' c ⟨rfl, rfl, h⟩; exact ⟨rfl, rfl, h⟩

theorem retimed_advance {t u : Timers} : Simulates (Retimed t u) advance advance := by
  refine simulates_bind retimed_step fun _ => (retimed_performFrame t u).moveOn ?_ ?_ ?_ ?_
  · rintro m m' ⟨rfl, rfl, h⟩; rfl
  · rintro m m' ⟨rfl, rfl, h⟩; rfl
  · rintro m m' ⟨rfl, rfl, h⟩; exact ⟨rfl, rfl, h⟩
  · rintro m m' n ⟨rfl, rfl, h⟩; exact ⟨rfl, rfl, h⟩

theorem retimed_unbrokenBoundary {t u : Timers} :
    Simulates (Retimed t u) unbrokenBoundary unbrokenBoundary := by
  refine simulates_get ?_
  rintro m _ ⟨rfl, rfl, h⟩
  dsimp only
  split
  · exact simulates_bind (retimed_finish none) fun _ => simulates_pure _
  · refine simulates_bind (simulates_set ⟨rfl, rfl, h⟩) fun _ => simulates_get ?_
    rintro m₁ _ ⟨-, rfl, h₁⟩
    dsimp only
    split
    · refine simulates_bind (simulates_modify ?_) fun _ => simulates_pure _
      rintro m₂ _ ⟨htimers, rfl, h₂⟩
      exact ⟨htimers, rfl, h₂⟩
    · exact simulates_pure _

/-- What a run does when pauses take no time is the same whatever the timers are. -/
theorem run_unbrokenCycle_timers {m : Machine} (h : m.timer = none) (t : Timers) :
    unbrokenCycle.run.run { m with timers := t } =
      ((unbrokenCycle.run.run m).1, { (unbrokenCycle.run.run m).2 with timers := t }) := by
  have hcycle : Simulates (Retimed m.timers t) unbrokenCycle unbrokenCycle := by
    refine simulates_bind retimed_advance fun progress => ?_
    cases progress with
    | goesOn => exact retimed_unbrokenBoundary
    | stops => exact simulates_pure _
  obtain ⟨hres, hrel⟩ := hcycle ⟨rfl, rfl, h⟩
  exact Prod.ext hres.symm hrel.same

/-- Where there is no delay to speak of, the real boundary is the unbroken one. -/
theorem run_boundary_of_quiet {m : Machine}
    (h : m.delay = none ∨ m.delay = some (.int 0) ∨ m.halted = true) :
    boundary.run.run m = unbrokenBoundary.run.run m := by
  unfold boundary unbrokenBoundary
  rw [run_bind, run_bind, run_get]
  dsimp only
  split
  · rfl
  · next hhalted =>
    rcases h with hdelay | hdelay | h
    · rw [hdelay]
    · rw [hdelay]
      rfl
    · exact absurd h hhalted

/-- A run that is not suspended, has no timer and asks for no pause. -/
structure Undelayed (m : Machine) : Prop where
  phase : m.phase = .running ∨ m.phase = .ended
  timer : m.timer = none
  delay : m.delay = none

theorem unaffected_undelayed : Unaffected Undelayed where
  display _ _ h := ⟨h.phase, h.timer, h.delay⟩
  dice _ _ h := ⟨h.phase, h.timer, h.delay⟩
  log _ _ h := ⟨h.phase, h.timer, h.delay⟩
  vars _ _ h := ⟨h.phase, h.timer, h.delay⟩
  heap _ _ h := ⟨h.phase, h.timer, h.delay⟩
  loops _ _ h := ⟨h.phase, h.timer, h.delay⟩
  stack _ _ h := ⟨h.phase, h.timer, h.delay⟩
  jump _ _ h := ⟨h.phase, h.timer, h.delay⟩
  halt _ h := ⟨h.phase, h.timer, h.delay⟩
  write _ _ h := ⟨h.phase, h.timer, h.delay⟩
  clear _ h := ⟨h.phase, h.timer, h.delay⟩
  ending m h := by
    rw [cancelTimer_none h.timer]
    exact ⟨.inr rfl, h.timer, h.delay⟩
  completion _ _ h := ⟨h.phase, h.timer, h.delay⟩

theorem undelayed_ask (name : String) :
    Simulates (Below Undelayed) (ask name) (ask name) :=
  unaffected_undelayed.ask (fun _ _ h => ⟨h.phase, h.timer, h.delay⟩)
    (fun _ _ h => ⟨h.phase, h.timer, h.delay⟩) name

theorem Evaluated.undelayed {m₀ m : Machine} (h : Evaluated m₀ m) (h₀ : Undelayed m₀) :
    Undelayed m := by
  obtain ⟨display, dice, log, halted, rfl, -⟩ := h
  exact ⟨h₀.phase, h₀.timer, h₀.delay⟩

theorem Underway.undelayed {m : Machine} (h : Underway m) : Undelayed m :=
  ⟨.inl h.phase, h.timer, h.delay⟩

/-- A pause that succeeds has been evaluated, and then sets the delay. -/
theorem run_pauseFor_ok {v : Value} {m m₁ : Machine} (h : (pauseFor v).run.run m = (.ok (), m₁)) :
    ∃ positive log, v.greater (.int 0) = .ok positive ∧
      m₁ = { m with log := log, delay := some (if positive then v else .int 0) } := by
  unfold pauseFor at h
  rw [run_bind, run_get] at h
  dsimp only at h
  rw [run_bind, run_liftM] at h
  cases htext : m.heap.plainText v with
  | error e =>
      rw [htext] at h
      cases h
  | ok text =>
      obtain ⟨log, hlog⟩ := run_trace 1 ("pause " ++ text) m
      rw [htext] at h
      dsimp only at h
      rw [run_bind, hlog] at h
      dsimp only at h
      rw [run_bind, run_liftM] at h
      cases hpositive : v.greater (.int 0) with
      | error e =>
          rw [hpositive] at h
          cases h
      | ok positive =>
          rw [hpositive] at h
          cases h
          exact ⟨positive, log, rfl, rfl⟩

/-- A `PAUSE` that succeeds is a whole step. It evaluates its value and sets the delay. -/
theorem pauseHere_some {m m₁ : Machine} (hphase : m.phase = .running) {v : Value}
    (h : pauseHere.run.run m = (.ok (some v), m₁)) :
    ∃ m₀ positive, Evaluated m m₀ ∧ v.greater (.int 0) = .ok positive ∧
      m₁ = { m₀ with delay := some (if positive then v else .int 0) } ∧
      step.run.run m = (.ok .quiet, m₁) := by
  have hcommand := commandHere_evaluated hphase
  unfold pauseHere at h
  rw [run_bind] at h
  rcases hc : commandHere.run.run m with ⟨_ | c, m₂⟩
  · rw [hc] at h
    cases h
  · rw [hc] at h hcommand
    dsimp only at h
    split at h
    next millis =>
      have hvalue := hcommand.evaluate hphase millis
      rw [run_bind] at h
      rcases he : (evaluate millis).run.run m₂ with ⟨_ | w, m₃⟩
      · rw [he] at h
        cases h
      · rw [he] at h hvalue
        dsimp only at h
        rw [run_bind] at h
        rcases hp : (pauseFor w).run.run m₃ with ⟨_ | _, m₄⟩
        · rw [hp] at h
          cases h
        · rw [hp] at h
          cases h
          obtain ⟨positive, log, hpositive, rfl⟩ := run_pauseFor_ok hp
          refine ⟨{ m₃ with log := log }, positive, hvalue.log log, hpositive, rfl, ?_⟩
          cases hline : m.program.find? m.cursor with
          | none =>
              unfold commandHere at hc
              rw [run_bind, run_get] at hc
              simp only [hline] at hc
              cases hc
          | some line =>
              rw [run_step hline, run_bind, hc]
              simp only [performChosen, performCommand, run_bind, he, hp, run_pure]
    next => cases h

/-- Any other step leaves the delay alone, unless it ends the run. -/
theorem step_undelayed {m m₁ : Machine} {reaction : Reaction} (h : Underway m)
    (hpause : ∀ v m₂, pauseHere.run.run m ≠ (.ok (some v), m₂))
    (hstep : step.run.run m = (.ok reaction, m₁)) (hphase : m₁.phase ≠ .ended) :
    Undelayed m₁ := by
  obtain ⟨c, m₀, hc, hp⟩ := step_ok hstep hphase
  have hcommand := (commandHere_evaluated h.phase).undelayed h.undelayed
  rw [hc] at hcommand
  have hnot : ∀ f, c ≠ some (.pause f) := by
    rintro f rfl
    simp only [performChosen, performCommand, run_bind] at hp
    rcases he : (evaluate f).run.run m₀ with ⟨_ | v, m₂⟩
    · rw [he] at hp
      cases hp
    · rw [he] at hp
      dsimp only at hp
      rcases hv : (pauseFor v).run.run m₂ with ⟨_ | _, m₃⟩
      · rw [hv] at hp
        cases hp
      · refine hpause v m₃ ?_
        simp only [pauseHere, run_bind, hc, he, hv, run_pure]
  have hkeeps := unaffected_undelayed.performChosen (fun f hc => absurd hc (hnot f))
    (fun _ name _ => undelayed_ask name) hcommand
  rw [hp] at hkeeps
  exact hkeeps

/-- How the half of a cycle before its boundary goes on: the step has succeeded, and the run is
landed on the line it jumped to or moved to the next one. -/
theorem advance_goesOn {m m₁ : Machine} (h : advance.run.run m = (.ok .goesOn, m₁)) :
    ∃ reaction m₂, step.run.run m = (.ok reaction, m₂) ∧ m₂.phase ≠ .ended ∧
      (m₂.jumped = true ∧ m₁ = { m₂ with jumped := false } ∨
        m₂.jumped = false ∧ ∃ line, m₂.program.next? m₂.cursor = some line ∧
          m₁ = { m₂ with cursor := (line.number : Int) }) := by
  unfold advance moveOn at h
  rw [run_bind] at h
  rcases hs : step.run.run m with ⟨_ | reaction, m₂⟩
  · rw [hs] at h
    cases h
  · rw [hs] at h
    dsimp only at h
    rw [run_bind, run_get] at h
    dsimp only at h
    split at h
    · cases h
    · next hended =>
      refine ⟨reaction, m₂, rfl, hended, ?_⟩
      split at h
      · next hjumped =>
        cases h
        exact .inl ⟨hjumped, rfl⟩
      · next hjumped =>
        refine .inr ⟨by simpa using hjumped, ?_⟩
        split at h
        · exact absurd h (finish_then_ne nofun)
        · next line hline =>
          cases h
          exact ⟨line, hline, rfl⟩

theorem unaffected_phase (phase : Phase) :
    Unaffected fun m => m.phase = phase ∨ m.phase = .ended where
  display _ _ h := h
  dice _ _ h := h
  log _ _ h := h
  vars _ _ h := h
  heap _ _ h := h
  loops _ _ h := h
  stack _ _ h := h
  jump _ _ h := h
  halt _ h := h
  write _ _ h := h
  clear _ h := h
  ending _ _ := .inr rfl
  completion _ _ h := h

/-- A statement and the move on from it leave the phase alone, unless they end the run. -/
theorem advance_phase (m : Machine) :
    (advance.run.run m).2.phase = m.phase ∨ (advance.run.run m).2.phase = .ended := by
  have U := unaffected_phase m.phase
  have hstep := U.performFrame.step (U.pauseFor fun _ _ h => h)
    (U.ask (fun _ _ h => h) fun _ _ h => h)
  have hmove := U.performFrame.moveOn (by rintro m _ ⟨rfl, h⟩; rfl) (by rintro m _ ⟨rfl, h⟩; rfl)
    (fun _ _ h => ⟨by rw [h.1], h.2⟩) (fun _ _ _ h => ⟨by rw [h.1], h.2⟩)
  exact (simulates_bind hstep fun _ => hmove).keeps (.inl rfl)

theorem advance_goesOn_phase {m m₁ : Machine} (h : advance.run.run m = (.ok .goesOn, m₁)) :
    m₁.phase = m.phase := by
  obtain ⟨reaction, m₂, -, hended, hmove⟩ := advance_goesOn h
  have hphase := advance_phase m
  rw [h] at hphase
  rcases hmove with ⟨-, rfl⟩ | ⟨-, line, -, rfl⟩
  · exact hphase.resolve_right hended
  · exact hphase.resolve_right hended

/-- Where no pause is due, a run that goes on has no delay to speak of, or is to end. -/
theorem advance_of_not_due {m m₁ : Machine} (h : Underway m) (hdue : duePause? m = none)
    (hadvance : advance.run.run m = (.ok .goesOn, m₁)) :
    m₁.delay = none ∨ m₁.delay = some (.int 0) ∨ m₁.halted = true := by
  obtain ⟨reaction, m₂, hstep, hphase, hmove⟩ := advance_goesOn hadvance
  by_cases hpause : ∃ v m₃, pauseHere.run.run m = (.ok (some v), m₃)
  · obtain ⟨v, m₃, hv⟩ := hpause
    obtain ⟨m₀, positive, heval, hpositive, rfl, hquiet⟩ := pauseHere_some h.phase hv
    rw [hquiet] at hstep
    cases hstep
    obtain ⟨display, dice, log, halted, rfl, -⟩ := heval
    unfold duePause? at hdue
    rw [hv] at hdue
    rcases hmove with ⟨hjumped, -⟩ | ⟨-, line, hline, rfl⟩
    · rw [h.jumped] at hjumped
      cases hjumped
    · cases positive with
      | false => exact .inr (.inl rfl)
      | true =>
          dsimp only at hdue hline ⊢
          have hgreater : isPositive v = true := by
            unfold isPositive
            rw [hpositive]
          rw [hline, hgreater] at hdue
          cases halted with
          | true => exact .inr (.inr rfl)
          | false => simp at hdue
  · have hdelay := step_undelayed h (fun v m₃ hv => hpause ⟨v, m₃, hv⟩) hstep hphase
    rcases hmove with ⟨-, rfl⟩ | ⟨-, line, -, rfl⟩
    · exact .inl hdelay.delay
    · exact .inl hdelay.delay

/-- A run that goes on still runs, has no timer, and has made its jump. -/
theorem advance_running {m m₁ : Machine} (h : Underway m)
    (hadvance : advance.run.run m = (.ok .goesOn, m₁)) :
    m₁.phase = .running ∧ m₁.timer = none ∧ m₁.jumped = false := by
  obtain ⟨reaction, m₂, hstep, hphase, hmove⟩ := advance_goesOn hadvance
  have hrunning : m₂.phase = .running ∧ m₂.timer = none := by
    by_cases hpause : ∃ v m₃, pauseHere.run.run m = (.ok (some v), m₃)
    · obtain ⟨v, m₃, hv⟩ := hpause
      obtain ⟨m₀, positive, heval, -, rfl, hquiet⟩ := pauseHere_some h.phase hv
      rw [hquiet] at hstep
      cases hstep
      obtain ⟨display, dice, log, halted, rfl, -⟩ := heval
      exact ⟨h.phase, h.timer⟩
    · have hdelay := step_undelayed h (fun v m₃ hv => hpause ⟨v, m₃, hv⟩) hstep hphase
      exact ⟨hdelay.phase.resolve_right hphase, hdelay.timer⟩
  rcases hmove with ⟨-, rfl⟩ | ⟨hjumped, line, -, rfl⟩
  · exact ⟨hrunning.1, hrunning.2, rfl⟩
  · exact ⟨hrunning.1, hrunning.2, hjumped⟩

theorem run_unbrokenBoundary_goesOn {m m₁ : Machine}
    (h : unbrokenBoundary.run.run m = (.ok .goesOn, m₁)) :
    m.halted = false ∧ m.waiting = false ∧ m₁ = { m with delay := none } := by
  unfold unbrokenBoundary at h
  rw [run_bind, run_get] at h
  dsimp only at h
  split at h
  · exact absurd h (finish_then_ne nofun)
  · next hhalted =>
    rw [run_bind, run_set] at h
    dsimp only at h
    unfold awaitReply at h
    rw [run_bind, run_get] at h
    dsimp only at h
    split at h
    · cases h
    · next hwaiting =>
      cases h
      exact ⟨by simpa using hhalted, by simpa using hwaiting, rfl⟩

theorem run_unbrokenBoundary_stops {m m₁ : Machine}
    (h : unbrokenBoundary.run.run m = (.ok .stops, m₁)) :
    m₁.phase = .ended ∨ m₁.phase = .waiting := by
  unfold unbrokenBoundary at h
  rw [run_bind, run_get] at h
  dsimp only at h
  split at h
  · exact .inl (finish_then_phase h)
  · rw [run_bind, run_set] at h
    dsimp only at h
    unfold awaitReply at h
    rw [run_bind, run_get] at h
    dsimp only at h
    split at h
    · cases h
      exact .inr rfl
    · cases h

theorem run_cycleWith (boundary : Action Progress) (m : Machine) :
    (cycleWith boundary).run.run m =
      match advance.run.run m with
      | (.ok .goesOn, m₁) => boundary.run.run m₁
      | (.ok .stops, m₁) => (.ok .stops, m₁)
      | (.error fault, m₁) => (.error fault, m₁) := by
  unfold cycleWith
  rw [run_bind]
  rcases advance.run.run m with ⟨_ | p, m₁⟩
  · rfl
  · cases p <;> rfl

theorem advance_stops {m m₁ : Machine} (h : advance.run.run m = (.ok .stops, m₁)) :
    m₁.phase = .ended := by
  unfold advance moveOn at h
  rw [run_bind] at h
  rcases hs : step.run.run m with ⟨_ | reaction, m₂⟩
  · rw [hs] at h
    cases h
  · rw [hs] at h
    dsimp only at h
    rw [run_bind, run_get] at h
    dsimp only at h
    split at h
    · next hended =>
      cases h
      exact hended
    · split at h
      · cases h
      · split at h
        · exact finish_then_phase h
        · cases h

/-- Between two statements of an unbroken run the machine is under way again. -/
theorem Underway.unbrokenCycle {m m₁ : Machine} (h : Underway m)
    (hcycle : unbrokenCycle.run.run m = (.ok .goesOn, m₁)) : Underway m₁ := by
  unfold Machine.unbrokenCycle at hcycle
  rw [run_cycleWith] at hcycle
  split at hcycle
  · next m₂ hadvance =>
    obtain ⟨hphase, htimer, hjumped⟩ := advance_running h hadvance
    obtain ⟨hhalted, hwaiting, rfl⟩ := run_unbrokenBoundary_goesOn hcycle
    exact ⟨hphase, hjumped, hhalted, hwaiting, rfl, htimer⟩
  · cases hcycle
  · cases hcycle

/-- An unbroken run stops because it has ended or waits for a reply. -/
theorem run_unbrokenCycle_stops {m m₁ : Machine}
    (hcycle : unbrokenCycle.run.run m = (.ok .stops, m₁)) :
    m₁.phase = .ended ∨ m₁.phase = .waiting := by
  unfold unbrokenCycle at hcycle
  rw [run_cycleWith] at hcycle
  split at hcycle
  · exact run_unbrokenBoundary_stops hcycle
  · next m₂ hadvance =>
    cases hcycle
    exact .inl (advance_stops hadvance)
  · cases hcycle

/-- Where no pause is due, the real cycle is the unbroken one. -/
theorem run_cycle_of_not_due {m : Machine} (h : Underway m) (hdue : duePause? m = none)
    (t : Timers) :
    cycle.run.run { m with timers := t } =
      ((unbrokenCycle.run.run m).1, { (unbrokenCycle.run.run m).2 with timers := t }) := by
  rw [← run_unbrokenCycle_timers h.timer t, cycle_eq_cycleWith, unbrokenCycle, run_cycleWith,
    run_cycleWith]
  obtain ⟨hres, hrel⟩ := retimed_advance (u := t) ⟨rfl, rfl, h.timer⟩
  rcases hm : advance.run.run m with ⟨x, m₁⟩
  rcases ht : advance.run.run { m with timers := t } with ⟨y, m₁'⟩
  rw [hm, ht] at hres hrel
  cases hres
  obtain ⟨-, rfl, -⟩ := hrel
  rcases x with e | p
  · rfl
  · cases p with
    | stops => rfl
    | goesOn =>
        have hquiet := advance_of_not_due h hdue hm
        exact run_boundary_of_quiet hquiet

/-- Where a pause is due, the run is moved past it and asks for its delay. -/
theorem advance_of_due {m : Machine} (h : Underway m) {v : Value} (hdue : duePause? m = some v) :
    ∃ m₁, advance.run.run m = (.ok .goesOn, m₁) ∧ m₁.delay = some v ∧
      v.greater (.int 0) = .ok true ∧ Underway { m₁ with delay := none } := by
  rcases hw : pauseHere.run.run m with ⟨_ | _ | w, m₂⟩
  · simp only [duePause?, hw] at hdue
    cases hdue
  · simp only [duePause?, hw] at hdue
    cases hdue
  · simp only [duePause?, hw] at hdue
    obtain ⟨hcondition, hvalue⟩ := Option.ite_none_right_eq_some.mp hdue
    cases hvalue
    obtain ⟨hgreater, hnext, hhalted⟩ := hcondition
    obtain ⟨line, hline⟩ := Option.isSome_iff_exists.mp hnext
    obtain ⟨m₀, positive, heval, hpositive, rfl, hstep⟩ := pauseHere_some h.phase hw
    obtain ⟨display, dice, log, halted, rfl, -⟩ := heval
    unfold isPositive at hgreater
    rw [hpositive] at hgreater
    cases hgreater
    cases hhalted
    have hended : ¬ m.phase = .ended := by rw [h.phase]; decide
    have hjumped : ¬ m.jumped = true := by rw [h.jumped]; decide
    refine ⟨{ m with display := display, dice := dice, log := log, halted := false,
                     delay := some v, cursor := (line.number : Int) }, ?_, rfl, hpositive,
      ⟨h.phase, h.jumped, rfl, h.waiting, rfl, h.timer⟩⟩
    unfold advance moveOn
    rw [run_bind, hstep]
    dsimp only
    rw [run_bind, run_get]
    dsimp only
    rw [if_neg hended, if_neg hjumped, hline]
    rfl

theorem run_unbrokenBoundary {m : Machine} (h : Underway { m with delay := none }) :
    unbrokenBoundary.run.run m = (.ok .goesOn, { m with delay := none }) := by
  have hhalted : ¬ m.halted = true := by simpa using h.halted
  have hwaiting : ¬ m.waiting = true := by simpa using h.waiting
  unfold unbrokenBoundary
  rw [run_bind, run_get]
  dsimp only
  rw [if_neg hhalted, run_bind, run_set]
  dsimp only
  unfold awaitReply
  rw [run_bind, run_get]
  dsimp only
  rw [if_neg hwaiting]
  rfl

theorem run_boundary_of_delay {m : Machine} (hhalted : m.halted = false) {v : Value}
    (hdelay : m.delay = some v) (hv : m.heap.isTrue v = true) :
    boundary.run.run m = (suspend v).run.run { m with delay := none } := by
  have hgoes : ¬ m.halted = true := by simpa using hhalted
  unfold boundary
  rw [run_bind, run_get]
  dsimp only
  rw [if_neg hgoes, run_bind, run_set, hdelay]
  dsimp only
  rw [if_pos hv]

def pausedFor (s : Float) (m : Machine) : Machine :=
  { m with phase := .paused, timers := (m.timers.set s).2, timer := some (m.timers.set s).1 }

theorem run_suspend {v : Value} {s : Float} (hs : seconds v = .ok s) (m : Machine) :
    (suspend v).run.run m = (.ok .stops, pausedFor s m) := by
  unfold suspend
  rw [run_bind, run_modify]
  dsimp only
  rw [run_bind, run_liftM, hs]
  rfl

theorem run_suspend_error {v : Value} {e : Fault} (hs : seconds v = .error e) (m : Machine) :
    (suspend v).run.run m = (.error e, { m with phase := .paused }) := by
  unfold suspend
  rw [run_bind, run_modify]
  dsimp only
  rw [run_bind, run_liftM, hs]

/-- Where a pause is due, the unbroken cycle goes on and the real one suspends the run there. -/
theorem run_cycle_of_due {m : Machine} (h : Underway m) {v : Value} (hdue : duePause? m = some v) :
    ∃ m₁, unbrokenCycle.run.run m = (.ok .goesOn, m₁) ∧
      ∀ t : Timers, cycle.run.run { m with timers := t } =
        (suspend v).run.run { m₁ with timers := t } := by
  obtain ⟨m₁, hadvance, hdelay, hpositive, hunderway⟩ := advance_of_due h hdue
  refine ⟨{ m₁ with delay := none }, ?_, ?_⟩
  · rw [unbrokenCycle, run_cycleWith, hadvance]
    exact run_unbrokenBoundary hunderway
  · intro t
    obtain ⟨hres, hrel⟩ := retimed_advance (u := t) ⟨rfl, rfl, h.timer⟩
    rcases ht : advance.run.run { m with timers := t } with ⟨y, m₁'⟩
    rw [hadvance, ht] at hres hrel
    cases hres
    obtain ⟨-, rfl, -⟩ := hrel
    rw [cycle_eq_cycleWith, run_cycleWith, ht]
    have htrue := m₁.heap.isTrue_of_positive hpositive
    exact run_boundary_of_delay (m := { m₁ with timers := t }) hunderway.halted hdelay htrue

end Machine

end LineBasic

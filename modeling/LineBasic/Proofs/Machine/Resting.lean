import LineBasic.Proofs.Machine.Driving
import LineBasic.Proofs.Machine.Timing

/-!
# Machines at rest

Whatever a machine is asked, at most one of its timers is live, and only while the machine is
paused. This holds also where a pause cannot be told in seconds: the machine is then left paused
without a timer, and no timer of that run or a former one will wake it. So a machine that is not in
the middle of a run has no live timer left.
-/

namespace LineBasic

namespace Machine

variable {m : Machine}

/-- No timer is live and none is held. -/
structure Calm (m : Machine) : Prop where
  live : m.timers.live = []
  timer : m.timer = none

/-- Between requests a machine is calm, or paused until its only live timer fires. -/
def Resting (m : Machine) : Prop :=
  Calm m ∨ m.phase = .paused ∧ ∃ timer, m.timers.live = [timer] ∧ m.timer = some timer.id

theorem Resting.calm (h : Resting m) (hphase : m.phase ≠ .paused) : Calm m :=
  h.resolve_right fun hpaused => hphase hpaused.1

theorem unaffected_calm : Unaffected Calm where
  display _ _ h := ⟨h.live, h.timer⟩
  dice _ _ h := ⟨h.live, h.timer⟩
  log _ _ h := ⟨h.live, h.timer⟩
  vars _ _ h := ⟨h.live, h.timer⟩
  heap _ _ h := ⟨h.live, h.timer⟩
  loops _ _ h := ⟨h.live, h.timer⟩
  stack _ _ h := ⟨h.live, h.timer⟩
  jump _ _ h := ⟨h.live, h.timer⟩
  halt _ h := ⟨h.live, h.timer⟩
  write _ _ h := ⟨h.live, h.timer⟩
  clear _ h := ⟨h.live, h.timer⟩
  ending m h := by
    rw [cancelTimer_none h.timer]
    exact ⟨h.live, h.timer⟩
  completion _ _ h := ⟨h.live, h.timer⟩

/-- Ending a run cancels the timer that it holds. -/
theorem Resting.finish (h : Resting m) (fault : Option Fault) :
    Calm ((finish fault).run.run m).2 := by
  have hconclude : Simulates (Below Calm) (conclude fault) (conclude fault) := by
    refine simulates_conclude unaffected_calm.trace ?_ ?_ ?_ fault
    · rintro m _ ⟨rfl, h⟩; rfl
    · rintro m _ ⟨rfl, h⟩; rfl
    · rintro m _ c ⟨rfl, h⟩; exact ⟨rfl, h.live, h.timer⟩
  have hcancelled : Calm { cancelTimer m with phase := .ended } := by
    rcases h with hcalm | ⟨-, timer, hlive, htimer⟩
    · exact unaffected_calm.ending hcalm
    · rw [cancelTimer_some htimer]
      refine ⟨?_, rfl⟩
      simp [Timers.live_cancel, hlive]
  rw [finish_eq, run_bind, run_get]
  dsimp only
  split
  · next hended => exact h.calm (by simp [hended])
  · rw [run_bind, run_modify]
    exact hconclude.keeps hcancelled

/-- What an action that may let a run go on comes to: a machine at rest, or a calm one before the
next statement. -/
abbrev Quiets (x : Except Fault Progress × Machine) : Prop :=
  Matched (Below Calm) (Below Resting) (fun _ => True) x x

theorem quiets_of_calm {x : Except Fault Progress × Machine} (h : Calm x.2) : Quiets x :=
  matched_below (fun _ => h) (fun _ => .inl h) fun _ _ => ⟨trivial, .inl h⟩

theorem quiets_finish (h : Resting m) (fault : Option Fault) :
    Quiets ((do finish fault; return .stops : Action Progress).run.run m) :=
  matched_finish (.inl (h.finish fault)) fun _ _ => trivial

/-! ## Cycles -/

/-- A pause sets a timer, or leaves the machine paused without one. -/
theorem quiets_suspend (h : Calm m) (millis : Value) :
    Quiets ((suspend millis).run.run m) := by
  unfold suspend
  rw [run_bind, run_modify]
  dsimp only
  rw [run_bind, run_liftM]
  cases seconds millis with
  | error e => exact .error trivial ⟨rfl, .inl ⟨h.live, h.timer⟩⟩
  | ok delay =>
      refine .stops ⟨rfl, .inr ⟨rfl, { id := m.timers.asked.length, delay := delay }, ?_, rfl⟩⟩
      rw [Timers.live_set, h.live]
      rfl

theorem quiets_awaitReply (h : Calm m) : Quiets (awaitReply.run.run m) := by
  unfold awaitReply
  rw [run_bind, run_get]
  dsimp only
  split
  · exact .stops ⟨rfl, .inl ⟨h.live, h.timer⟩⟩
  · exact .goesOn ⟨rfl, h⟩

theorem quiets_boundary (h : Calm m) : Quiets (boundary.run.run m) := by
  have hset : Calm { m with delay := none } := ⟨h.live, h.timer⟩
  unfold boundary
  rw [run_bind, run_get]
  dsimp only
  split
  · exact quiets_finish (.inl h) none
  · rw [run_bind, run_set]
    dsimp only
    split
    · split
      · exact quiets_suspend hset _
      · exact quiets_awaitReply hset
    · exact quiets_awaitReply hset

theorem quiets_cycle (h : Calm m) : Quiets (cycle.run.run m) := by
  have U := unaffected_calm
  have F := U.performFrame
  have hstep : Calm (step.run.run m).2 :=
    (F.step (U.pauseFor fun _ _ h => ⟨h.live, h.timer⟩)
      (U.ask (fun _ _ h => ⟨h.live, h.timer⟩) fun _ _ h => ⟨h.live, h.timer⟩)).keeps h
  have hmove : Simulates (Below Calm) moveOn moveOn := by
    refine F.moveOn ?_ ?_ ?_ ?_
    · rintro m _ ⟨rfl, h⟩; rfl
    · rintro m _ ⟨rfl, h⟩; rfl
    · rintro m _ ⟨rfl, h⟩; exact ⟨rfl, h.live, h.timer⟩
    · rintro m _ n ⟨rfl, h⟩; exact ⟨rfl, h.live, h.timer⟩
  rw [cycle_eq_afterStep, run_bind]
  rcases hrun : step.run.run m with ⟨e | reaction, m₁⟩
  · rw [hrun] at hstep
    exact quiets_of_calm hstep
  · rw [hrun] at hstep
    have hmoved := hmove.keeps hstep
    dsimp only at hmoved ⊢
    rw [afterStep, run_bind]
    rcases hmoves : moveOn.run.run m₁ with ⟨e | progress, m₂⟩
    · rw [hmoves] at hmoved
      exact quiets_of_calm hmoved
    · rw [hmoves] at hmoved
      cases progress with
      | goesOn => exact quiets_boundary hmoved
      | stops => exact quiets_of_calm hmoved

/-! ## Requests -/

theorem quiets_goOn (h : Calm m) : Quiets (goOn.run.run m) := by
  unfold goOn
  rw [run_bind, run_get]
  dsimp only
  split
  · exact quiets_finish (.inl h) none
  · exact .goesOn ⟨rfl, h.live, h.timer⟩

/-- The timer that fires is the one that the machine holds. -/
theorem quiets_wake (h : Resting m) (hfires : m.timers.pop.1 = true) :
    Quiets (wake.run.run { m with timers := m.timers.pop.2 }) := by
  rcases h with hcalm | ⟨hphase, timer, hlive, -⟩
  · rw [Timers.pop_of_live hcalm.live] at hfires
    cases hfires
  · unfold wake
    rw [run_bind, run_modify]
    dsimp only
    rw [run_bind, run_get]
    dsimp only
    rw [if_pos hphase]
    exact quiets_goOn ⟨(Timers.pop_of_cons hlive).2, rfl⟩

theorem Resting.released (h : Resting m) (vars : Table String Value) :
    Resting { m with vars := vars, waiting := false } :=
  h.imp (fun hcalm => ⟨hcalm.live, hcalm.timer⟩) id

/-- Taking up the run if it waits for a reply. -/
theorem quiets_goOn_of_waiting (h : Resting m) :
    Quiets ((do if (← get).phase = .waiting then goOn else return .stops : Action Progress).run.run
      m) := by
  rw [run_bind, run_get]
  dsimp only
  split
  · next hphase => exact quiets_goOn (h.calm (by simp [hphase]))
  · exact .stops ⟨rfl, h⟩

theorem quiets_resume (h : Resting m) : Quiets (resume.run.run m) := by
  unfold resume
  rw [run_bind, run_get]
  dsimp only
  split
  · exact .stops ⟨rfl, h⟩
  · rw [run_bind, run_modify]
    exact quiets_goOn_of_waiting (h.released m.vars)

theorem quiets_feed (h : Resting m) (reply : Reply) : Quiets ((feed reply).run.run m) := by
  have hfed : Resting { m with console := (m.console.feed reply).2 } :=
    h.imp (fun hcalm => ⟨hcalm.live, hcalm.timer⟩) id
  rw [feed_eq, run_bind, run_get]
  dsimp only
  rw [run_bind, run_set]
  dsimp only
  cases (m.console.feed reply).1 with
  | none => exact .stops ⟨rfl, hfed⟩
  | some name =>
      dsimp only
      rw [run_bind, receive, run_bind, run_get]
      dsimp only
      by_cases hended : m.phase = .ended
      · rw [if_pos hended]
        exact .stops ⟨rfl, hfed⟩
      · rw [if_neg hended]
        cases replyValue name reply with
        | error fault =>
            have hcalm := hfed.finish (some fault)
            dsimp only
            rw [run_bind]
            rcases hrun : (finish (some fault)).run.run
              { m with console := (m.console.feed reply).2 } with ⟨e | _, m₁⟩
            · rw [hrun] at hcalm
              exact quiets_of_calm hcalm
            · rw [hrun] at hcalm
              exact quiets_of_calm hcalm
        | ok value =>
            have hstored := hfed.released (m.vars.insert name value)
            change Quiets ((react .replied).run.run _)
            unfold react
            simp only [true_and]
            exact quiets_goOn_of_waiting hstored

theorem quiets_start (h : Resting m) (source : String) : Quiets ((start source).run.run m) := by
  rw [start_eq, run_bind, run_get]
  dsimp only
  split
  · exact .error trivial ⟨rfl, h⟩
  · next hfree =>
    have hcalm := h.calm fun hphase => hfree (.inr (.inl hphase))
    have hreset (p : Program) : Calm { reset m with program := p } := ⟨hcalm.live, rfl⟩
    unfold launch
    rw [run_bind, run_modify]
    dsimp only
    cases Program.load source with
    | error fault =>
        dsimp only
        split
        · exact .error trivial ⟨rfl, .inl (hreset .empty)⟩
        · exact quiets_finish (.inl (hreset .empty)) (some fault)
    | ok p =>
        dsimp only
        rw [run_bind, run_modify]
        dsimp only
        cases p.first? with
        | none => exact quiets_finish (.inl (hreset p)) none
        | some line => exact .goesOn ⟨rfl, hcalm.live, rfl⟩

theorem resting_stop (h : Resting m) : Resting (stop.run.run m).2 := by
  have hhalted : Resting { m with halted := true } :=
    h.imp (fun hcalm => ⟨hcalm.live, hcalm.timer⟩) id
  unfold stop
  rw [run_bind, run_get]
  dsimp only
  split
  · exact h
  · rw [run_bind, halt, run_modify]
    dsimp only
    rw [run_bind, run_get]
    dsimp only
    split
    · exact .inl (hhalted.finish none)
    · exact hhalted

/-- Sessions keep machines at rest, whatever pauses they ask for. -/
theorem attuned_resting : Attuned (fun request => request.drives = true) (fun _ => True)
    (Below Calm) (Below Resting) (fun _ => True) where
  drives _ h := h
  cycle := by
    rintro m _ ⟨rfl, h⟩ -
    exact quiets_cycle h
  start := by
    rintro m _ source - ⟨rfl, h⟩
    exact quiets_start h source
  feed := by
    rintro m _ reply - ⟨rfl, h⟩
    exact quiets_feed h reply
  resume := by
    rintro m _ ⟨rfl, h⟩
    exact quiets_resume h
  fires := by
    rintro m _ ⟨rfl, h⟩
    rfl
  wake := by
    rintro m _ ⟨rfl, h⟩ hfires
    exact quiets_wake h hfires
  drain := by
    rintro m _ ⟨rfl, h⟩ hfires
    rcases h with hcalm | ⟨-, timer, hlive, -⟩
    · refine ⟨rfl, .inl ⟨?_, hcalm.timer⟩⟩
      simp [Timers.pop_of_live hcalm.live, Timers.live]
    · rw [(Timers.pop_of_cons hlive).1] at hfires
      cases hfires
  press := by
    rintro m _ key ⟨rfl, h⟩
    refine agrees_below ?_ fun _ _ => trivial
    unfold press
    rw [run_bind, run_get]
    dsimp only
    split
    · exact h.imp (fun hcalm => ⟨hcalm.live, hcalm.timer⟩) id
    · exact h
  stop := by
    rintro m _ ⟨rfl, h⟩
    exact agrees_below (resting_stop h) fun _ _ => trivial
  stopElsewhere := by
    rintro m _ ⟨rfl, h⟩
    refine agrees_below ?_ fun _ _ => trivial
    unfold stopElsewhere
    rw [run_bind, run_get]
    dsimp only
    split
    · exact h
    · exact h.imp (fun hcalm => ⟨hcalm.live, hcalm.timer⟩) id
  finish := by
    rintro m _ fault - ⟨rfl, h⟩
    exact agrees_below (.inl (h.finish fault)) fun _ _ => trivial

end Machine

end LineBasic

import LineBasic.Proofs.Machine.Completion

/-!
# Cycles of a run under way

What a cycle does after its statement, when the run is under way and nothing suspends it: it goes on
at the next line or at the target of a jump, and ends behind the last line or after a fault.

`Runs` is what a run comes to within so many cycles. It passes a machine when from some number of
cycles on it is followed from there.
-/

namespace LineBasic

namespace Machine

variable {m m₁ s : Machine}

namespace Underway

theorem not_ended (h : Underway m) : ¬ m.phase = .ended := by simp [h.phase]

theorem not_jumped (h : Underway m) : ¬ m.jumped = true := by simp [h.jumped]

theorem not_halted (h : Underway m) : ¬ m.halted = true := by simp [h.halted]

theorem not_waiting (h : Underway m) : ¬ m.waiting = true := by simp [h.waiting]

end Underway

theorem run_boundary_of_underway (h : Underway m) : boundary.run.run m = (.ok .goesOn, m) := by
  have hset : { m with delay := none } = m := by rw [← h.delay]
  unfold boundary
  rw [run_bind, run_get]
  dsimp only
  rw [if_neg h.not_halted, run_bind, run_set, hset, h.delay]
  dsimp only
  unfold awaitReply
  rw [run_bind, run_get]
  dsimp only
  rw [if_neg h.not_waiting]
  rfl

/-- A machine that has jumped from a statement is landed. -/
theorem run_moveOn_jumped (h : Underway m) (line : Int) :
    moveOn.run.run { m with cursor := line, jumped := true } =
      (.ok .goesOn, { m with cursor := line }) := by
  have hland : { m with cursor := line, jumped := false } = { m with cursor := line } := by
    rw [← h.jumped]
  unfold moveOn
  rw [run_bind, run_get]
  dsimp only
  rw [if_neg h.not_ended, if_pos rfl, ← hland]
  rfl

theorem run_moveOn_ended (h : m.phase = .ended) : moveOn.run.run m = (.ok .stops, m) := by
  unfold moveOn
  rw [run_bind, run_get]
  dsimp only
  rw [if_pos h]
  rfl

/-- Ending a run that is under way records how it came out. -/
theorem run_finish (h : Underway m) (hpending : m.completion = .pending) {fault : Option Fault}
    (hfault : ∀ e ∈ fault, e.Tellable) (hcursor : (Decimal.writeInt? m.cursor).isSome = true) :
    ∃ log, (finish fault).run.run m = (.ok (), { m with
      phase := .ended, completion := .done (m.outcome fault), log := log }) := by
  obtain ⟨log, hrun⟩ := run_finish_of_pending h.not_ended hpending hfault hcursor
  rw [cancelTimer_none h.timer] at hrun
  exact ⟨log, hrun⟩

theorem run_moveOn_last (h : Underway m) (hpending : m.completion = .pending)
    (hcursor : (Decimal.writeInt? m.cursor).isSome = true)
    (hnext : m.program.next? m.cursor = none) :
    ∃ log, moveOn.run.run m =
      (.ok .stops, { m with phase := .ended, completion := .done {}, log := log }) := by
  have hnone : ∀ e ∈ (none : Option Fault), e.Tellable := nofun
  obtain ⟨log, hfinish⟩ := run_finish h hpending hnone hcursor
  refine ⟨log, ?_⟩
  unfold moveOn
  rw [run_bind, run_get]
  dsimp only
  rw [if_neg h.not_ended, if_neg h.not_jumped, hnext]
  dsimp only
  rw [run_bind, hfinish]
  rfl

theorem run_cycle_goesOn {reaction : Reaction} (hstep : step.run.run m = (.ok reaction, m₁))
    (hmove : moveOn.run.run m₁ = (.ok .goesOn, s)) (h : Underway s) :
    cycle.run.run m = (.ok .goesOn, s) := by
  rw [cycle_eq_cycleWith, run_cycleWith, advance, run_bind, hstep]
  dsimp only
  rw [hmove]
  exact run_boundary_of_underway h

theorem run_cycle_stops {reaction : Reaction} (hstep : step.run.run m = (.ok reaction, m₁))
    (hmove : moveOn.run.run m₁ = (.ok .stops, s)) : cycle.run.run m = (.ok .stops, s) := by
  rw [cycle_eq_cycleWith, run_cycleWith, advance, run_bind, hstep]
  dsimp only
  rw [hmove]

/-- What a run comes to within so many cycles. -/
abbrev Runs := Nat → Option (Except Fault Unit × Machine)

variable {runs : Runs}

def Runs.Passes (runs : Runs) (m : Machine) : Prop := ∃ j, ∀ n, runs (n + j) = follow n m

def Runs.Ends (runs : Runs) (m : Machine) : Prop := ∃ n, runs n = some (.ok (), m)

theorem Runs.Passes.goesOn (h : runs.Passes m) (hcycle : cycle.run.run m = (.ok .goesOn, m₁)) :
    runs.Passes m₁ := by
  obtain ⟨j, hj⟩ := h
  refine ⟨j + 1, fun n => ?_⟩
  have hshift : n + (j + 1) = n + 1 + j := by omega
  rw [hshift, hj, follow_succ, hcycle]

theorem Runs.Passes.stops (h : runs.Passes m) (hcycle : cycle.run.run m = (.ok .stops, m₁)) :
    runs.Ends m₁ := by
  obtain ⟨j, hj⟩ := h
  refine ⟨1 + j, ?_⟩
  rw [hj, follow_succ, hcycle]

end Machine

end LineBasic

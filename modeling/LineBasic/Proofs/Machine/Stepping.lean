import LineBasic.Proofs.Machine.Cycling
import LineBasic.Proofs.Table

/-!
# The statement at the cursor

A step is split into the choice of a command and its performance. `commandHere` looks up the line at
the cursor and chooses the command that it comes down to; a step performs that command and turns a
fault in it into the end of the run.

Choosing a command, and evaluating any expression, changes little: `Evaluated` lists the display
with its keys, the dice, the log, and the request to stop, which can only come from a function that
makes it.
-/

namespace LineBasic

namespace Machine

variable {α : Type}

/-- No function of a machine that is not given its own stops it. -/
theorem defaultFunctions_unstopped (name : String) : defaultFunctions.get? name ≠ some .stop := by
  have hnone : ∀ entry ∈ defaultFunctions.entries, entry.2 ≠ .stop := by decide +kernel
  intro hget
  obtain ⟨key, hmem⟩ := Table.mem_of_findIn hget
  exact hnone _ hmem rfl

/-- What the evaluation of expressions makes of a machine that runs. -/
def Evaluated (m₀ m : Machine) : Prop :=
  ∃ display dice log halted,
    m = { m₀ with display := display, dice := dice, log := log, halted := halted } ∧
      (halted = m₀.halted ∨ ∃ name, m₀.functions.get? name = some .stop)

theorem Evaluated.refl (m : Machine) : Evaluated m m :=
  ⟨m.display, m.dice, m.log, m.halted, rfl, .inl rfl⟩

theorem Evaluated.trans {m₀ m₁ m₂ : Machine} (h : Evaluated m₀ m₁) (h' : Evaluated m₁ m₂) :
    Evaluated m₀ m₂ := by
  obtain ⟨display, dice, log, halted, rfl, hhalted⟩ := h
  obtain ⟨display', dice', log', halted', rfl, hhalted'⟩ := h'
  refine ⟨display', dice', log', halted', rfl, ?_⟩
  rcases hhalted' with rfl | hstop
  · exact hhalted
  · exact .inr hstop

theorem Evaluated.log {m₀ m : Machine} (h : Evaluated m₀ m) (log : Array LogRecord) :
    Evaluated m₀ { m with log := log } :=
  h.trans ⟨m.display, m.dice, log, m.halted, rfl, .inl rfl⟩

/-- Logging is never at fault and changes the log only. -/
theorem run_trace (level : Int) (message : String) (m : Machine) :
    ∃ log, (trace level message).run.run m = (.ok (), { m with log := log }) := by
  unfold trace
  rw [run_bind, run_get]
  dsimp only
  split
  · exact ⟨_, rfl⟩
  · exact ⟨m.log, rfl⟩

theorem run_stop_of_running {m : Machine} (h : m.phase = .running) :
    stop.run.run m = (.ok (), { m with halted := true }) := by
  have hended : ¬ m.phase = .ended := by rw [h]; decide
  have hsuspended : ¬ (m.phase = .paused ∨ m.phase = .waiting) := by rw [h]; decide
  unfold stop
  rw [run_bind, run_get]
  dsimp only
  rw [if_neg hended, run_bind]
  change (do
    let m ← get
    if m.phase = .paused ∨ m.phase = .waiting then finish none : Action Unit).run.run
      { m with halted := true } = _
  rw [run_bind, run_get]
  dsimp only
  rw [if_neg hsuspended]
  rfl

/-- Evaluation stays within `Evaluated` as long as the machine runs. -/
theorem evaluated_evalFrame {m₀ : Machine} (h₀ : m₀.phase = .running) :
    EvalFrame (Below (Evaluated m₀)) where
  constants := by rintro m _ ⟨rfl, _⟩; rfl
  functions := by rintro m _ ⟨rfl, _⟩; rfl
  heap := by rintro m _ ⟨rfl, _⟩; rfl
  vars := by rintro m _ ⟨rfl, _⟩; rfl
  display := by rintro m _ ⟨rfl, _⟩; rfl
  dice := by rintro m _ ⟨rfl, _⟩; rfl
  setDisplay := by
    rintro m _ d ⟨rfl, h⟩
    exact ⟨rfl, h.trans ⟨d, m.dice, m.log, m.halted, rfl, .inl rfl⟩⟩
  setDice := by
    rintro m _ d ⟨rfl, h⟩
    exact ⟨rfl, h.trans ⟨m.display, d, m.log, m.halted, rfl, .inl rfl⟩⟩
  push := by
    rintro m _ r ⟨rfl, h⟩
    exact ⟨rfl, h.log _⟩
  stop := by
    rintro m _ name ⟨rfl, h⟩ hstop m₁ _ ⟨rfl, h₁⟩
    have hstop₀ : m₀.functions.get? name = some .stop := by
      obtain ⟨display, dice, log, halted, rfl, -⟩ := h
      exact hstop
    have hphase : m₁.phase = .running := by
      obtain ⟨display, dice, log, halted, rfl, -⟩ := h₁
      exact h₀
    rw [run_stop_of_running hphase]
    obtain ⟨display, dice, log, halted, rfl, -⟩ := h₁
    exact ⟨rfl, rfl, display, dice, log, true, rfl, .inr ⟨name, hstop₀⟩⟩

theorem Evaluated.evaluate {m₀ m : Machine} (h₀ : m₀.phase = .running) (h : Evaluated m₀ m)
    (f : Formula) : Evaluated m₀ ((evaluate f).run.run m).2 :=
  ((evaluated_evalFrame h₀).evaluate f).keeps h

/-- A choice gives one of the commands of the instruction. -/
theorem choose_mem {i : Instruction} {m m₁ : Machine} {c : Command}
    (h : (choose i).run.run m = (.ok (some c), m₁)) : c ∈ i.commands := by
  cases i with
  | command c' =>
      cases h
      exact List.mem_singleton_self c
  | branch condition yes no =>
      unfold choose at h
      rw [run_bind] at h
      rcases hv : (evaluate condition).run.run m with ⟨e | v, m₂⟩
      · rw [hv] at h
        cases h
      · rw [hv] at h
        dsimp only at h
        rw [run_bind, run_get] at h
        dsimp only at h
        rw [run_pure] at h
        have hchosen := Except.ok.inj (Prod.mk.inj h).1
        split at hchosen
        · cases hchosen
          exact List.mem_cons_self
        · subst hchosen
          simp [Instruction.commands]

/-- The command that the statement at the cursor comes down to, after it has been logged. -/
def commandHere : Action (Option Command) := do
  let m ← get
  match m.program.find? m.cursor with
  | none => return none
  | some line =>
    trace 1 "step"
    trace 2 line.dump.record
    choose line.instruction

/-- It is one of the commands of the line at the cursor. -/
theorem commandHere_mem {m m₁ : Machine} {c : Command}
    (h : commandHere.run.run m = (.ok (some c), m₁)) :
    ∃ line, m.program.find? m.cursor = some line ∧ c ∈ line.instruction.commands := by
  unfold commandHere at h
  rw [run_bind, run_get] at h
  dsimp only at h
  split at h
  · cases h
  · next line hline =>
    obtain ⟨log, hlog⟩ := run_trace 1 "step" m
    obtain ⟨log', hlog'⟩ := run_trace 2 line.dump.record { m with log := log }
    rw [run_bind, hlog] at h
    dsimp only at h
    rw [run_bind, hlog'] at h
    exact ⟨line, hline, choose_mem h⟩

/-- Choosing a command changes no more than evaluation does. -/
theorem commandHere_evaluated {m : Machine} (h : m.phase = .running) :
    Evaluated m (commandHere.run.run m).2 := by
  unfold commandHere
  rw [run_bind, run_get]
  dsimp only
  split
  · exact .refl m
  next line _ =>
    obtain ⟨log, hlog⟩ := run_trace 1 "step" m
    obtain ⟨log', hlog'⟩ := run_trace 2 line.dump.record { m with log := log }
    rw [run_bind, hlog]
    dsimp only
    rw [run_bind, hlog']
    exact ((evaluated_evalFrame h).choose line.instruction).keeps ((Evaluated.refl m).log log')

/-- The statement at the cursor comes down to the same command. -/
theorem MoveFrame.commandHere {R : Machine → Machine → Prop} (F : MoveFrame R) :
    Simulates R Machine.commandHere Machine.commandHere := by
  refine simulates_get fun m m' h => ?_
  rw [F.program h, F.cursor h]
  split
  · exact simulates_pure _
  · refine simulates_bind (F.trace _ _) fun _ => ?_
    exact simulates_bind (F.trace _ _) fun _ => F.choose _

/-- The end of a run that has come to a line that is not there. -/
def missing (n : Int) : Action Reaction := do
  if (Decimal.writeInt? n).isNone then throw .badValue
  finish (some (.run (.missingLine n) (some n)))
  return .quiet

theorem missing_of_writable {n : Int} (h : (Decimal.writeInt? n).isSome = true) :
    missing n = (do
      finish (some (.run (.missingLine n) (some n)))
      return .quiet) := by
  obtain ⟨digits, hdigits⟩ := Option.isSome_iff_exists.mp h
  unfold missing
  rw [hdigits]
  rfl

theorem run_step_missing {m : Machine} (h : m.program.find? m.cursor = none) :
    step.run.run m = (missing m.cursor).run.run m := by
  unfold step
  rw [run_bind, run_get]
  simp only [h]
  rfl

/-- A step on a line of the program performs the command of that line; a fault ends the run. -/
theorem run_step {m : Machine} {line : Line} (h : m.program.find? m.cursor = some line) :
    step.run.run m =
      match (commandHere >>= performChosen).run.run m with
      | (.ok reaction, m₁) => (.ok reaction, m₁)
      | (.error fault, m₁) =>
        (do finish (some fault); return .quiet : Action Reaction).run.run m₁ := by
  unfold step commandHere
  obtain ⟨log, hlog⟩ := run_trace 1 "step" m
  obtain ⟨log', hlog'⟩ := run_trace 2 line.dump.record { m with log := log }
  simp only [run_bind, run_get, h, hlog, hlog', run_tryCatch, performInstruction_eq]
  rcases (choose line.instruction).run.run { m with log := log' } with ⟨_ | c, m₁⟩
  · rfl
  · dsimp only
    rcases (performChosen c).run.run m₁ with ⟨_ | _, _⟩ <;> rfl

def announced (m : Machine) (line : Line) : Machine :=
  ((do
    trace 1 "step"
    trace 2 line.dump.record : Action Unit).run.run m).2

theorem announced_eq (m : Machine) (line : Line) :
    ∃ log, m.announced line = { m with log := log } := by
  obtain ⟨log, hlog⟩ := run_trace 1 "step" m
  obtain ⟨log', hlog'⟩ := run_trace 2 line.dump.record { m with log := log }
  exact ⟨log', by simp only [announced, run_bind, hlog, hlog']⟩

/-- A step performs the line at the cursor once it has been logged, and ends the run if it fails. -/
theorem run_step_announced {m : Machine} {line : Line} (h : m.program.find? m.cursor = some line) :
    step.run.run m =
      match (performInstruction line.instruction).run.run (m.announced line) with
      | (.ok reaction, m₁) => (.ok reaction, m₁)
      | (.error fault, m₁) =>
        (do finish (some fault); return .quiet : Action Reaction).run.run m₁ := by
  obtain ⟨log, hlog⟩ := run_trace 1 "step" m
  obtain ⟨log', hlog'⟩ := run_trace 2 line.dump.record { m with log := log }
  unfold step announced
  simp only [run_bind, run_get, h, hlog, hlog', run_tryCatch]
  rcases (performInstruction line.instruction).run.run { m with log := log' } with ⟨_ | _, _⟩
  · rfl
  · rfl

/-- A step on a line of the program logs the line and performs its instruction. -/
theorem run_step_line {m : Machine} {line : Line} (h : m.program.find? m.cursor = some line) :
    ∃ log, step.run.run m =
      match (performInstruction line.instruction).run.run { m with log := log } with
      | (.ok reaction, m₁) => (.ok reaction, m₁)
      | (.error fault, m₁) =>
        (do finish (some fault); return .quiet : Action Reaction).run.run m₁ := by
  obtain ⟨log, hlog⟩ := announced_eq m line
  exact ⟨log, hlog ▸ run_step_announced h⟩

/-- The result of a step: the line at the cursor is missing, or its command has been performed, or
it was at fault and the run has ended. -/
theorem step_ok {m m₁ : Machine} {reaction : Reaction}
    (h : step.run.run m = (.ok reaction, m₁)) (hphase : m₁.phase ≠ .ended) :
    ∃ c m₀, commandHere.run.run m = (.ok c, m₀) ∧
      (performChosen c).run.run m₀ = (.ok reaction, m₁) := by
  have hfinish : ∀ {fault : Fault} {m₀ : Machine},
      (do finish (some fault); return .quiet : Action Reaction).run.run m₀ ≠
        (.ok reaction, m₁) := fun hrun => hphase (finish_then_phase hrun)
  cases hline : m.program.find? m.cursor with
  | none =>
      rw [run_step_missing hline] at h
      unfold missing at h
      split at h
      · rw [run_bind, run_throw] at h
        cases h
      · exact absurd h hfinish
  | some line =>
      rw [run_step hline, run_bind] at h
      rcases hc : commandHere.run.run m with ⟨_ | c, m₀⟩
      · rw [hc] at h
        exact absurd h hfinish
      · rw [hc] at h
        refine ⟨c, m₀, rfl, ?_⟩
        dsimp only at h
        rcases hp : (performChosen c).run.run m₀ with ⟨_ | r, m₂⟩
        · rw [hp] at h
          exact absurd h hfinish
        · rw [hp] at h
          exact h

/-- A step keeps machines related if the command at the cursor does; where the command leads over to
another relation, so does the step. -/
theorem MoveFrame.step_at {R R' : Machine → Machine → Prop} (F : MoveFrame R) (F' : MoveFrame R')
    {m m' : Machine} (h : R m m')
    (hperform : ∀ c m₀, Machine.commandHere.run.run m = (.ok (some c), m₀) →
      Transfers R R' (Machine.performCommand c) (Machine.performCommand c))
    (hstay : (∀ c m₀, Machine.commandHere.run.run m ≠ (.ok (some c), m₀)) →
      ∀ ⦃k k'⦄, R k k' → R' k k') :
    (Machine.step.run.run m).1 = (Machine.step.run.run m').1 ∧
      R' (Machine.step.run.run m).2 (Machine.step.run.run m').2 := by
  have hend (fault : Fault) : Simulates R'
      (do Machine.finish (some fault); return .quiet : Action Reaction)
      (do Machine.finish (some fault); return .quiet) :=
    simulates_bind (F'.finish (some fault)) fun _ => simulates_pure _
  have hsame : m.program.find? m.cursor = m'.program.find? m'.cursor := by
    rw [F.program h, F.cursor h]
  cases hline : m.program.find? m.cursor with
  | none =>
      have h' : R' m m' := by
        refine hstay (fun c m₀ hc => ?_) h
        obtain ⟨line, hfound, -⟩ := commandHere_mem hc
        rw [hline] at hfound
        cases hfound
      rw [run_step_missing hline, run_step_missing (hsame ▸ hline), F.cursor h]
      unfold missing
      split
      · exact simulates_bind (simulates_throw _) (fun _ => hend _) h'
      · exact hend _ h'
  | some line =>
      rw [run_step hline, run_step (hsame ▸ hline), run_bind, run_bind]
      obtain ⟨hres, hrel⟩ := F.commandHere h
      rcases hc : Machine.commandHere.run.run m with ⟨x, m₁⟩
      rcases hc' : Machine.commandHere.run.run m' with ⟨x', m₁'⟩
      rw [hc, hc'] at hres hrel
      cases hres
      rcases x with e | c
      · exact hend e (hstay (fun c m₀ hc₀ => by cases hc.symm.trans hc₀) hrel)
      · cases c with
        | none => exact ⟨rfl, hstay (fun c m₀ hc₀ => by cases hc.symm.trans hc₀) hrel⟩
        | some c =>
            obtain ⟨hres', hrel'⟩ := hperform c m₁ hc hrel
            dsimp only [performChosen]
            rcases hp : (Machine.performCommand c).run.run m₁ with ⟨y, m₂⟩
            rcases hp' : (Machine.performCommand c).run.run m₁' with ⟨y', m₂'⟩
            rw [hp, hp'] at hres' hrel'
            cases hres'
            cases y with
            | error e => exact hend e hrel'
            | ok reaction => exact ⟨rfl, hrel'⟩

/-- A step keeps a property that statements do not affect; for a question this is up to the one that
the statement at the cursor asks. -/
theorem Unaffected.step {P : Machine → Prop} (U : Unaffected P)
    (hpause : ∀ v, Simulates (Below P) (Machine.pauseFor v) (Machine.pauseFor v)) {m : Machine}
    (hask : ∀ prompt name m₀,
      Machine.commandHere.run.run m = (.ok (some (.input prompt name)), m₀) →
      Simulates (Below P) (Machine.ask name) (Machine.ask name))
    (h : P m) : P (Machine.step.run.run m).2 := by
  have F := U.performFrame
  have hm : Below P m m := ⟨rfl, h⟩
  refine (F.step_at F.toMoveFrame hm (fun c m₀ hc => ?_) fun _ _ _ h => h).2.2
  refine F.performCommand c (fun _ _ => hpause) ?_
  rintro prompt name rfl
  exact hask prompt name m₀ hc

end Machine

end LineBasic

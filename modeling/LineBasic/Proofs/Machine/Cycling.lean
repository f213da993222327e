import LineBasic.Machine.Request
import LineBasic.Proofs.Machine.Performing

/-!
# Cycles and runs

A cycle is taken apart: `advance` performs the statement at the cursor and moves on from it, and the
boundary decides what becomes of the run. `cycleWith` puts `advance` together with any
boundary, and `followWith` follows a run with any cycle, so that a run under another discipline of
suspension differs from the real one in its boundary only. A run that has come to a result keeps it
when more cycles are allowed.
-/

namespace LineBasic

namespace Machine

variable {α β : Type} {R : Machine → Machine → Prop}

theorem course_bind (a : Course α) (k : α → Course β) (m : Machine) :
    (a >>= k) m =
      match a m with
      | none => none
      | some (.ok x, m₁) => k x m₁
      | some (.error e, m₁) => some (.error e, m₁) := by
  change ExceptT.bind a k m = _
  simp only [ExceptT.bind, ExceptT.mk, bind, StateT.bind]
  rcases a m with _ | ⟨_ | _, _⟩ <;> rfl

theorem course_apply (action : Action α) (m : Machine) :
    course action m = some (action.run.run m) := rfl

/-- What follows the statement at the cursor: the run is landed where it jumped to or moved to the
next line. Whether a boundary follows. -/
def moveOn : Action Progress := do
  let m ← get
  if m.phase = .ended then return .stops
  if m.jumped then
    set { m with jumped := false }
    return .goesOn
  else
    match m.program.next? m.cursor with
    | none =>
      finish none
      return .stops
    | some line =>
      set { m with cursor := (line.number : Int) }
      return .goesOn

/-- The statement at the cursor and the move on from it: whether a boundary follows. -/
def advance : Action Progress := do
  let _ ← step
  moveOn

/-- A cycle with a boundary of its own. -/
def cycleWith (boundary : Action Progress) : Action Progress := do
  match ← advance with
  | .goesOn => boundary
  | .stops => return .stops

theorem cycle_eq_cycleWith : cycle = cycleWith boundary := by
  simp only [cycle, cycleWith, advance, moveOn, bind_assoc]
  congr 1
  funext _
  congr 1
  funext m
  split
  · simp only [pure_bind]
  · split
    · simp only [bind_assoc, pure_bind]
    · cases m.program.next? m.cursor with
      | none => simp only [bind_assoc, pure_bind]
      | some line => simp only [bind_assoc, pure_bind]

/-- What follows the statement at the cursor up to the next one. -/
def afterStep : Action Progress := do
  match ← moveOn with
  | .goesOn => boundary
  | .stops => return .stops

theorem cycle_eq_afterStep : cycle = step >>= fun _ => afterStep := by
  rw [cycle_eq_cycleWith]
  exact bind_assoc step (fun _ => moveOn) _

/-- A boundary follows unless the run has ended, or there is no line to move to. -/
theorem run_afterStep_eq (m : Machine) :
    afterStep.run.run m =
      if m.phase = .ended then (.ok .stops, m)
      else if m.jumped then boundary.run.run { m with jumped := false }
      else
        match m.program.next? m.cursor with
        | none => (do finish none; return .stops : Action Progress).run.run m
        | some line => boundary.run.run { m with cursor := (line.number : Int) } := by
  unfold afterStep moveOn
  rw [run_bind, run_bind, run_get]
  dsimp only
  by_cases hended : m.phase = .ended
  · rw [if_pos hended, if_pos hended]
    rfl
  · rw [if_neg hended, if_neg hended]
    by_cases hjumped : m.jumped = true
    · rw [if_pos hjumped, if_pos hjumped]
      rfl
    · rw [if_neg hjumped, if_neg hjumped]
      cases m.program.next? m.cursor with
      | some line => rfl
      | none =>
          dsimp only
          rw [run_bind]
          rcases (finish none).run.run m with ⟨_ | _, m₁⟩
          · rfl
          · rfl

theorem run_moveOn_next {m : Machine} {next : Line} (hphase : m.phase = .running)
    (hjumped : m.jumped = false) (hnext : m.program.next? m.cursor = some next) :
    moveOn.run.run m = (.ok .goesOn, { m with cursor := (next.number : Int) }) := by
  have hended : ¬ m.phase = .ended := by rw [hphase]; decide
  have hlanded : ¬ m.jumped = true := by rw [hjumped]; decide
  unfold moveOn
  rw [run_bind, run_get]
  dsimp only
  rw [if_neg hended, if_neg hlanded, hnext]
  rfl

/-- The rest of a cycle after a statement that neither jumped nor asked for a pause. -/
theorem run_afterStep {m : Machine} {next : Line} (hphase : m.phase = .running)
    (hjumped : m.jumped = false) (hhalted : m.halted = false) (hdelay : m.delay = none)
    (hnext : m.program.next? m.cursor = some next) :
    afterStep.run.run m =
      if m.waiting then
        (.ok .stops, { m with cursor := (next.number : Int), delay := none, phase := .waiting })
      else (.ok .goesOn, { m with cursor := (next.number : Int), delay := none }) := by
  have hgoes : ¬ m.halted = true := by rw [hhalted]; decide
  unfold afterStep
  rw [run_bind, run_moveOn_next hphase hjumped hnext]
  dsimp only
  unfold boundary
  rw [run_bind, run_get]
  dsimp only
  rw [if_neg hgoes, run_bind, run_set, hdelay]
  dsimp only
  unfold awaitReply
  rw [run_bind, run_get]
  dsimp only
  cases m.waiting with
  | false => rfl
  | true => rfl

/-- The move on from a statement keeps machines related that agree on their phase and on whether
they have jumped. -/
theorem MoveFrame.moveOn (F : MoveFrame R)
    (hphase : ∀ ⦃m m'⦄, R m m' → m.phase = m'.phase)
    (hjumped : ∀ ⦃m m'⦄, R m m' → m.jumped = m'.jumped)
    (hland : ∀ ⦃m m'⦄, R m m' → R { m with jumped := false } { m' with jumped := false })
    (hmove : ∀ ⦃m m'⦄ (n : Int), R m m' → R { m with cursor := n } { m' with cursor := n }) :
    Simulates R Machine.moveOn Machine.moveOn := by
  refine simulates_get fun m m' h => ?_
  have hnext : m.program.next? m.cursor = m'.program.next? m'.cursor := by
    rw [F.program h, F.cursor h]
  have hends : m.phase = .ended ↔ m'.phase = .ended := by rw [hphase h]
  have hjumps : m.jumped = true ↔ m'.jumped = true := by rw [hjumped h]
  by_cases hended : m.phase = .ended
  · rw [if_pos hended, if_pos (hends.mp hended)]
    exact simulates_pure _
  · rw [if_neg hended, if_neg (mt hends.mpr hended)]
    by_cases hj : m.jumped = true
    · rw [if_pos hj, if_pos (hjumps.mp hj)]
      exact simulates_bind (simulates_set (hland h)) fun _ => simulates_pure _
    · rw [if_neg hj, if_neg (mt hjumps.mpr hj), hnext]
      split
      · exact simulates_bind (F.finish none) fun _ => simulates_pure _
      · exact simulates_bind (simulates_set (hmove _ h)) fun _ => simulates_pure _

theorem unaffected_ended : Unaffected fun m => m.phase = .ended where
  display _ _ h := h
  dice _ _ h := h
  log _ _ h := h
  vars _ _ h := h
  heap _ _ h := h
  loops _ _ h := h
  stack _ _ h := h
  jump _ _ h := h
  halt _ h := h
  write _ _ h := h
  clear _ h := h
  ending _ _ := rfl
  completion _ _ h := h

/-- Ending a run leaves it ended, also when its outcome cannot be recorded. -/
theorem finish_phase (fault : Option Fault) (m : Machine) :
    ((finish fault).run.run m).2.phase = .ended := by
  have hrest := simulates_conclude unaffected_ended.trace (fun _ _ h => by rw [h.1])
    (fun _ _ h => by rw [h.1]) (fun _ _ _ h => ⟨by rw [h.1], h.2⟩) fault
  rw [finish_eq, run_bind, run_get]
  dsimp only
  split
  · next hended => exact hended
  · rw [run_bind, run_modify]
    exact hrest.keeps rfl

/-- Ending a run and giving a result comes to what ending it comes to, but for the result. -/
theorem run_finish_then {α : Type} (fault : Option Fault) (x : α) (m : Machine) :
    (do finish fault; return x : Action α).run.run m =
      (((finish fault).run.run m).1.map fun _ => x, ((finish fault).run.run m).2) := by
  rw [run_bind]
  rcases (finish fault).run.run m with ⟨_ | _, _⟩ <;> rfl

theorem finish_then_phase {α : Type} {fault : Option Fault} {x : α} {r : Except Fault α}
    {m m₁ : Machine} (hrun : (do finish fault; return x : Action α).run.run m = (r, m₁)) :
    m₁.phase = .ended := by
  have hends := finish_phase fault m
  rw [run_finish_then] at hrun
  cases hrun
  exact hends

/-- What follows the end of a run gives no other result than its own. -/
theorem finish_then_ne {α : Type} {m m₁ : Machine} {fault : Option Fault} {x y : α} (hne : x ≠ y) :
    (do finish fault; return x : Action α).run.run m ≠ (.ok y, m₁) := by
  intro hrun
  rw [run_finish_then] at hrun
  cases hfinish : ((finish fault).run.run m).1 with
  | error e =>
      rw [hfinish] at hrun
      cases hrun
  | ok _ =>
      rw [hfinish] at hrun
      cases hrun
      exact hne rfl

/-- Follows a run with a cycle of its own for at most the given number of cycles. -/
def followWith (cycle : Action Progress) : Nat → Course Unit
  | 0 => fun _ => none
  | cycles + 1 => fun m =>
    match cycle.run.run m with
    | (.ok .goesOn, m') => followWith cycle cycles m'
    | (.ok .stops, m') => some (.ok (), m')
    | (.error fault, m') => some (.error fault, m')

theorem followWith_succ (cycle : Action Progress) (n : Nat) (m : Machine) :
    followWith cycle (n + 1) m =
      match cycle.run.run m with
      | (.ok .goesOn, m₁) => followWith cycle n m₁
      | (.ok .stops, m₁) => some (.ok (), m₁)
      | (.error fault, m₁) => some (.error fault, m₁) := rfl

theorem follow_succ (n : Nat) (m : Machine) :
    follow (n + 1) m =
      match cycle.run.run m with
      | (.ok .goesOn, m₁) => follow n m₁
      | (.ok .stops, m₁) => some (.ok (), m₁)
      | (.error fault, m₁) => some (.error fault, m₁) := rfl

theorem follow_eq_followWith (n : Nat) : follow n = followWith cycle n := by
  induction n with
  | zero => rfl
  | succ n ih =>
      funext m
      rw [follow_succ, followWith_succ, ih]

/-- A run that has come to a result keeps it when more cycles are allowed. -/
theorem followWith_mono {cycle : Action Progress} {n n' : Nat} (hn : n ≤ n') {m : Machine}
    {x : Except Fault Unit × Machine} (h : followWith cycle n m = some x) :
    followWith cycle n' m = some x := by
  induction n generalizing n' m with
  | zero => cases h
  | succ n ih =>
      obtain ⟨k, rfl⟩ : ∃ k, n' = k + 1 := ⟨n' - 1, by omega⟩
      simp only [followWith] at h ⊢
      split at h
      · exact ih (by omega) h
      · exact h
      · exact h

theorem follow_mono {n n' : Nat} (hn : n ≤ n') {m : Machine} {x : Except Fault Unit × Machine}
    (h : follow n m = some x) : follow n' m = some x := by
  rw [follow_eq_followWith] at h ⊢
  exact followWith_mono hn h

theorem followed_eq (n : Nat) (action : Action Progress) (m : Machine) :
    followed n action m =
      match action.run.run m with
      | (.ok .goesOn, m₁) => follow n m₁
      | (.ok .stops, m₁) => some (.ok (), m₁)
      | (.error e, m₁) => some (.error e, m₁) := by
  rw [followed, course_bind, course_apply]
  rcases action.run.run m with ⟨e | p, m₁⟩
  · rfl
  · cases p <;> rfl

theorem followed_mono {n n' : Nat} (hn : n ≤ n') {action : Action Progress} {m : Machine}
    {x : Except Fault Unit × Machine} (h : followed n action m = some x) :
    followed n' action m = some x := by
  rw [followed_eq] at h ⊢
  split at h
  · exact follow_mono hn h
  · exact h
  · exact h

/-- Puts a program in place and starts its run, whatever the machine was doing. -/
def launch (source : String) : Action Progress := do
  modify reset
  match Program.load source with
  | .error fault =>
    if !fault.ofLanguage then throw fault
    finish (some fault)
    return .stops
  | .ok program =>
    modify fun m => { m with program := program }
    match program.first? with
    | none =>
      finish none
      return .stops
    | some line =>
      modify fun m => { m with cursor := (line.number : Int) }
      execute

/-- A machine that is busy with a run does not start another one. -/
theorem start_eq (source : String) :
    start source = (do
      let phase := (← get).phase
      if phase = .running ∨ phase = .paused ∨ phase = .waiting then
        throw (.run .alreadyRunning none)
      launch source) := rfl

/-- Starts the run of a program that has been loaded. -/
def startProgram (p : Program) : Action Progress := do
  modify fun m => { reset m with program := p }
  match p.first? with
  | none =>
    finish none
    return .stops
  | some line =>
    modify fun m => { m with cursor := (line.number : Int) }
    execute

/-- A source that can be loaded is run as the program that it loads. -/
theorem run_start_of_load {source : String} {p : Program} {m : Machine}
    (hload : Program.load source = .ok p) (hfree : m.phase = .idle ∨ m.phase = .ended) :
    (start source).run.run m = (startProgram p).run.run m := by
  have hnot : ¬ (m.phase = .running ∨ m.phase = .paused ∨ m.phase = .waiting) := by
    rcases hfree with h | h <;> simp [h]
  rw [start_eq, run_bind, run_get]
  dsimp only
  rw [if_neg hnot]
  unfold launch startProgram
  rw [hload]
  rfl

/-- Firing the oldest live timer, as one action that says whether the run goes on. -/
theorem tick_eq (n : Nat) (m : Machine) :
    tick n m =
      match m.timers.pop with
      | (true, timers) =>
        match followed n wake { m with timers := timers } with
        | some (.ok (), m₁) => some (.ok true, m₁)
        | some (.error e, m₁) => some (.error e, m₁)
        | none => none
      | (false, timers) => some (.ok false, { m with timers := timers }) := by
  rw [tick, course_bind, course_apply]
  have hpop : popTimer.run.run m = (.ok m.timers.pop.1, { m with timers := m.timers.pop.2 }) := rfl
  rw [hpop]
  rcases m.timers.pop with ⟨fires, timers⟩
  cases fires with
  | false => rfl
  | true =>
      dsimp only
      rw [if_pos rfl, course_bind]
      rcases followed n wake { m with timers := timers } with _ | ⟨_ | _, _⟩ <;> rfl

theorem tick_mono {n n' : Nat} (hn : n ≤ n') {m : Machine} {x : Except Fault Bool × Machine}
    (h : tick n m = some x) : tick n' m = some x := by
  rw [tick_eq] at h ⊢
  split at h
  · split at h
    · next hf => rw [followed_mono hn hf]; exact h
    · next hf => rw [followed_mono hn hf]; exact h
    · cases h
  · exact h

theorem tickAll_succ (n ticks : Nat) (m : Machine) :
    tickAll n (ticks + 1) m =
      match tick n m with
      | none => none
      | some (.ok true, m₁) =>
        match tickAll n ticks m₁ with
        | none => none
        | some (.ok k, m₂) => some (.ok (k + 1), m₂)
        | some (.error e, m₂) => some (.error e, m₂)
      | some (.ok false, m₁) => some (.ok 0, m₁)
      | some (.error e, m₁) => some (.error e, m₁) := by
  rw [tickAll, course_bind]
  rcases tick n m with _ | ⟨e | fires, m₁⟩
  · rfl
  · rfl
  · cases fires with
    | false => rfl
    | true =>
        dsimp only
        rw [if_pos rfl, course_bind]
        rcases tickAll n ticks m₁ with _ | ⟨_ | _, _⟩ <;> rfl

/-- Timers that have all fired keep their count when more cycles and more timers are allowed. -/
theorem tickAll_mono {n n' t t' : Nat} (hn : n ≤ n') (ht : t ≤ t') {m : Machine}
    {x : Except Fault Nat × Machine} (h : tickAll n t m = some x) :
    tickAll n' t' m = some x := by
  induction t generalizing t' m x with
  | zero => cases h
  | succ t ih =>
      obtain ⟨s, rfl⟩ : ∃ s, t' = s + 1 := ⟨t' - 1, by omega⟩
      rw [tickAll_succ] at h ⊢
      cases hx : tick n m with
      | none =>
          rw [hx] at h
          cases h
      | some y =>
          rw [hx] at h
          rw [tick_mono hn hx]
          split at h
          · cases h
          · next hy =>
              cases hy
              cases hrest : tickAll n t _ with
              | none =>
                  rw [hrest] at h
                  cases h
              | some z =>
                  rw [hrest] at h
                  rw [ih (by omega) hrest]
                  exact h
          · next hy =>
              cases hy
              exact h
          · next hy =>
              cases hy
              exact h

end Machine

end LineBasic

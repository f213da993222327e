import LineBasic.Proofs.Machine.Following
import LineBasic.Proofs.Program.Blocks

/-!
# The lines that a run comes to

A machine that runs a program is compared with one that performs the same commands on data without
lines: `Beside` says that they have the same data. `Comes` says which last lines of its program a
run has come to. There is one lemma for each way in which a line is left: the run goes on behind it,
jumps, or fails.
-/

namespace LineBasic

namespace Machine

variable {k m s s₁ : Machine} {p : Program} {n : Int} {L L₁ : Table String Loop} {runs : Runs}
  {line : Line} {rest after : List Line}

/-! ## A run beside a block -/

/-- Two machines with the same data, in the setting of a third one: the first performs a block, the
second is at a line of a program with some loops. -/
inductive Beside (k : Machine) (p : Program) (n : Int) (loops : Table String Loop) :
    Machine → Machine → Prop where
  | mk (heap : Heap) (vars : Table String Value) (display : Option Display) (dice : Dice)
      (console : Console) (log log' : Array LogRecord) :
      Beside k p n loops
        { k with
          heap := heap, vars := vars, display := display, dice := dice, console := console,
          log := log }
        { k with
          program := p, cursor := n, loops := loops, heap := heap, vars := vars,
          display := display, dice := dice, console := console, log := log' }

/-- A machine that is about to run a program, and has no function that would stop it. -/
structure Hosts (k : Machine) (p : Program) : Prop where
  underway : Underway k
  pending : k.completion = .pending
  unstopped : ∀ name, k.functions.get? name ≠ some .stop
  writable : p.Writable

/-- Commands on data keep machines beside each other. -/
theorem beside_plainFrame (H : Hosts k p) : PlainFrame (Beside k p n L) where
  constants := by rintro _ _ ⟨⟩; rfl
  functions := by rintro _ _ ⟨⟩; rfl
  heap := by rintro _ _ ⟨⟩; rfl
  vars := by rintro _ _ ⟨⟩; rfl
  display := by rintro _ _ ⟨⟩; rfl
  dice := by rintro _ _ ⟨⟩; rfl
  setDisplay := by rintro _ _ d ⟨⟩; constructor
  setDice := by rintro _ _ d ⟨⟩; constructor
  push := by rintro _ _ r ⟨⟩; constructor
  stop := by
    rintro _ _ name ⟨⟩ hstop
    exact absurd hstop (H.unstopped name)
  setVars := by rintro _ _ v ⟨⟩; constructor
  setHeap := by rintro _ _ h ⟨⟩; constructor
  write := by rintro _ _ text ⟨⟩; constructor
  clear := by rintro _ _ ⟨⟩; constructor

namespace Beside

theorem underway (H : Hosts k p) (h : Beside k p n L s m) : Underway m := by
  cases h
  exact ⟨H.underway.phase, H.underway.jumped, H.underway.halted, H.underway.waiting,
    H.underway.delay, H.underway.timer⟩

theorem pending (H : Hosts k p) (h : Beside k p n L s m) : m.completion = .pending := by
  cases h
  exact H.pending

theorem log (h : Beside k p n L s m) (log : Array LogRecord) :
    Beside k p n L s { m with log := log } := by
  cases h
  constructor

theorem move (h : Beside k p n L s m) (line : Int) :
    Beside k p line L s { m with cursor := line } := by
  cases h
  constructor

theorem setLoop (h : Beside k p n L s m) (name : String) (loop : Loop) :
    Beside k p n (L.insert name loop) s { m with loops := m.loops.insert name loop } := by
  cases h
  constructor

theorem program (h : Beside k p n L s m) : m.program = p := by
  cases h
  rfl

theorem cursor (h : Beside k p n L s m) : m.cursor = n := by
  cases h
  rfl

theorem loops (h : Beside k p n L s m) : m.loops = L := by
  cases h
  rfl

/-- A run at a line whose number can be written is yet to be completed. -/
theorem accounted (H : Hosts k p) (h : Beside k p n L s m)
    (hn : (Decimal.writeInt? n).isSome = true) : Accounted true m := by
  have hpending := h.pending H
  have hphase := (h.underway H).phase
  refine ⟨fun _ => by simp [hpending], by simp [hpending], by simp [hpending, hphase], ?_, ?_⟩
  · rw [h.cursor]
    exact hn
  · rw [h.program]
    exact H.writable

end Beside

/-- The run of a program has ended: with the data of a machine that performed a block, and with an
outcome. -/
structure Finished (s : Machine) (outcome : Outcome) (m : Machine) : Prop where
  phase : m.phase = .ended
  completion : m.completion = .done outcome
  console : m.console = s.console
  vars : m.vars = s.vars
  heap : m.heap = s.heap
  display : m.display = s.display

theorem Beside.finished (h : Beside k p n L s m) (outcome : Outcome) (log : Array LogRecord) :
    Finished s outcome
      { m with phase := .ended, completion := .done outcome, log := log } := by
  cases h
  exact ⟨rfl, rfl, rfl, rfl, rfl, rfl⟩

/-! ## Places -/

/-- A run comes to the last lines of its program, with some loops, beside a machine that performs a
block. When there are no lines left it has ended well. -/
inductive Comes (k : Machine) (p : Program) (runs : Runs) :
    List Line → Table String Loop → Machine → Prop where
  | before {line : Line} {rest : List Line} {loops : Table String Loop} {s m : Machine}
      (suffix : line :: rest <:+ p.lines) (passes : runs.Passes m)
      (beside : Beside k p line.number loops s m) : Comes k p runs (line :: rest) loops s
  | behind {loops : Table String Loop} {s m : Machine} (ends : runs.Ends m)
      (finished : Finished s {} m) : Comes k p runs [] loops s

def Fails (p : Program) (runs : Runs) (e : Fault) (s : Machine) : Prop :=
  ∃ line ∈ p.lines, ∃ m, runs.Ends m ∧
    Finished s { fault := some (e.atLine (some line.number)), line := some line.number } m

namespace Comes

theorem suffix (h : Comes k p runs rest L s) : rest <:+ p.lines := by
  cases h with
  | before suffix passes beside => exact suffix
  | behind ends finished => exact List.nil_suffix

/-- The step at the line that a run has come to. -/
theorem step (h : Comes k p runs (line :: rest) L s) :
    ∃ m m', runs.Passes m ∧ Beside k p line.number L s m' ∧
      Machine.step.run.run m =
        match (performInstruction line.instruction).run.run m' with
        | (.ok reaction, m₁) => (.ok reaction, m₁)
        | (.error fault, m₁) =>
          (do finish (some fault); return .quiet : Action Reaction).run.run m₁ := by
  cases h with
  | @before _ _ _ _ m suffix passes beside =>
      have hfind : m.program.find? m.cursor = some line := by
        rw [beside.program, beside.cursor]
        exact p.find?_of_suffix suffix
      obtain ⟨log, hstep⟩ := run_step_line hfind
      exact ⟨m, _, passes, beside.log log, hstep⟩

/-- After a line that is performed the run comes to the lines behind it. -/
theorem goesOn (H : Hosts k p) (h : Comes k p runs (line :: rest) L s)
    (hrun : ∀ m, Beside k p line.number L s m → ∃ reaction m₁,
      (performInstruction line.instruction).run.run m = (.ok reaction, m₁) ∧
        Beside k p line.number L₁ s₁ m₁) : Comes k p runs rest L₁ s₁ := by
  obtain ⟨m, m', hpasses, hbeside, hstep⟩ := h.step
  obtain ⟨reaction, m₁, hperform, hbeside₁⟩ := hrun m' hbeside
  rw [hperform] at hstep
  have hunderway := hbeside₁.underway H
  have hnext : m₁.program.next? m₁.cursor = rest.head? := by
    rw [hbeside₁.program, hbeside₁.cursor]
    exact p.next?_of_suffix h.suffix
  cases rest with
  | nil =>
      have hcursor : (Decimal.writeInt? m₁.cursor).isSome = true := by
        rw [hbeside₁.cursor]
        exact H.writable line (h.suffix.mem (by simp))
      obtain ⟨log, hmove⟩ := run_moveOn_last hunderway (hbeside₁.pending H) hcursor hnext
      exact .behind (hpasses.stops (run_cycle_stops hstep hmove)) (hbeside₁.finished {} log)
  | cons next rest =>
      have hbeside₂ := hbeside₁.move next.number
      have hmove := run_moveOn_next hunderway.phase hunderway.jumped hnext
      have hcycle := run_cycle_goesOn hstep hmove (hbeside₂.underway H)
      have hsuffix : next :: rest <:+ p.lines := (List.suffix_cons line _).trans h.suffix
      exact .before hsuffix (hpasses.goesOn hcycle) hbeside₂

/-- After a line that jumps the run comes to the lines from its target on. -/
theorem jumps (H : Hosts k p) (h : Comes k p runs (line :: rest) L s) {target : Line}
    (htarget : target :: after <:+ p.lines)
    (hrun : ∀ m, Beside k p line.number L s m → ∃ reaction m₁,
      (performInstruction line.instruction).run.run m =
          (.ok reaction, { m₁ with cursor := (target.number : Int), jumped := true }) ∧
        Beside k p line.number L₁ s₁ m₁) : Comes k p runs (target :: after) L₁ s₁ := by
  obtain ⟨m, m', hpasses, hbeside, hstep⟩ := h.step
  obtain ⟨reaction, m₁, hperform, hbeside₁⟩ := hrun m' hbeside
  rw [hperform] at hstep
  have hbeside₂ := hbeside₁.move target.number
  have hmove := run_moveOn_jumped (hbeside₁.underway H) target.number
  have hcycle := run_cycle_goesOn hstep hmove (hbeside₂.underway H)
  exact .before htarget (hpasses.goesOn hcycle) hbeside₂

/-- A line that is at fault ends the run. -/
theorem fails (H : Hosts k p) (h : Comes k p runs (line :: rest) L s) {e : Fault}
    (hrun : ∀ m, Beside k p line.number L s m → ∃ m₁,
      (performInstruction line.instruction).run.run m = (.error e, m₁) ∧
        Beside k p line.number L s₁ m₁) : Fails p runs e s₁ := by
  obtain ⟨m, m', hpasses, hbeside, hstep⟩ := h.step
  obtain ⟨m₁, hperform, hbeside₁⟩ := hrun m' hbeside
  have hmem : line ∈ p.lines := h.suffix.mem (by simp)
  have hwritable := H.writable line hmem
  -- A statement raises bare faults only. With the number of its line, which can be written, such a
  -- fault can be told.
  have hbare := (lasting_accounted.performInstruction line.instruction
    (hbeside.accounted H hwritable)).2 e (by rw [hperform])
  have hfault : ∀ e' ∈ some e, e'.Tellable := by
    intro e' he'
    cases he'
    exact Fault.tellable_of_isBare hbare
  have hcursor : (Decimal.writeInt? m₁.cursor).isSome = true := by
    rw [hbeside₁.cursor]
    exact hwritable
  obtain ⟨log, hfinish⟩ := run_finish (hbeside₁.underway H) (hbeside₁.pending H) hfault hcursor
  have houtcome : m₁.outcome (some e) =
      { fault := some (e.atLine (some line.number)), line := some line.number } := by
    have hline : m₁.currentLine = some (line.number : Int) := by
      rw [currentLine, hbeside₁.cursor]
      exact if_pos (Int.natCast_nonneg _)
    rw [outcome, hline]
  rw [hperform] at hstep
  dsimp only at hstep
  rw [run_bind, hfinish, houtcome] at hstep
  exact ⟨line, hmem, _, hpasses.stops (run_cycle_stops hstep (run_moveOn_ended rfl)),
    hbeside₁.finished _ log⟩

end Comes

end Machine

end LineBasic

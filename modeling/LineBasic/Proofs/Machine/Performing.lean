import LineBasic.Machine.Cycle
import LineBasic.Proofs.Machine.Simulation

/-!
# Simulation of statements

`DataFrame R` extends `EvalFrame R` by what commands on data write: variables, arrays and the
console. `MoveFrame R` adds the cursor with the lines around it, loops, calls, and the end of a run.
Every command then simulates itself, except that `PAUSE` and `INPUT` are left to the relation at
hand: a pause and a question are what most relations between machines are about. So is a console
that is cleared; where it does not matter, `PlainFrame R` and `PerformFrame R` are the same two with
a cleared console among what is written.

An instruction is split into its choice and the command chosen. `choose` evaluates the condition of
a branch and gives the command that is to be performed.
-/

namespace LineBasic

/-- The commands that work on data alone: they neither move the cursor nor suspend or end the run.
-/
def Command.isPlain : Command → Bool
  | .print _ | .assign .. | .remark _ | .array _ | .plot .. => true
  | .clearAll | .clearConsole | .clearDisplay => true
  | _ => false

/-- The commands that an instruction may come down to. -/
def Instruction.commands : Instruction → List Command
  | .command c => [c]
  | .branch _ yes no => yes :: no.toList

def Command.clears : Command → Bool
  | .clearAll | .clearConsole => true
  | _ => false

namespace Machine

variable {α : Type} {R : Machine → Machine → Prop}

/-- The command that an instruction comes down to: the branch that its condition selects, none when
there is no such branch. -/
def choose : Instruction → Action (Option Command)
  | .command c => return some c
  | .branch condition yes no => do
    let v ← evaluate condition
    return if (← get).heap.isTrue v then some yes else no

def performChosen : Option Command → Action Reaction
  | some c => performCommand c
  | none => return .quiet

/-- Performing an instruction is choosing a command and performing it. -/
theorem performInstruction_eq (i : Instruction) :
    performInstruction i = choose i >>= performChosen := by
  cases i with
  | command c => rfl
  | branch condition yes no =>
      simp only [performInstruction, choose, bind_assoc, pure_bind]
      congr 1
      funext v
      congr 1
      funext m
      split
      · rfl
      · cases no <;> rfl

/-- The line that a call comes back to. -/
def backLine (m : Machine) : Int :=
  match m.program.next? m.cursor with
  | some l => (l.number : Int)
  | none => m.cursor + 1

/-- What the commands that work on data need of a relation between machines, beyond what evaluation
needs: they stay related when a command writes variables, arrays or text. -/
structure DataFrame (R : Machine → Machine → Prop) : Prop extends EvalFrame R where
  setVars : ∀ ⦃m m'⦄ (v : Table String Value), R m m' → R { m with vars := v } { m' with vars := v }
  setHeap : ∀ ⦃m m'⦄ (h : Heap), R m m' → R { m with heap := h } { m' with heap := h }
  write : ∀ ⦃m m'⦄ (text : String), R m m' →
    R { m with console := m.console.write text } { m' with console := m'.console.write text }

structure PlainFrame (R : Machine → Machine → Prop) : Prop extends DataFrame R where
  clear : ∀ ⦃m m'⦄, R m m' →
    R { m with console := m.console.clear } { m' with console := m'.console.clear }

/-- What performing statements needs of a relation between machines, beyond what commands on data
need: they agree on where they stand in the program, and stay related when a statement moves. -/
structure MoveFrame (R : Machine → Machine → Prop) : Prop extends DataFrame R where
  cursor : ∀ ⦃m m'⦄, R m m' → m.cursor = m'.cursor
  program : ∀ ⦃m m'⦄, R m m' → m.program = m'.program
  loops : ∀ ⦃m m'⦄, R m m' → m.loops = m'.loops
  stack : ∀ ⦃m m'⦄, R m m' → m.stack = m'.stack
  setLoops : ∀ ⦃m m'⦄ (l : Table String Loop), R m m' →
    R { m with loops := l } { m' with loops := l }
  setStack : ∀ ⦃m m'⦄ (s : List Int), R m m' → R { m with stack := s } { m' with stack := s }
  jump : ∀ ⦃m m'⦄ (line : Int), R m m' →
    R { m with cursor := line, jumped := true } { m' with cursor := line, jumped := true }
  halt : ∀ ⦃m m'⦄, R m m' → R { m with halted := true } { m' with halted := true }
  trace : ∀ (level : Int) (message : String),
    Simulates R (trace level message) (trace level message)
  finish : ∀ fault : Option Fault, Simulates R (finish fault) (finish fault)

structure PerformFrame (R : Machine → Machine → Prop) : Prop extends MoveFrame R, PlainFrame R

/-- Machines with the same trace level and the same cursor log the same. -/
theorem simulates_trace
    (hlevel : ∀ ⦃m m'⦄, R m m' → m.traceLevel = m'.traceLevel)
    (hcursor : ∀ ⦃m m'⦄, R m m' → m.cursor = m'.cursor)
    (hpush : ∀ ⦃m m'⦄ (r : LogRecord), R m m' →
      R { m with log := m.log.push r } { m' with log := m'.log.push r })
    (level : Int) (message : String) :
    Simulates R (trace level message) (trace level message) := by
  refine simulates_get fun m m' h => ?_
  rw [hlevel h, hcursor h]
  split
  · exact simulates_modify fun m m' h => hpush _ h
  · exact simulates_pure _

theorem cancelTimer_none {m : Machine} (h : m.timer = none) : cancelTimer m = m := by
  unfold cancelTimer
  rw [h]

theorem cancelTimer_some {m : Machine} {id : Nat} (h : m.timer = some id) :
    cancelTimer m = { m with timers := m.timers.cancel id, timer := none } := by
  unfold cancelTimer
  rw [h]

theorem cancelTimer_console (m : Machine) (c : Console) :
    cancelTimer { m with console := c } = { cancelTimer m with console := c } := by
  unfold cancelTimer
  dsimp only
  split <;> rfl

/-- What is left to do when a run is ended: the end is logged and the outcome recorded. -/
def conclude : Option Fault → Action Unit
  | none => do
    trace 1 "program ended"
    complete {}
  | some fault => do
    let line := (← get).currentLine
    let fault := fault.atLine line
    let message ← liftM (describe fault)
    trace 1 ("program ended with error: " ++ message)
    complete { fault := some fault, line := line }

theorem finish_eq (fault : Option Fault) :
    finish fault = (do
      if (← get).phase = .ended then return
      modify fun m => { cancelTimer m with phase := .ended }
      conclude fault) := by
  cases fault <;> rfl

/-- What is left to do when a loop is opened, once its increment is known not to be zero. -/
def openLoop (name : String) (value increment bound : Value) : Action Unit := do
  setVariable name value
  let m ← get
  match m.program.next? m.cursor with
  | none => finish none
  | some l =>
    let loop : Loop :=
      { name := name, value := value, increment := increment, bound := bound, line := l.number }
    set { m with loops := m.loops.insert name loop }

theorem startLoop_eq (name : String) (value increment bound : Value) :
    startLoop name value increment bound = (do
      trace 1 ("marking loop " ++ name)
      if ← liftM ((← get).heap.equal increment (.int 0)) then throw (.run (.zeroStep name) none)
      openLoop name value increment bound) := rfl

theorem simulates_conclude
    (htrace : ∀ level message, Simulates R (trace level message) (trace level message))
    (hcursor : ∀ ⦃m m'⦄, R m m' → m.cursor = m'.cursor)
    (hcompletion : ∀ ⦃m m'⦄, R m m' → m.completion = m'.completion)
    (hdone : ∀ ⦃m m'⦄ (c : Completion), R m m' →
      R { m with completion := c } { m' with completion := c })
    (fault : Option Fault) : Simulates R (conclude fault) (conclude fault) := by
  have hcomplete : ∀ outcome, Simulates R (complete outcome) (complete outcome) := by
    refine fun outcome => simulates_get fun m m' h => ?_
    rw [hcompletion h]
    split
    · exact simulates_pure _
    · exact simulates_modify fun m m' h => hdone _ h
    · exact simulates_throw _
  cases fault with
  | none => exact simulates_bind (htrace _ _) fun _ => hcomplete _
  | some fault =>
      refine simulates_get fun m m' h => ?_
      have hline : m.currentLine = m'.currentLine := by
        unfold currentLine
        rw [hcursor h]
      rw [hline]
      refine simulates_bind (simulates_liftM _) fun message => ?_
      exact simulates_bind (htrace _ _) fun _ => hcomplete _

/-- Ending a run looks at the phase, the cursor and the completion, cancels the timer and records
the outcome. -/
theorem simulates_finish
    (htrace : ∀ level message, Simulates R (trace level message) (trace level message))
    (hphase : ∀ ⦃m m'⦄, R m m' → m.phase = m'.phase)
    (hcursor : ∀ ⦃m m'⦄, R m m' → m.cursor = m'.cursor)
    (hcompletion : ∀ ⦃m m'⦄, R m m' → m.completion = m'.completion)
    (hend : ∀ ⦃m m'⦄, R m m' →
      R { cancelTimer m with phase := .ended } { cancelTimer m' with phase := .ended })
    (hdone : ∀ ⦃m m'⦄ (c : Completion), R m m' →
      R { m with completion := c } { m' with completion := c })
    (fault : Option Fault) : Simulates R (finish fault) (finish fault) := by
  rw [finish_eq]
  refine simulates_get fun m m' h => ?_
  rw [hphase h]
  split
  · exact simulates_pure _
  · refine simulates_bind (simulates_modify hend) fun _ => ?_
    exact simulates_conclude htrace hcursor hcompletion hdone fault

/-- A request to stop ends the run only where it is suspended. -/
theorem simulates_stop (hfinish : Simulates R (finish none) (finish none))
    (hphase : ∀ ⦃m m'⦄, R m m' → m.phase = m'.phase)
    (hhalt : ∀ ⦃m m'⦄, R m m' → R { m with halted := true } { m' with halted := true }) :
    Simulates R stop stop := by
  refine simulates_get fun m m' h => ?_
  rw [hphase h]
  split
  · exact simulates_pure _
  · refine simulates_bind (simulates_modify hhalt) fun _ => simulates_get fun m m' h => ?_
    rw [hphase h]
    split
    · exact hfinish
    · exact simulates_pure _

theorem simulates_pauseFor (hheap : ∀ ⦃m m'⦄, R m m' → m.heap = m'.heap)
    (htrace : ∀ level message, Simulates R (trace level message) (trace level message))
    (hdelay : ∀ ⦃m m'⦄ (d : Option Value), R m m' → R { m with delay := d } { m' with delay := d })
    (millis : Value) : Simulates R (pauseFor millis) (pauseFor millis) := by
  refine simulates_get fun m m' h => ?_
  rw [hheap h]
  refine simulates_bind (simulates_liftM _) fun text => ?_
  refine simulates_bind (htrace _ _) fun _ => ?_
  refine simulates_bind (simulates_liftM _) fun positive => ?_
  exact simulates_modify fun m m' h => hdelay _ h

theorem EvalFrame.choose (F : EvalFrame R) (i : Instruction) :
    Simulates R (choose i) (choose i) := by
  cases i with
  | command c => exact simulates_pure _
  | branch condition yes no =>
      refine simulates_bind (F.evaluate condition) fun v => simulates_get fun m m' h => ?_
      rw [F.heap h]
      exact simulates_pure _

namespace DataFrame

theorem setVariable (F : DataFrame R) (name : String) (value : Value) :
    Simulates R (setVariable name value) (setVariable name value) := by
  refine simulates_modify fun m m' h => ?_
  rw [F.vars h]
  exact F.setVars _ h

theorem declareArray (F : DataFrame R) (name : String) :
    Simulates R (declareArray name) (declareArray name) := by
  refine simulates_modify fun m m' h => ?_
  rw [F.vars h, F.heap h]
  have hheap := F.setHeap (m'.heap.alloc .empty).2 h
  exact F.setVars (m'.vars.insert name (.array (m'.heap.alloc .empty).1)) hheap

theorem setElement (F : DataFrame R) (name : String) (index value : Value) :
    Simulates R (setElement name index value) (setElement name index value) := by
  refine simulates_bind (F.arrayOf name) fun ref => ?_
  refine simulates_bind (simulates_liftM _) fun key => ?_
  refine simulates_modify fun m m' h => ?_
  rw [F.heap h]
  exact F.setHeap _ h

theorem writeText (F : DataFrame R) (text : String) :
    Simulates R (Machine.write text) (Machine.write text) :=
  simulates_modify fun _ _ h => F.write text h

theorem clearDisplay (F : DataFrame R) : Simulates R clearDisplay clearDisplay :=
  simulates_bind F.needDisplay fun _ => simulates_modify fun _ _ h => F.setDisplay _ h

theorem plot (F : DataFrame R) (x y color : Value) :
    Simulates R (plot x y color) (plot x y color) := by
  refine simulates_bind F.needDisplay fun d => ?_
  refine simulates_bind (simulates_liftM _) fun d' => ?_
  exact simulates_modify fun _ _ h => F.setDisplay _ h

theorem itemTexts (F : DataFrame R) (items : List PrintItem) :
    Simulates R (itemTexts items) (itemTexts items) := by
  induction items with
  | nil => exact simulates_pure _
  | cons item rest ih =>
      refine simulates_bind (F.evaluate item.formula) fun v => simulates_get fun m m' h => ?_
      rw [F.heap h]
      refine simulates_bind (simulates_liftM _) fun text => ?_
      exact simulates_bind ih fun _ => simulates_pure _

/-- A command on data simulates itself; where it clears the console, this is up to the relation. -/
theorem performCommand (F : DataFrame R) {c : Command} (h : c.isPlain = true)
    (hclear : c.clears = true → Simulates R clearConsole clearConsole) :
    Simulates R (performCommand c) (performCommand c) := by
  cases c with
  | print items =>
      refine simulates_bind (F.itemTexts items) fun text => ?_
      exact simulates_bind (F.writeText _) fun _ => simulates_pure _
  | assign name index value =>
      cases index with
      | none =>
          refine simulates_bind (F.evaluate value) fun v => ?_
          exact simulates_bind (F.setVariable name v) fun _ => simulates_pure _
      | some index =>
          refine simulates_bind (F.evaluate value) fun v => ?_
          refine simulates_bind (F.evaluate index) fun i => ?_
          exact simulates_bind (F.setElement name i v) fun _ => simulates_pure _
  | remark text => exact simulates_pure _
  | array name => exact simulates_bind (F.declareArray name) fun _ => simulates_pure _
  | plot x y color =>
      refine simulates_bind (F.evaluate x) fun vx => ?_
      refine simulates_bind (F.evaluate y) fun vy => ?_
      refine simulates_bind (F.evaluate color) fun vc => ?_
      exact simulates_bind (F.plot vx vy vc) fun _ => simulates_pure _
  | clearAll =>
      refine simulates_bind (hclear rfl) fun _ => ?_
      exact simulates_bind F.clearDisplay fun _ => simulates_pure _
  | clearConsole => exact simulates_bind (hclear rfl) fun _ => simulates_pure _
  | clearDisplay => exact simulates_bind F.clearDisplay fun _ => simulates_pure _
  | _ => cases h

end DataFrame

namespace PlainFrame

theorem clearConsole (F : PlainFrame R) : Simulates R clearConsole clearConsole :=
  simulates_modify fun _ _ h => F.clear h

theorem performCommand (F : PlainFrame R) {c : Command} (h : c.isPlain = true) :
    Simulates R (performCommand c) (performCommand c) :=
  F.toDataFrame.performCommand h fun _ => F.clearConsole

end PlainFrame

namespace MoveFrame

theorem jumpTo (F : MoveFrame R) (line : Int) : Simulates R (jumpTo line) (jumpTo line) := by
  unfold Machine.jumpTo
  split
  · exact simulates_throw _
  · exact simulates_bind (F.trace _ _) fun _ => simulates_modify fun _ _ h => F.jump line h

theorem callLine (F : MoveFrame R) (line : Int) :
    Simulates R (callLine line) (callLine line) := by
  refine simulates_bind (simulates_modify fun m m' h => ?_) fun _ => F.jumpTo line
  have hback : backLine m = backLine m' := by
    unfold backLine
    rw [F.program h, F.cursor h]
  change R { m with stack := backLine m :: m.stack } { m' with stack := backLine m' :: m'.stack }
  rw [hback, F.stack h]
  exact F.setStack _ h

theorem returnFromCall (F : MoveFrame R) : Simulates R returnFromCall returnFromCall := by
  refine simulates_get fun m m' h => ?_
  rw [F.stack h]
  split
  · exact simulates_throw _
  · refine simulates_bind (simulates_modify fun m m' h => F.setStack _ h) fun _ => ?_
    exact F.jumpTo _

theorem startLoop (F : MoveFrame R) (name : String) (value increment bound : Value) :
    Simulates R (startLoop name value increment bound) (startLoop name value increment bound) := by
  have hrest : Simulates R (openLoop name value increment bound)
      (openLoop name value increment bound) := by
    refine simulates_bind (F.setVariable name value) fun _ => simulates_get fun m m' h => ?_
    have hnext : m.program.next? m.cursor = m'.program.next? m'.cursor := by
      rw [F.program h, F.cursor h]
    rw [hnext, F.loops h]
    split
    · exact F.finish none
    · exact simulates_set (F.setLoops _ h)
  rw [startLoop_eq]
  refine simulates_bind (F.trace _ _) fun _ => simulates_get fun m m' h => ?_
  rw [F.heap h]
  refine simulates_bind (simulates_liftM _) fun zero => ?_
  dsimp only
  split
  · exact simulates_bind (simulates_throw _) fun _ => hrest
  · exact hrest

theorem advanceLoop (F : MoveFrame R) (name : String) :
    Simulates R (advanceLoop name) (advanceLoop name) := by
  refine simulates_bind (F.trace _ _) fun _ => simulates_get fun m m' h => ?_
  rw [F.loops h]
  split
  · exact simulates_throw _
  · refine simulates_bind (simulates_liftM _) fun value => ?_
    refine simulates_bind (simulates_modify fun m m' h => ?_) fun _ => ?_
    · rw [F.loops h]
      exact F.setLoops _ h
    · refine simulates_bind (F.setVariable _ value) fun _ => ?_
      refine simulates_bind (simulates_liftM _) fun done => ?_
      split
      · exact simulates_pure _
      · exact F.jumpTo _

theorem receive (F : MoveFrame R) (hphase : ∀ ⦃m m'⦄, R m m' → m.phase = m'.phase)
    (hwaiting : ∀ ⦃m m'⦄ (b : Bool), R m m' → R { m with waiting := b } { m' with waiting := b })
    (name : String) (reply : Reply) : Simulates R (receive name reply) (receive name reply) := by
  refine simulates_get fun m m' h => ?_
  rw [hphase h]
  split
  · exact simulates_pure _
  · split
    · exact simulates_bind (F.finish _) fun _ => simulates_pure _
    · refine simulates_bind (F.setVariable name _) fun _ => ?_
      refine simulates_bind (simulates_modify fun m m' h => hwaiting false h) fun _ => ?_
      exact simulates_pure _

/-- Consoles that are equal answer alike. -/
theorem ask (F : MoveFrame R) (hphase : ∀ ⦃m m'⦄, R m m' → m.phase = m'.phase)
    (hwaiting : ∀ ⦃m m'⦄ (b : Bool), R m m' → R { m with waiting := b } { m' with waiting := b })
    (hconsole : ∀ ⦃m m'⦄, R m m' → m.console = m'.console)
    (hset : ∀ ⦃m m'⦄ (c : Console), R m m' → R { m with console := c } { m' with console := c })
    (name : String) : Simulates R (ask name) (ask name) := by
  refine simulates_bind (simulates_modify fun m m' h => hwaiting true h) fun _ => ?_
  refine simulates_get fun m m' h => ?_
  rw [hconsole h]
  refine simulates_bind (simulates_set (hset _ h)) fun _ => ?_
  split
  · exact F.receive hphase hwaiting name _
  · exact simulates_pure _

/-- Every command simulates itself; for a pause, a question and a console that is cleared this is up
to the relation. -/
theorem performCommand (F : MoveFrame R) (c : Command)
    (hpause : ∀ f, c = .pause f → ∀ v, Simulates R (pauseFor v) (pauseFor v))
    (hask : ∀ prompt name, c = .input prompt name →
      Simulates R (Machine.ask name) (Machine.ask name))
    (hclear : c.clears = true → Simulates R clearConsole clearConsole) :
    Simulates R (performCommand c) (performCommand c) := by
  cases c with
  | jump target => exact simulates_bind (F.jumpTo target) fun _ => simulates_pure _
  | call target => exact simulates_bind (F.callLine target) fun _ => simulates_pure _
  | comeBack => exact simulates_bind F.returnFromCall fun _ => simulates_pure _
  | halt =>
      exact simulates_bind (simulates_modify fun _ _ h => F.halt h) fun _ => simulates_pure _
  | loop name start stop step =>
      refine simulates_bind (F.evaluate start) fun value => ?_
      refine simulates_bind (F.evaluate step) fun increment => ?_
      refine simulates_bind (F.evaluate stop) fun bound => ?_
      exact simulates_bind (F.startLoop name value increment bound) fun _ => simulates_pure _
  | next name => exact simulates_bind (F.advanceLoop name) fun _ => simulates_pure _
  | pause millis =>
      refine simulates_bind (F.evaluate millis) fun v => ?_
      exact simulates_bind (hpause millis rfl v) fun _ => simulates_pure _
  | input prompt name =>
      cases prompt with
      | none => exact hask none name rfl
      | some text => exact simulates_bind (F.writeText text) fun _ => hask _ name rfl
  | _ => exact F.toDataFrame.performCommand rfl hclear

end MoveFrame

namespace PerformFrame

/-- Every command simulates itself; for a pause and a question this is up to the relation. -/
theorem performCommand (F : PerformFrame R) (c : Command)
    (hpause : ∀ f, c = .pause f → ∀ v, Simulates R (pauseFor v) (pauseFor v))
    (hask : ∀ prompt name, c = .input prompt name →
      Simulates R (Machine.ask name) (Machine.ask name)) :
    Simulates R (performCommand c) (performCommand c) :=
  F.toMoveFrame.performCommand c hpause hask fun _ => F.clearConsole

theorem performInstruction (F : PerformFrame R)
    (hpause : ∀ v, Simulates R (pauseFor v) (pauseFor v))
    (hask : ∀ name, Simulates R (Machine.ask name) (Machine.ask name)) (i : Instruction) :
    Simulates R (performInstruction i) (performInstruction i) := by
  rw [performInstruction_eq]
  refine simulates_bind (F.choose i) fun c => ?_
  cases c with
  | none => exact simulates_pure _
  | some c => exact F.performCommand c (fun _ _ => hpause) fun _ name _ => hask name

/-- A step looks up the line at the cursor and performs it. -/
theorem step (F : PerformFrame R)
    (hpause : ∀ v, Simulates R (pauseFor v) (pauseFor v))
    (hask : ∀ name, Simulates R (Machine.ask name) (Machine.ask name)) :
    Simulates R step step := by
  refine simulates_get fun m m' h => ?_
  rw [F.program h, F.cursor h]
  split
  · have hend : Simulates R
        (do Machine.finish (some (.run (.missingLine m'.cursor) (some m'.cursor)))
            return Reaction.quiet : Action Reaction)
        (do Machine.finish (some (.run (.missingLine m'.cursor) (some m'.cursor)))
            return Reaction.quiet) :=
      simulates_bind (F.finish _) fun _ => simulates_pure _
    dsimp only
    split
    · exact simulates_bind (simulates_throw _) fun _ => hend
    · exact hend
  · refine simulates_bind (F.trace _ _) fun _ => simulates_bind (F.trace _ _) fun _ => ?_
    refine simulates_tryCatch (F.performInstruction hpause hask _) fun fault => ?_
    exact simulates_bind (F.finish _) fun _ => simulates_pure _

end PerformFrame

/-- A property of one machine that survives whatever a statement writes, a pause and a question
apart. -/
structure Unaffected (P : Machine → Prop) : Prop where
  display : ∀ ⦃m⦄ (d : Option Display), P m → P { m with display := d }
  dice : ∀ ⦃m⦄ (d : Dice), P m → P { m with dice := d }
  log : ∀ ⦃m⦄ (l : Array LogRecord), P m → P { m with log := l }
  vars : ∀ ⦃m⦄ (v : Table String Value), P m → P { m with vars := v }
  heap : ∀ ⦃m⦄ (h : Heap), P m → P { m with heap := h }
  loops : ∀ ⦃m⦄ (l : Table String Loop), P m → P { m with loops := l }
  stack : ∀ ⦃m⦄ (s : List Int), P m → P { m with stack := s }
  jump : ∀ ⦃m⦄ (line : Int), P m → P { m with cursor := line, jumped := true }
  halt : ∀ ⦃m⦄, P m → P { m with halted := true }
  write : ∀ ⦃m⦄ (text : String), P m → P { m with console := m.console.write text }
  clear : ∀ ⦃m⦄, P m → P { m with console := m.console.clear }
  ending : ∀ ⦃m⦄, P m → P { cancelTimer m with phase := .ended }
  completion : ∀ ⦃m⦄ (c : Completion), P m → P { m with completion := c }

namespace Unaffected

variable {P : Machine → Prop}

theorem trace (U : Unaffected P) (level : Int) (message : String) :
    Simulates (Below P) (trace level message) (trace level message) := by
  refine simulates_trace ?_ ?_ ?_ level message
  · rintro m _ ⟨rfl, h⟩; rfl
  · rintro m _ ⟨rfl, h⟩; rfl
  · rintro m _ r ⟨rfl, h⟩; exact ⟨rfl, U.log _ h⟩

theorem finish (U : Unaffected P) (fault : Option Fault) :
    Simulates (Below P) (finish fault) (finish fault) := by
  refine simulates_finish U.trace ?_ ?_ ?_ ?_ ?_ fault
  · rintro m _ ⟨rfl, h⟩; rfl
  · rintro m _ ⟨rfl, h⟩; rfl
  · rintro m _ ⟨rfl, h⟩; rfl
  · rintro m _ ⟨rfl, h⟩; exact ⟨rfl, U.ending h⟩
  · rintro m _ c ⟨rfl, h⟩; exact ⟨rfl, U.completion c h⟩

/-- A property that statements do not affect is a frame below equality. -/
theorem performFrame (U : Unaffected P) : PerformFrame (Below P) where
  constants := by rintro m _ ⟨rfl, h⟩; rfl
  functions := by rintro m _ ⟨rfl, h⟩; rfl
  heap := by rintro m _ ⟨rfl, h⟩; rfl
  vars := by rintro m _ ⟨rfl, h⟩; rfl
  display := by rintro m _ ⟨rfl, h⟩; rfl
  dice := by rintro m _ ⟨rfl, h⟩; rfl
  setDisplay := by rintro m _ d ⟨rfl, h⟩; exact ⟨rfl, U.display d h⟩
  setDice := by rintro m _ d ⟨rfl, h⟩; exact ⟨rfl, U.dice d h⟩
  push := by rintro m _ r ⟨rfl, h⟩; exact ⟨rfl, U.log _ h⟩
  stop := by
    intro m m' name _ _
    refine simulates_stop (U.finish none) ?_ ?_
    · rintro m _ ⟨rfl, h⟩; rfl
    · rintro m _ ⟨rfl, h⟩; exact ⟨rfl, U.halt h⟩
  cursor := by rintro m _ ⟨rfl, h⟩; rfl
  program := by rintro m _ ⟨rfl, h⟩; rfl
  loops := by rintro m _ ⟨rfl, h⟩; rfl
  stack := by rintro m _ ⟨rfl, h⟩; rfl
  setVars := by rintro m _ v ⟨rfl, h⟩; exact ⟨rfl, U.vars v h⟩
  setHeap := by rintro m _ v ⟨rfl, h⟩; exact ⟨rfl, U.heap v h⟩
  setLoops := by rintro m _ l ⟨rfl, h⟩; exact ⟨rfl, U.loops l h⟩
  setStack := by rintro m _ s ⟨rfl, h⟩; exact ⟨rfl, U.stack s h⟩
  jump := by rintro m _ line ⟨rfl, h⟩; exact ⟨rfl, U.jump line h⟩
  halt := by rintro m _ ⟨rfl, h⟩; exact ⟨rfl, U.halt h⟩
  write := by rintro m _ text ⟨rfl, h⟩; exact ⟨rfl, U.write text h⟩
  clear := by rintro m _ ⟨rfl, h⟩; exact ⟨rfl, U.clear h⟩
  trace := U.trace
  finish := U.finish

/-- A pause keeps a property that is not about the delay. -/
theorem pauseFor (U : Unaffected P)
    (hdelay : ∀ ⦃m⦄ (d : Option Value), P m → P { m with delay := d }) (v : Value) :
    Simulates (Below P) (Machine.pauseFor v) (Machine.pauseFor v) := by
  refine simulates_pauseFor U.performFrame.heap U.trace ?_ v
  rintro m _ d ⟨rfl, h⟩
  exact ⟨rfl, hdelay d h⟩

/-- A question keeps a property that is not about the console and not about waiting. -/
theorem ask (U : Unaffected P) (hwaiting : ∀ ⦃m⦄ (b : Bool), P m → P { m with waiting := b })
    (hconsole : ∀ ⦃m⦄ (c : Console), P m → P { m with console := c }) (name : String) :
    Simulates (Below P) (ask name) (ask name) := by
  refine U.performFrame.ask ?_ ?_ ?_ ?_ name
  · rintro m _ ⟨rfl, h⟩; rfl
  · rintro m _ b ⟨rfl, h⟩; exact ⟨rfl, hwaiting b h⟩
  · rintro m _ ⟨rfl, h⟩; rfl
  · rintro m _ c ⟨rfl, h⟩; exact ⟨rfl, hconsole c h⟩

/-- A command keeps a property that statements do not affect; for a pause and a question this is up
to the property. -/
theorem performChosen (U : Unaffected P) {c : Option Command}
    (hpause : ∀ f, c = some (.pause f) →
      ∀ v, Simulates (Below P) (Machine.pauseFor v) (Machine.pauseFor v))
    (hask : ∀ prompt name, c = some (.input prompt name) →
      Simulates (Below P) (Machine.ask name) (Machine.ask name))
    {m : Machine} (h : P m) : P ((performChosen c).run.run m).2 := by
  cases c with
  | none => exact h
  | some c =>
      have hcommand := U.performFrame.performCommand c
        (fun f hc => hpause f (congrArg some hc))
        (fun prompt name hc => hask prompt name (congrArg some hc))
      exact hcommand.keeps h

end Unaffected

end Machine

end LineBasic

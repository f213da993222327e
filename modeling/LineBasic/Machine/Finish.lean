import LineBasic.Machine.Basic

/-!
# Ending a run

A run ends once. Ending it cancels the timer of a pause, records how the run came out, and leaves
the flags of the run as they are. A request to stop ends a suspended run at once; a run that is
under way ends after its current statement.
-/

namespace LineBasic.Machine

def record (level : LogLevel) (message : String) : Action Unit :=
  modify fun m => { m with log := m.log.push { level := level, message := message } }

/-- Logs a message about the current line from a trace level on. -/
def trace (level : Int) (message : String) : Action Unit := do
  let m ← get
  if level ≤ m.traceLevel then
    record .debug ("Debug " ++ Decimal.intText m.cursor ++ ": " ++ message)

def currentLine (m : Machine) : Option Int := if 0 ≤ m.cursor then some m.cursor else none

def cancelTimer (m : Machine) : Machine :=
  match m.timer with
  | some id => { m with timers := m.timers.cancel id, timer := none }
  | none => m

/-- Records how the run came out. A run that has already been completed cannot be completed again.
-/
def complete (outcome : Outcome) : Action Unit := do
  match (← get).completion with
  | .absent => return
  | .pending => modify fun m => { m with completion := .done outcome }
  | .done _ => throw .alreadyCompleted

/-- The wording of a fault, which cannot be written when its line number is too long. -/
def describe (fault : Fault) : Except Fault String :=
  match fault.line? with
  | none => .ok fault.message
  | some n =>
    match Decimal.writeInt? n with
    | some _ => .ok fault.message
    | none => .error .badValue

/-- Ends the run, unless it has ended. A fault without a line belongs to the current one. -/
def finish (fault : Option Fault) : Action Unit := do
  if (← get).phase = .ended then return
  modify fun m => { cancelTimer m with phase := .ended }
  match fault with
  | none =>
    trace 1 "program ended"
    complete {}
  | some fault =>
    let line := (← get).currentLine
    let fault := fault.atLine line
    let message ← liftM (describe fault)
    trace 1 ("program ended with error: " ++ message)
    complete { fault := some fault, line := line }

/-- Asks for the run to end after the current statement. -/
def halt : Action Unit := modify fun m => { m with halted := true }

/-- Asks for the run to end: a suspended one ends at once. -/
def stop : Action Unit := do
  if (← get).phase = .ended then return
  halt
  let m ← get
  if m.phase = .paused ∨ m.phase = .waiting then finish none

/-- Asks for the run to end while a statement of it may be under way elsewhere. -/
def stopElsewhere : Action Unit := do
  if (← get).phase = .ended then return
  halt

end LineBasic.Machine

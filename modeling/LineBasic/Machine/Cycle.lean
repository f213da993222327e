import LineBasic.Machine.Perform

/-!
# Running a program

A cycle performs the statement at the cursor and moves the cursor to the next line, or leaves it
where a jump has put it. Then the run may end because it was asked to, or be suspended by a pause or
a missing reply. A run is a sequence of cycles; it need not come to an end, so it is followed for a
given number of cycles.
-/

namespace LineBasic.Machine

/-- Performs the statement at the cursor. A fault in it ends the run. -/
def step : Action Reaction := do
  let m ← get
  match m.program.find? m.cursor with
  | none =>
    if (Decimal.writeInt? m.cursor).isNone then throw .badValue
    finish (some (.run (.missingLine m.cursor) (some m.cursor)))
    return .quiet
  | some line =>
    trace 1 "step"
    trace 2 line.dump.record
    tryCatch (performInstruction line.instruction) fun fault => do
      finish (some fault)
      return .quiet

/-- What becomes of a run: cycles follow, or it has ended or been suspended. -/
inductive Progress where
  | goesOn
  | stops
deriving DecidableEq, Repr

def seconds (millis : Value) : Except Fault Float := do
  match ← millis.div (.int 1000) with
  | .number (.real x) => return x
  | _ => throw .wrongType

/-- Suspends the run until a timer fires. -/
def suspend (millis : Value) : Action Progress := do
  modify fun m => { m with phase := .paused }
  let delay ← liftM (seconds millis)
  modify fun m =>
    let (id, timers) := m.timers.set delay
    { m with timers := timers, timer := some id }
  return .stops

/-- Goes on, unless a reply is due. -/
def awaitReply : Action Progress := do
  if (← get).waiting then
    modify fun m => { m with phase := .waiting }
    return .stops
  return .goesOn

/-- What happens between two statements: the run ends if it was asked to, a pause or a missing reply
suspends it, and otherwise it goes on. -/
def boundary : Action Progress := do
  let m ← get
  if m.halted then
    finish none
    return .stops
  set { m with delay := none }
  match m.delay with
  | some millis =>
    if m.heap.isTrue millis then suspend millis else awaitReply
  | none => awaitReply

/-- One statement and what follows it. -/
def cycle : Action Progress := do
  let _ ← step
  let m ← get
  if m.phase = .ended then return .stops
  if m.jumped then
    set { m with jumped := false }
    boundary
  else
    match m.program.next? m.cursor with
    | none =>
      finish none
      return .stops
    | some line =>
      set { m with cursor := (line.number : Int) }
      boundary

/-- Something that may take many cycles: it has no result when the cycles allowed do not suffice. -/
abbrev Course := ExceptT Fault (StateT Machine Option)

/-- An action as a course of no cycles. -/
def course {α : Type} (action : Action α) : Course α := fun m => some (action.run.run m)

/-- Follows a run for at most the given number of cycles. -/
def follow : Nat → Course Unit
  | 0 => fun _ => none
  | cycles + 1 => fun m =>
    match cycle.run.run m with
    | (.ok .goesOn, m') => follow cycles m'
    | (.ok .stops, m') => some (.ok (), m')
    | (.error fault, m') => some (.error fault, m')

/-- An action and then the run that it lets go on, for at most the given number of cycles. -/
def followed (cycles : Nat) (action : Action Progress) : Course Unit := do
  if (← course action) = .goesOn then follow cycles

def execute : Action Progress := do
  modify fun m => { m with phase := .running }
  return .goesOn

/-- Lets a suspended run go on, or ends it if it was asked to end. -/
def goOn : Action Progress := do
  if (← get).halted then
    finish none
    return .stops
  execute

end LineBasic.Machine

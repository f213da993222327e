import LineBasic.Machine.Cycle

/-!
# Requests to the machine

Everything that can be asked of a machine from outside: to run a program, to deliver a reply or a
key, to fire timers, to stop, and to perform single operations of a program by hand. A request may
start or take up a run, which is then followed for a given number of cycles.
-/

namespace LineBasic.Machine

/-- The machine at the start of a run. What a former run has left behind is gone, except for the
console, the display and the timers. -/
def reset (m : Machine) : Machine :=
  { m with
    vars := .empty, program := .empty, cursor := -1, loops := .empty, stack := [],
    jumped := false, delay := none, halted := false, waiting := false, timer := none,
    completion := .pending, phase := .running }

/-- Starts a run. A program that cannot be loaded ends its run at once. -/
def start (source : String) : Action Progress := do
  let phase := (← get).phase
  if phase = .running ∨ phase = .paused ∨ phase = .waiting then throw (.run .alreadyRunning none)
  modify reset
  match Program.load source with
  | .error fault =>
    if !fault.ofLanguage then throw fault
    finish (some fault)
    return .stops
  | .ok program =>
    modify fun m => { m with program := program }
    match program.first? with
    | none =>
      finish none
      return .stops
    | some line =>
      modify fun m => { m with cursor := (line.number : Int) }
      execute

def resume : Action Progress := do
  if (← get).phase = .ended then return .stops
  modify fun m => { m with waiting := false }
  if (← get).phase = .waiting then goOn else return .stops

def wake : Action Progress := do
  modify fun m => { m with timer := none }
  if (← get).phase = .paused then goOn else return .stops

def react (reaction : Reaction) : Action Progress := do
  if reaction = .replied ∧ (← get).phase = .waiting then goOn else return .stops

def feed (reply : Reply) : Action Progress := do
  let m ← get
  let (name, console) := m.console.feed reply
  set { m with console := console }
  match name with
  | some name => react (← receive name reply)
  | none => return .stops

def press (key : String) : Action Unit := do
  match (← get).display with
  | some d => modify fun m => { m with display := some (d.press key) }
  | none => throw .absent

/-- Takes the oldest live timer off the queue: whether there was one. -/
def popTimer : Action Bool := do
  let m ← get
  let (fires, timers) := m.timers.pop
  set { m with timers := timers }
  return fires

/-- Fires the oldest live timer: whether there was one. -/
def tick (cycles : Nat) : Course Bool := do
  let fires ← course popTimer
  if fires then followed cycles wake
  return fires

/-- Fires timers until none is left, at most the given number: how many there were. -/
def tickAll (cycles : Nat) : Nat → Course Nat
  | 0 => fun _ => none
  | ticks + 1 => do
    if ← tick cycles then return (← tickAll cycles ticks) + 1
    else return 0

def run (cycles : Nat) (source : String) : Course Unit := followed cycles (start source)

/-- Performs the statement at the cursor by hand. A fault of the run that it takes up ends that run.
-/
def stepByHand (cycles : Nat) : Course Unit := do
  let reaction ← course step
  tryCatch (followed cycles (react reaction)) fun fault => course (finish (some fault))

/-- Performs a line that is not part of the program. -/
def performLine (text : String) : Action Progress := do
  let line ← liftM (parseLine text)
  react (← performInstruction line.instruction)

inductive Request where
  | run (source : String)
  | feed (reply : Reply)
  | press (key : String)
  | tick
  | tickAll
  | stop
  | stopElsewhere
  | resume
  | wake
  | finish (fault : Option Fault)
  | execute
  | step
  | moveCursor (line : Int)
  | evaluate (code : String)
  | getVariable (name : String)
  | setVariable (name : String) (value : Value)
  | declareArray (name : String)
  | setElement (name : String) (index value : Value)
  | getElement (name : String) (index : Value)
  | getConstant (name : String)
  | callFunction (name : String) (args : List Value)
  | jumpTo (line : Int)
  | pauseFor (millis : Value)
  | halt
  | callLine (line : Int)
  | returnFromCall
  | startLoop (name : String) (value increment bound : Value)
  | advanceLoop (name : String)
  | printValue (value : Value)
  | clearAll
  | clearConsole
  | clearDisplay
  | plot (x y color : Value)
  | colorAt (x y : Value)
  | readKey
  | performLine (text : String)

def silently (action : Action Unit) : Course Value := do
  course action
  return .nothing

def following (cycles : Nat) (action : Action Progress) : Course Value := do
  followed cycles action
  return .nothing

/-- Answers a request, following a run for at most the given number of cycles. -/
def handle (cycles : Nat) : Request → Course Value
  | .run source => following cycles (start source)
  | .feed reply => following cycles (feed reply)
  | .press key => silently (press key)
  | .tick => do return .truth (← tick cycles)
  | .tickAll => do return .int (← tickAll cycles cycles)
  | .stop => silently stop
  | .stopElsewhere => silently stopElsewhere
  | .resume => following cycles resume
  | .wake => following cycles wake
  | .finish fault => silently (finish fault)
  | .execute => following cycles execute
  | .step => do
    stepByHand cycles
    return .nothing
  | .moveCursor line => silently (modify fun m => { m with cursor := line, jumped := false })
  | .evaluate code => course (evaluateText code)
  | .getVariable name => course (getVariable name)
  | .setVariable name value => silently (setVariable name value)
  | .declareArray name => silently (declareArray name)
  | .setElement name index value => silently (setElement name index value)
  | .getElement name index => course (getElement name index)
  | .getConstant name => course (getConstant name)
  | .callFunction name args => course (callFunction name args)
  | .jumpTo line => silently (jumpTo line)
  | .pauseFor millis => silently (pauseFor millis)
  | .halt => silently halt
  | .callLine line => silently (callLine line)
  | .returnFromCall => silently returnFromCall
  | .startLoop name value increment bound => silently (startLoop name value increment bound)
  | .advanceLoop name => silently (advanceLoop name)
  | .printValue value => silently (printValue value)
  | .clearAll => silently do
    clearConsole
    clearDisplay
  | .clearConsole => silently clearConsole
  | .clearDisplay => silently clearDisplay
  | .plot x y color => silently (plot x y color)
  | .colorAt x y => course (colorAt x y)
  | .readKey => course readKey
  | .performLine text => following cycles (performLine text)

end LineBasic.Machine

import LineBasic.Machine.Evaluate

/-!
# Performing statements

What each statement does to the machine. A statement evaluates all its expressions before it changes
anything. `INPUT` asks the console: a reply that is there at once is stored at once, otherwise the
question is held and the run will wait.
-/

namespace LineBasic.Machine

/-- Whether performing a statement has delivered a reply, after which a waiting run may go on. -/
inductive Reaction where
  | quiet
  | replied
deriving DecidableEq, Repr

def write (text : String) : Action Unit :=
  modify fun m => { m with console := m.console.write text }

def printValue (v : Value) : Action Unit := do
  write (← liftM ((← get).heap.displayText v))

/-- The text of the items of `PRINT`, with a blank after each comma. -/
def itemTexts : List PrintItem → Action String
  | [] => return ""
  | item :: rest => do
    let v ← evaluate item.formula
    let text ← liftM ((← get).heap.displayText v)
    let gap := if item.separator == some .comma then " " else ""
    return text ++ gap ++ (← itemTexts rest)

/-- Whether `PRINT` ends the line: unless a separator follows the last item. -/
def endsLine (items : List PrintItem) : Bool :=
  match items.getLast? with
  | some item => item.separator.isNone
  | none => true

/-- Goes to a line after the current statement. -/
def jumpTo (line : Int) : Action Unit := do
  match Decimal.writeInt? line with
  | none => throw .badValue
  | some digits =>
    trace 1 ("goto " ++ digits)
    modify fun m => { m with cursor := line, jumped := true }

/-- Goes to a line and remembers to come back to the next one; after the last line, to the number
that follows it. -/
def callLine (line : Int) : Action Unit := do
  modify fun m =>
    let back := match m.program.next? m.cursor with
      | some l => (l.number : Int)
      | none => m.cursor + 1
    { m with stack := back :: m.stack }
  jumpTo line

/-- Goes back to where the latest call came from. -/
def returnFromCall : Action Unit := do
  match (← get).stack with
  | [] => throw (.run .returnWithoutCall none)
  | back :: rest =>
    modify fun m => { m with stack := rest }
    jumpTo back

/-- Opens a loop over the lines that follow. On the last line there are none, and the run ends. -/
def startLoop (name : String) (value increment bound : Value) : Action Unit := do
  trace 1 ("marking loop " ++ name)
  if ← liftM ((← get).heap.equal increment (.int 0)) then throw (.run (.zeroStep name) none)
  setVariable name value
  let m ← get
  match m.program.next? m.cursor with
  | none => finish none
  | some l =>
    let loop : Loop :=
      { name := name, value := value, increment := increment, bound := bound, line := l.number }
    set { m with loops := m.loops.insert name loop }

/-- Takes a loop one step further, and goes back to its start unless the bound is reached. -/
def advanceLoop (name : String) : Action Unit := do
  trace 1 ("jumping to loop " ++ name)
  match (← get).loops.get? name with
  | none => throw (.run (.nextWithoutFor name) none)
  | some loop =>
    let value ← liftM (loop.value.plus loop.increment)
    let loop := { loop with value := value }
    modify fun m => { m with loops := m.loops.insert name loop }
    setVariable loop.name value
    if ← liftM loop.finished then return
    jumpTo loop.line

/-- Asks for a pause in milliseconds; a negative one counts as none. -/
def pauseFor (millis : Value) : Action Unit := do
  let text ← liftM ((← get).heap.plainText millis)
  trace 1 ("pause " ++ text)
  let delay := if ← liftM (millis.greater (.int 0)) then millis else .int 0
  modify fun m => { m with delay := some delay }

/-- Stores a reply in a variable, unless the run has ended. A reply that cannot be stored ends it.
-/
def receive (name : String) (reply : Reply) : Action Reaction := do
  if (← get).phase = .ended then return .quiet
  match replyValue name reply with
  | .error fault =>
    finish (some fault)
    return .quiet
  | .ok value =>
    setVariable name value
    modify fun m => { m with waiting := false }
    return .replied

def ask (name : String) : Action Reaction := do
  modify fun m => { m with waiting := true }
  let m ← get
  let (reply, console) := m.console.ask name
  set { m with console := console }
  match reply with
  | some reply => receive name reply
  | none => return .quiet

def plot (x y color : Value) : Action Unit := do
  let d ← liftM ((← needDisplay).plot x y color)
  modify fun m => { m with display := some d }

def clearConsole : Action Unit := modify fun m => { m with console := m.console.clear }

def clearDisplay : Action Unit := do
  let d ← needDisplay
  modify fun m => { m with display := some d.clear }

def performCommand : Command → Action Reaction
  | .print items => do
    let text ← itemTexts items
    write (text ++ if endsLine items then "\n" else "")
    return .quiet
  | .assign name none value => do
    setVariable name (← evaluate value)
    return .quiet
  | .assign name (some index) value => do
    let v ← evaluate value
    setElement name (← evaluate index) v
    return .quiet
  | .remark _ => return .quiet
  | .jump target => do
    jumpTo target
    return .quiet
  | .call target => do
    callLine target
    return .quiet
  | .comeBack => do
    returnFromCall
    return .quiet
  | .halt => do
    halt
    return .quiet
  | .loop name start stop step => do
    let value ← evaluate start
    let increment ← evaluate step
    startLoop name value increment (← evaluate stop)
    return .quiet
  | .next name => do
    advanceLoop name
    return .quiet
  | .pause millis => do
    pauseFor (← evaluate millis)
    return .quiet
  | .input prompt name => do
    if let some text := prompt then write text
    ask name
  | .array name => do
    declareArray name
    return .quiet
  | .plot x y color => do
    let vx ← evaluate x
    let vy ← evaluate y
    plot vx vy (← evaluate color)
    return .quiet
  | .clearAll => do
    clearConsole
    clearDisplay
    return .quiet
  | .clearConsole => do
    clearConsole
    return .quiet
  | .clearDisplay => do
    clearDisplay
    return .quiet

def performInstruction : Instruction → Action Reaction
  | .command c => performCommand c
  | .branch condition yes no => do
    let v ← evaluate condition
    if (← get).heap.isTrue v then performCommand yes
    else
      match no with
      | some c => performCommand c
      | none => return .quiet

end LineBasic.Machine

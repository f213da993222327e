import LineBasic.Machine.Finish

/-!
# Evaluating expressions

The operands of an operator, the subscript of an element and the arguments of a call are evaluated
from left to right, each once, before the operator, the element or the function is looked at. `AND`
and `OR` evaluate both sides. An expression changes nothing but the queue of keys, unless it calls a
function that asks the machine to stop.
-/

namespace LineBasic.Machine

/-- The value of a variable, zero when it has none. -/
def getVariable (name : String) : Action Value := do
  return ((← get).vars.get? name).getD (.int 0)

def setVariable (name : String) (value : Value) : Action Unit :=
  modify fun m => { m with vars := m.vars.insert name value }

def declareArray (name : String) : Action Unit :=
  modify fun m =>
    let (ref, heap) := m.heap.alloc .empty
    { m with heap := heap, vars := m.vars.insert name (.array ref) }

def arrayOf (name : String) : Action Nat := do
  match (← get).vars.get? name with
  | some (.array ref) => return ref
  | _ => throw (.run (.notAnArray name) none)

/-- The element of an array, zero when it was never written. -/
def getElement (name : String) (index : Value) : Action Value := do
  let ref ← arrayOf name
  let key ← liftM index.asKey
  return (((← get).heap.cells ref).get? key).getD (.int 0)

def setElement (name : String) (index value : Value) : Action Unit := do
  let ref ← arrayOf name
  let key ← liftM index.asKey
  modify fun m => { m with heap := m.heap.write ref key value }

def getConstant (name : String) : Action Value := do
  match (← get).constants.get? name with
  | some value => return value
  | none => throw (.run (.undefinedConstant name) none)

def needDisplay : Action Display := do
  match (← get).display with
  | some d => return d
  | none => throw (.run .noDisplay none)

def colorAt (x y : Value) : Action Value := do
  liftM ((← needDisplay).color x y)

/-- The oldest key not yet read, which is taken off the queue. -/
def readKey : Action Value := do
  let (key, d) := (← needDisplay).readKey
  modify fun m => { m with display := some d }
  return .text key

def rollDice : Action Nat := do
  modify fun m => { m with dice := m.dice.next }
  return (← get).dice.roll

def applyFunction (f : Function) (args : List Value) : Action Value := do
  match f, args with
  | .builtin f, args =>
    let roll ← if f.isRandom then rollDice else pure 0
    liftM (f.apply (← get).heap roll args)
  | .double, [v] => liftM (v.mul (.int 2))
  | .stop, [] =>
    stop
    return .int 0
  | _, _ => throw .wrongType

/-- Calls the function of a name, in letters of either case. Two functions read the display. -/
def callFunction (name : String) (args : List Value) : Action Value := do
  let key := Text.upper name
  if key == "COLOR" then
    match args with
    | [x, y] => colorAt x y
    | _ => throw .wrongType
  else if key == "GETCHAR" then
    match args with
    | [] => readKey
    | _ => throw .wrongType
  else
    match (← get).functions.get? key with
    | some f => applyFunction f args
    | none => throw (.run (.unknownFunction name) none)

/-- The value of a number as it is written: with a point or an exponent a floating-point number, an
integer otherwise. -/
def numeral (digits : String) : Except Fault Value :=
  if digits.toList.any fun c => c == '.' || c == 'e' || c == 'E' then
    match Decimal.readReal? digits.toList with
    | some x => .ok (.real x)
    | none => .error .badValue
  else
    match Decimal.readInt? digits.toList with
    | some n => .ok (.int n)
    | none => .error .badValue

def applyUnary (h : Heap) : UnaryOp → Value → Except Fault Value
  | .not, v => .ok (.flag (!h.isTrue v))
  | .neg, v => v.neg
  | .pos, v => v.pos

def applyBinary (h : Heap) : BinaryOp → Value → Value → Except Fault Value
  | .or, a, b => .ok (.flag (h.isTrue a || h.isTrue b))
  | .and, a, b => .ok (.flag (h.isTrue a && h.isTrue b))
  | .eq, a, b => do return .flag (← h.equal a b)
  | .ne, a, b => do return .flag (!(← h.equal a b))
  | .lt, a, b => do return .flag (← a.less b)
  | .gt, a, b => do return .flag (← a.greater b)
  | .le, a, b => do return .flag (← a.lessEq b)
  | .ge, a, b => do return .flag (← a.greaterEq b)
  | .add, a, b => h.add a b
  | .sub, a, b => a.sub b
  | .mul, a, b => a.mul b
  | .div, a, b => a.div b
  | .mod, a, b => h.mod a b
  | .pow, a, b => a.pow b

mutual

def evalExpr : Expr → Action Value
  | .number digits => liftM (numeral digits)
  | .literal quoted => do return .text (← liftM (decodeText quoted))
  | .var name => getVariable name
  | .element name index => do getElement name (← evalExpr index)
  | .constant name => getConstant name
  | .call name args => do callFunction name (← evalAll args)
  | .unary op operand => do
    let v ← evalExpr operand
    liftM (applyUnary (← get).heap op v)
  | .binary op left right => do
    let a ← evalExpr left
    let b ← evalExpr right
    liftM (applyBinary (← get).heap op a b)

/-- The values of several expressions, from left to right. -/
def evalAll : List Expr → Action (List Value)
  | [] => return []
  | e :: rest => do
    let v ← evalExpr e
    return v :: (← evalAll rest)

end

/-- Logs that an action for an expression failed, and lets it fail. -/
def logging (code : String) (action : Action Value) : Action Value :=
  tryCatch action fun fault => do
    record .error ("Error evaluating code: " ++ code)
    throw fault

def evaluate (f : Formula) : Action Value := logging f.text (evalExpr f.tree)

def evaluateText (code : String) : Action Value :=
  logging code do evalExpr (← liftM (parseExpression code))

end LineBasic.Machine

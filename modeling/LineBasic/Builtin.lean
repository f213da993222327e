import LineBasic.Text.Case
import LineBasic.Text.Literal
import LineBasic.Text.Slice
import LineBasic.Value.Arithmetic
import LineBasic.Value.Compare

/-!
# Built-in functions

The functions that an expression can call, other than those that read the display. They look at the
store of arrays but change nothing. A call with the wrong number of arguments is a fault.
-/

namespace LineBasic

inductive Builtin where
  | abs
  | sin
  | cos
  | tan
  | atn
  | sqr
  | exp
  | log
  | int
  | round
  | sgn
  | rnd
  | random
  | min
  | max
  | len
  | str
  | val
  | upper
  | lower
  | left
  | right
  | mid
  | chr
  | asc
deriving DecidableEq, Repr

namespace Builtin

def names : List (String × Builtin) :=
  [("ABS", .abs), ("SIN", .sin), ("COS", .cos), ("TAN", .tan), ("ATN", .atn), ("SQR", .sqr),
   ("EXP", .exp), ("LOG", .log), ("INT", .int), ("ROUND", .round), ("SGN", .sgn), ("RND", .rnd),
   ("RANDOM", .random), ("MIN", .min), ("MAX", .max), ("LEN", .len), ("STR", .str), ("VAL", .val),
   ("UPPER", .upper), ("LOWER", .lower), ("LEFT", .left), ("RIGHT", .right), ("MID", .mid),
   ("CHR", .chr), ("ASC", .asc)]

def ofName? (name : String) : Option Builtin := (names.find? (·.1 == name)).map (·.2)

def isRandom : Builtin → Bool
  | .rnd => true
  | .random => true
  | _ => false

def numberArg (v : Value) : Except Fault Number :=
  match v.number? with
  | some x => .ok x
  | none => .error .wrongType

def onNumber (f : Number → Except Fault Number) (v : Value) : Except Fault Value := do
  return .number (← f (← numberArg v))

/-- Rounds to a number of places, to an integer when none is given. -/
def roundValue (v : Value) : Value → Except Fault Value
  | .nothing => onNumber Number.round v
  | places => do
    let x ← numberArg v
    match places.count? with
    | some n => return .number (← x.roundTo n)
    | none => throw .wrongType

/-- The largest number of values to draw from must be positive. -/
def drawBelow (roll : Nat) (v : Value) : Except Fault Value := do
  let n ← v.toInt
  if 0 < n then return .int (Int.emod roll n) else throw .badValue

/-- The values that a single argument of `MIN` or `MAX` offers: the characters of a text, the
subscripts of an array. -/
def choices (h : Heap) : Value → Except Fault (List Value)
  | .text s => .ok (s.toList.map fun c => .text (String.singleton c))
  | .array r => .ok (h.cells r).keys
  | _ => .error .wrongType

/-- The first of the values that none of the others beats. -/
def best (beats : Value → Value → Except Fault Bool) : List Value → Except Fault Value
  | [] => .error .badValue
  | first :: others =>
    others.foldlM (fun winner v => do return if ← beats v winner then v else winner) first

/-- The best of the arguments, or of what a single argument offers. -/
def bestOf (beats : Value → Value → Except Fault Bool) (h : Heap) :
    List Value → Except Fault Value
  | [] => .error .wrongType
  | [v] => do best beats (← choices h v)
  | args => best beats args

/-- The text of a value; a floating-point number without fraction looks like an integer. -/
def textOf (h : Heap) : Value → Except Fault String
  | .number x => x.displayText
  | v => h.plainText v

def valueOf (h : Heap) (v : Value) : Except Fault Value := do
  match Number.read? (Text.trim (← h.plainText v).toList) with
  | some x => return .number x
  | none => throw .badValue

def leftPart (h : Heap) (v n : Value) : Except Fault Value := do
  let s ← h.plainText v
  let n ← n.toInt
  return .text (String.ofList (Text.sliceTo s.toList n))

def rightPart (h : Heap) (v n : Value) : Except Fault Value := do
  let n ← n.toInt
  if 0 < n then
    let s ← h.plainText v
    return .text (String.ofList (Text.sliceFrom s.toList (-n)))
  else return .text ""

/-- The characters of a text from a position on, counted from one, all of them or a number of them.
-/
def middlePart (v start length : Value) : Except Fault Value := do
  let first := (← start.toInt) - 1
  let stop ← match length with
    | .nothing => pure none
    | _ => do pure (some (first + (← length.toInt)))
  match v, stop with
  | .text s, none => return .text (String.ofList (Text.sliceFrom s.toList first))
  | .text s, some stop => return .text (String.ofList (Text.slice s.toList first stop))
  | _, _ => throw .wrongType

def charOf (v : Value) : Except Fault Value := do
  let n ← v.toInt
  if n < -2147483648 ∨ 2147483648 ≤ n then throw .tooLarge
  else if n < 0 then throw .badValue
  else
    match Text.charOfCode? n.toNat with
    | some c => return .text (String.singleton c)
    | none => throw .badValue

def codeOf (h : Heap) (v : Value) : Except Fault Value := do
  match (← h.plainText v).toList with
  | c :: _ => return .int c.toNat
  | [] => throw .emptyText

def fraction (roll : Nat) : Float :=
  (Binary.ofRatio? false (roll % Nat.pow 2 53) (Nat.pow 2 53)).getD 0

/-- Applies a function to its arguments. `roll` is the next random number. -/
def apply (h : Heap) (roll : Nat) : Builtin → List Value → Except Fault Value
  | .abs, [v] => onNumber Number.abs v
  | .sin, [v] => onNumber (Number.applyReal Float.sin .badValue) v
  | .cos, [v] => onNumber (Number.applyReal Float.cos .badValue) v
  | .tan, [v] => onNumber (Number.applyReal Float.tan .badValue) v
  | .atn, [v] => onNumber (Number.applyReal Float.atan .badValue) v
  | .sqr, [v] => onNumber (Number.applyReal Float.sqrt .badValue) v
  | .exp, [v] => onNumber (Number.applyReal Float.exp .tooLarge) v
  | .log, [v] => onNumber (fun x => do return .real (← x.log)) v
  | .log, [v, base] => do
    let x ← (← numberArg v).log
    let y ← (← numberArg base).log
    if y == 0 then throw .divisionByZero else return .real (x / y)
  | .int, [v] => onNumber (fun x => do return .int (← x.floor)) v
  | .round, [v] => roundValue v .nothing
  | .round, [v, places] => roundValue v places
  | .sgn, [v] => onNumber Number.sign v
  | .rnd, [] => .ok (.real (fraction roll))
  | .random, [v] => drawBelow roll v
  | .min, args => bestOf Value.less h args
  | .max, args => bestOf Value.greater h args
  | .len, [v] => do return .int (← h.plainText v).length
  | .str, [v] => do return .text (← textOf h v)
  | .val, [v] => valueOf h v
  | .upper, [v] => do return .text (Text.upper (← h.plainText v))
  | .lower, [v] => do return .text (Text.lower (← h.plainText v))
  | .left, [v, n] => leftPart h v n
  | .right, [v, n] => rightPart h v n
  | .mid, [v, start] => middlePart v start .nothing
  | .mid, [v, start, length] => middlePart v start length
  | .chr, [v] => charOf v
  | .asc, [v] => codeOf h v
  | _, _ => .error .wrongType

end Builtin

end LineBasic

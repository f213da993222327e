import LineBasic.Decimal.Numeral
import LineBasic.Number.Power
import LineBasic.Value.Template

/-!
# Operations on values

Numbers and truth values take part in arithmetic. A sum with a text joins the texts that `PRINT`
would show, a text times an integer repeats it, and the remainder of a text fills a template. All
other combinations are faults.
-/

namespace LineBasic

def onNumbers (op : Number → Number → Except Fault Number) (a b : Value) : Except Fault Value :=
  match a.number?, b.number? with
  | some x, some y => do return .number (← op x y)
  | _, _ => .error .wrongType

/-- Largest length of a text that a repetition may give. -/
def lengthLimit : Nat := Nat.pow 2 63 - 1

/-- A text written a number of times, nothing for a negative number. -/
def repeatText (s : String) (n : Int) : Except Fault Value :=
  if (lengthLimit : Int) < n ∨ n < -(lengthLimit : Int) - 1 ∨
      (lengthLimit : Int) < n * s.length then .error .tooLarge
  else if s.isEmpty then .ok (.text "")
  else .ok (.text (String.ofList (List.replicate n.toNat s.toList).flatten))

/-- Sum of two values, texts joined only to texts. -/
def Value.plus : Value → Value → Except Fault Value
  | .text s, .text t => .ok (.text (s ++ t))
  | a, b => onNumbers Number.add a b

def Heap.joinShown (h : Heap) (a b : Value) : Except Fault Value := do
  let s ← h.displayText a
  let t ← h.displayText b
  return .text (s ++ t)

/-- Sum of two values; with a text on either side the other one is joined as `PRINT` shows it. -/
def Heap.add (h : Heap) (a b : Value) : Except Fault Value :=
  match a, b with
  | .text _, _ => h.joinShown a b
  | _, .text _ => h.joinShown a b
  | _, _ => onNumbers Number.add a b

def Value.sub (a b : Value) : Except Fault Value := onNumbers Number.sub a b

/-- Product of two values; a text times an integer, on either side, is repeated. -/
def Value.mul (a b : Value) : Except Fault Value :=
  match a, b with
  | .text s, b =>
    match b.count? with
    | some n => repeatText s n
    | none => .error .wrongType
  | a, .text t =>
    match a.count? with
    | some n => repeatText t n
    | none => .error .wrongType
  | a, b => onNumbers Number.mul a b

def Value.div (a b : Value) : Except Fault Value := onNumbers Number.div a b

/-- Remainder of two values; a text is a template to be filled with the other one. -/
def Heap.mod (h : Heap) (a b : Value) : Except Fault Value :=
  match a with
  | .text s => do return .text (← Template.fill h s b)
  | _ => onNumbers Number.mod a b

def Value.pow (a b : Value) : Except Fault Value := onNumbers Number.pow a b

def Value.neg (a : Value) : Except Fault Value :=
  match a.number? with
  | some x => .ok (.number x.neg)
  | none => .error .wrongType

def Value.pos (a : Value) : Except Fault Value :=
  match a.number? with
  | some x => .ok (.number x)
  | none => .error .wrongType

/-- The whole number that a value gives as a position, a coordinate or a count: the integer part of
a number, or an integer read from a text. -/
def Value.toInt : Value → Except Fault Int
  | .text s =>
    match Decimal.readInt? s.toList with
    | some n => .ok n
    | none => .error .badValue
  | v =>
    match v.number? with
    | some x => x.truncate
    | none => .error .wrongType

end LineBasic

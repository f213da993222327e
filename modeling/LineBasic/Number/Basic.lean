import LineBasic.Decimal.Numeral
import LineBasic.Fault

/-!
# Numbers

A number is an integer of any size, a floating-point number, or a complex number with two
floating-point parts. Operations on two numbers of different kinds take place in the wider kind; an
integer that is too large to be widened is a fault.
-/

namespace LineBasic

inductive Number where
  | int (n : Int)
  | real (x : Float)
  | complex (re im : Float)

namespace Number

def widen (n : Int) : Except Fault Float :=
  match Binary.ofInt? n with
  | some x => .ok x
  | none => .error .tooLarge

/-- Two numbers in the wider of their kinds. -/
inductive Pair where
  | ints (a b : Int)
  | reals (x y : Float)
  | complexes (re im re' im' : Float)

/-- Brings two numbers to one kind. -/
def pair : Number → Number → Except Fault Pair
  | .int a, .int b => .ok (.ints a b)
  | .int a, .real y => do return .reals (← widen a) y
  | .real x, .int b => do return .reals x (← widen b)
  | .real x, .real y => .ok (.reals x y)
  | .complex re im, .complex re' im' => .ok (.complexes re im re' im')
  | .int a, .complex re' im' => do return .complexes (← widen a) 0 re' im'
  | .complex re im, .int b => do return .complexes re im (← widen b) 0
  | .real x, .complex re' im' => .ok (.complexes x 0 re' im')
  | .complex re im, .real y => .ok (.complexes re im y 0)

def isTrue : Number → Bool
  | .int n => n != 0
  | .real x => x != 0
  | .complex re im => re != 0 || im != 0

/-- The number as text, an integer in full. -/
def text : Number → Except Fault String
  | .int n =>
    match Decimal.writeInt? n with
    | some s => .ok s
    | none => .error .badValue
  | .real x => .ok (Decimal.realText x)
  | .complex re im => .ok (Decimal.complexText re im)

/-- The number that a text spells: an integer if it is one, else a floating-point number. -/
def read? (cs : List Char) : Option Number :=
  match Decimal.readInt? cs with
  | some n => some (.int n)
  | none => (Decimal.readReal? cs).map .real

end Number

end LineBasic

import LineBasic.Number.Basic

/-!
# The four operations and the remainder

Integers stay integers under addition, subtraction, multiplication and remainder; a quotient is
always a floating-point number, correctly rounded. The remainder has the sign of the divisor.
-/

namespace LineBasic.Number

def add (a b : Number) : Except Fault Number := do
  match ← pair a b with
  | .ints m n => return .int (m + n)
  | .reals x y => return .real (x + y)
  | .complexes re im re' im' => return .complex (re + re') (im + im')

def sub (a b : Number) : Except Fault Number := do
  match ← pair a b with
  | .ints m n => return .int (m - n)
  | .reals x y => return .real (x - y)
  | .complexes re im re' im' => return .complex (re - re') (im - im')

def complexMul (re im re' im' : Float) : Float × Float :=
  (re * re' - im * im', re * im' + im * re')

def mul (a b : Number) : Except Fault Number := do
  match ← pair a b with
  | .ints m n => return .int (m * n)
  | .reals x y => return .real (x * y)
  | .complexes re im re' im' =>
    let (r, i) := complexMul re im re' im'
    return .complex r i

/-- Quotient of two complex numbers, dividing through by the larger part of the divisor; `none` when
the divisor is zero. -/
def complexDiv? (re im re' im' : Float) : Option (Float × Float) :=
  if im'.abs ≤ re'.abs then
    if re' == 0 then none
    else
      let ratio := im' / re'
      let den := re' + im' * ratio
      some ((re + im * ratio) / den, (im - re * ratio) / den)
  else if re'.abs ≤ im'.abs then
    let ratio := re' / im'
    let den := re' * ratio + im'
    some ((re * ratio + im) / den, (im * ratio - re) / den)
  else some (Binary.notANumber, Binary.notANumber)

def div (a b : Number) : Except Fault Number := do
  match ← pair a b with
  | .ints m n =>
    if n = 0 then throw .divisionByZero
    else
      match Binary.ofRatio? (decide (m < 0) != decide (n < 0)) m.natAbs n.natAbs with
      | some q => return .real q
      | none => throw .tooLarge
  | .reals x y => if y == 0 then throw .divisionByZero else return .real (x / y)
  | .complexes re im re' im' =>
    match complexDiv? re im re' im' with
    | some (r, i) => return .complex r i
    | none => throw .divisionByZero

/-- Remainder of a division, with the sign of the divisor. -/
def mod (a b : Number) : Except Fault Number :=
  match a, b with
  | .complex .., _ => .error .wrongType
  | _, .complex .. => .error .wrongType
  | _, _ => do
    match ← pair a b with
    | .ints m n => if n = 0 then throw .divisionByZero else return .int (Int.fmod m n)
    | .reals x y => if y == 0 then throw .divisionByZero else return .real (Binary.floorMod x y)
    | .complexes .. => throw .wrongType

def neg : Number → Number
  | .int n => .int (-n)
  | .real x => .real (-x)
  | .complex re im => .complex (-re) (-im)

def abs : Number → Except Fault Number
  | .int n => .ok (.int n.natAbs)
  | .real x => .ok (.real x.abs)
  | .complex re im =>
    match Binary.hypot? re im with
    | some r => .ok (.real r)
    | none => .error .tooLarge

end LineBasic.Number

import LineBasic.Number.Arithmetic

/-!
# Powers

An integer to a natural power is an integer. A negative base to a fractional power is complex. A
finite base whose power would be infinite is a fault, as is zero to a negative power.
-/

namespace LineBasic.Number

def isOddInteger (x : Float) : Bool :=
  match Binary.toInt? x with
  | some n => n % 2 != 0
  | none => false

/-- A complex number by repeated squaring to a natural power, times `acc`. -/
def complexPowNat (acc base : Float × Float) : Nat → Nat → Float × Float
  | 0, _ => acc
  | _, 0 => acc
  | fuel + 1, n =>
    let acc' := if n % 2 = 1 then complexMul acc.1 acc.2 base.1 base.2 else acc
    complexPowNat acc' (complexMul base.1 base.2 base.1 base.2) fuel (n / 2)

/-- A complex number to a complex power in polar form. An infinite angle is a fault. -/
def complexPowPolar (re im re' im' : Float) : Except Fault (Float × Float) :=
  if re' == 0 && im' == 0 then .ok (1, 0)
  else if re == 0 && im == 0 then
    if im' != 0 || re' < 0 then .error .divisionByZero else .ok (0, 0)
  else
    let radius := (Binary.hypot? re im).getD (Binary.infinity false)
    let angle := Float.atan2 im re
    let size := radius.pow re'
    let turn := angle * re'
    let (size, turn) :=
      if im' != 0 then (size / (angle * im').exp, turn + im' * radius.log) else (size, turn)
    if turn.isInf then .error .divisionByZero else .ok (size * turn.cos, size * turn.sin)

/-- A complex number to a complex power: small integer powers by multiplication, all others in polar
form. -/
def complexPow (re im re' im' : Float) : Except Fault Number := do
  let small := match Binary.toInt? re' with
    | some n => if im' == 0 ∧ n.natAbs ≤ 100 then some n else none
    | none => none
  let (r, i) ← match small with
    | some n =>
      let p := complexPowNat (1, 0) (re, im) 8 n.natAbs
      if 0 < n then pure p
      else
        match complexDiv? 1 0 p.1 p.2 with
        | some q => pure q
        | none => throw .divisionByZero
    | none => complexPowPolar re im re' im'
  if r.isInf || i.isInf then throw .tooLarge else return .complex r i

def realPow (x y : Float) : Except Fault Number :=
  if y == 0 then .ok (.real 1)
  else if x.isNaN then .ok (.real x)
  else if y.isNaN then .ok (.real (if x == 1 then 1 else y))
  else if y.isInf then
    let a := x.abs
    if a == 1 then .ok (.real 1)
    else if decide (0 < y) == decide (1 < a) then .ok (.real y.abs)
    else .ok (.real 0)
  else if x.isInf then
    if 0 < y then .ok (.real (if isOddInteger y then x else x.abs))
    else .ok (.real (if isOddInteger y then Binary.zero (Binary.isNegative x) else 0))
  else if x == 0 then
    if y < 0 then .error .divisionByZero
    else .ok (.real (if isOddInteger y then x else 0))
  else if x < 0 && !Binary.isIntegral y then complexPow x 0 y 0
  else
    let flip := x < 0 && isOddInteger y
    let p := x.abs.pow y
    if p.isInf then .error .tooLarge else .ok (.real (if flip then -p else p))

/-- An integer to a natural power. The powers of zero, one and minus one depend only on whether the
exponent is zero, odd or even. -/
def intPow (m : Int) (n : Nat) : Int :=
  if m.natAbs ≤ 1 then if n = 0 then 1 else if n % 2 = 1 then m else m * m
  else Int.pow m n

def pow (a b : Number) : Except Fault Number :=
  match a, b with
  | .int m, .int n =>
    if 0 ≤ n then .ok (.int (intPow m n.toNat))
    else do realPow (← widen m) (← widen n)
  | _, _ => do
    match ← pair a b with
    | .ints m n => realPow (← widen m) (← widen n)
    | .reals x y => realPow x y
    | .complexes re im re' im' => complexPow re im re' im'

end LineBasic.Number

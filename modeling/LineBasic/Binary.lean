/-!
# Binary floating point, exactly

A finite floating-point number is an integer times a power of two. `view` takes a number apart in
this form and `ofRatio?` goes back: it gives the nearest number to any fraction, the even one of two
equally near. Everything that has to be exact, comparison with integers, remainders, rounding to
decimal places and both directions of decimal text, is done on this view in whole numbers.
-/

namespace LineBasic.Binary

/-- What a floating-point number is: an integer times a power of two, an infinity, or no number. -/
inductive View where
  | finite (negative : Bool) (mantissa : Nat) (exponent : Int)
  | infinite (negative : Bool)
  | nan
deriving DecidableEq, Repr

def view (x : Float) : View :=
  let bits : Nat := x.toBits.toNat
  let negative := decide (Nat.pow 2 63 ≤ bits)
  let field : Nat := bits / Nat.pow 2 52 % 2048
  let fraction : Nat := bits % Nat.pow 2 52
  if field = 2047 then if fraction = 0 then .infinite negative else .nan
  else if field = 0 then .finite negative fraction (-1074)
  else .finite negative (Nat.pow 2 52 + fraction) ((field : Int) - 1075)

def ofBits (negative : Bool) (bits : Nat) : Float :=
  Float.ofBits (UInt64.ofNat (bits + if negative then Nat.pow 2 63 else 0))

def zero (negative : Bool) : Float := ofBits negative 0

def infinity (negative : Bool) : Float := ofBits negative (2047 * Nat.pow 2 52)

def notANumber : Float := ofBits false (2047 * Nat.pow 2 52 + Nat.pow 2 51)

/-- The sign bit, which zeros have too. -/
def isNegative (x : Float) : Bool := decide (Nat.pow 2 63 ≤ x.toBits.toNat)

def isFinite (x : Float) : Bool :=
  match view x with
  | .finite .. => true
  | _ => false

/-- The integer nearest to `a / b`, the even one of two equally near. -/
def roundDiv (a b : Nat) : Nat :=
  let q := a / b
  let r := a % b
  if 2 * r < b then q
  else if b < 2 * r then q + 1
  else if q % 2 = 0 then q else q + 1

/-- A fraction times `2 ^ (-e)`, as numerator and denominator. -/
def scaleDown (num den : Nat) (e : Int) : Nat × Nat :=
  if 0 ≤ e then (num, den * Nat.pow 2 e.toNat) else (num * Nat.pow 2 (-e).toNat, den)

/-- The exponent of the highest bit of the fraction `num / den`. -/
def log2Ratio (num den : Nat) : Int :=
  let e : Int := (num.log2 : Int) - den.log2
  let (a, b) := scaleDown num den e
  if b ≤ a then e else e - 1

/-- The floating-point number nearest to `num / den` with the given sign, the even one of two
equally near; `none` when it is beyond the largest finite number. -/
def ofRatio? (negative : Bool) (num den : Nat) : Option Float :=
  if num = 0 then some (zero negative)
  else
    let e := max (log2Ratio num den - 52) (-1074)
    let (a, b) := scaleDown num den e
    let bits := (e + 1074).toNat * Nat.pow 2 52 + roundDiv a b
    if bits < 2047 * Nat.pow 2 52 then some (ofBits negative bits) else none

/-- The floating-point number nearest to an integer, `none` when it is too large. -/
def ofInt? (n : Int) : Option Float := ofRatio? (decide (n < 0)) n.natAbs 1

/-- An integer times a power of two as a fraction. -/
def ratio (mantissa : Nat) (exponent : Int) : Nat × Nat := scaleDown mantissa 1 (-exponent)

def signed (negative : Bool) (n : Nat) : Int := if negative then -(n : Int) else n

/-- The integer that a finite number is, `none` if it has a fractional part or is not finite. -/
def toInt? (x : Float) : Option Int :=
  match view x with
  | .finite negative m e =>
    let (a, b) := ratio m e
    if a % b = 0 then some (signed negative (a / b)) else none
  | _ => none

def isIntegral (x : Float) : Bool := (toInt? x).isSome

/-- The integer part of a number, towards zero; `none` if it is not finite. -/
def truncate? (x : Float) : Option Int :=
  match view x with
  | .finite negative m e =>
    let (a, b) := ratio m e
    some (signed negative (a / b))
  | _ => none

def floor? (x : Float) : Option Int :=
  match view x with
  | .finite negative m e =>
    let (a, b) := ratio m e
    some (Int.fdiv (signed negative a) b)
  | _ => none

/-- The integer nearest to a number, the even one of two equally near; `none` if it is not finite.
-/
def round? (x : Float) : Option Int :=
  match view x with
  | .finite negative m e =>
    let (a, b) := ratio m e
    some (signed negative (roundDiv a b))
  | _ => none

/-- A finite number rounded to a multiple of `10 ^ (-places)`, the even one of two equally near, and
from there to the nearest floating-point number; `none` when that is too large. A number that is not
finite stays as it is. -/
def roundPlaces? (x : Float) (places : Int) : Option Float :=
  match view x with
  | .finite negative m e =>
    if 323 < places then some x
    else if places < -308 then some (zero negative)
    else
      let (a, b) := ratio m e
      if 0 ≤ places then
        let scale := Nat.pow 10 places.toNat
        ofRatio? negative (roundDiv (a * scale) b) scale
      else
        let scale := Nat.pow 10 (-places).toNat
        ofRatio? negative (roundDiv a (b * scale) * scale) 1
  | _ => some x

/-- The integer nearest to `n` that is a multiple of `10 ^ places`, the even multiple of two equally
near. -/
def roundTens (n : Int) (places : Nat) : Int :=
  signed (decide (n < 0)) (roundDiv n.natAbs (Nat.pow 10 places) * Nat.pow 10 places)

/-- The order of an integer and a floating-point number, compared exactly; `none` for no number. -/
def compareInt? (n : Int) (x : Float) : Option Ordering :=
  match view x with
  | .nan => none
  | .infinite negative => some (if negative then .gt else .lt)
  | .finite negative m e =>
    let (a, b) := ratio m e
    some (compare (n * b) (signed negative a))

/-- The remainder of the division of two finite magnitudes, exactly. -/
def remainder (m : Nat) (e : Int) (m' : Nat) (e' : Int) : Nat × Int :=
  let low := min e e'
  ((m * Nat.pow 2 (e - low).toNat) % (m' * Nat.pow 2 (e' - low).toNat), low)

/-- The remainder with the sign of the dividend; no number when the dividend is infinite or the
divisor is zero. -/
def truncatedMod (x y : Float) : Float :=
  match view x, view y with
  | .finite negative m e, .finite _ m' e' =>
    if m' = 0 then notANumber
    else
      let (r, low) := remainder m e m' e'
      let (a, b) := ratio r low
      (ofRatio? negative a b).getD notANumber
  | .finite .., .infinite _ => x
  | _, _ => notANumber

/-- The remainder with the sign of the divisor. -/
def floorMod (x y : Float) : Float :=
  let r := truncatedMod x y
  if r == 0 then zero (isNegative y)
  else if decide (y < 0) != decide (r < 0) then r + y
  else r

/-- Newton's iteration for the square root of `n`, downwards from `x`. -/
def squareRootFrom (n : Nat) : Nat → Nat → Nat
  | 0, x => x
  | fuel + 1, x =>
    let y := (x + n / x) / 2
    if y < x then squareRootFrom n fuel y else x

/-- The largest integer whose square is at most `n`. -/
def squareRoot (n : Nat) : Nat :=
  if n = 0 then 0 else squareRootFrom n (n.log2 + 2) (Nat.pow 2 (n.log2 / 2 + 1))

/-- The length of the hypotenuse over two finite legs, rounded to the nearest number;
`none` when it is too large. -/
def hypot? (x y : Float) : Option Float :=
  match view x, view y with
  | .finite _ m e, .finite _ m' e' =>
    let low := min e e'
    let a := m * Nat.pow 2 (e - low).toNat
    let b := m' * Nat.pow 2 (e' - low).toNat
    let s := squareRoot ((a * a + b * b) * Nat.pow 2 256)
    let sticky := if s * s = (a * a + b * b) * Nat.pow 2 256 then 2 * s else 2 * s + 1
    let (num, den) := ratio sticky (low - 129)
    ofRatio? false num den
  | .infinite _, _ => some (infinity false)
  | _, .infinite _ => some (infinity false)
  | _, _ => some notANumber

end LineBasic.Binary

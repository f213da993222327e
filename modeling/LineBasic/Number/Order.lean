import LineBasic.Number.Basic

/-!
# Comparing numbers

Integers and floating-point numbers are compared by value, exactly and without rounding either of
them. The number that is no number differs from every number, itself included, and is neither below
nor above any. Complex numbers are equal or different but have no order.
-/

namespace LineBasic.Number

def equal : Number → Number → Bool
  | .int a, .int b => a == b
  | .int a, .real y => Binary.compareInt? a y == some .eq
  | .real x, .int b => Binary.compareInt? b x == some .eq
  | .real x, .real y => x == y
  | .complex re im, .complex re' im' => re == re' && im == im'
  | .int a, .complex re' im' => Binary.compareInt? a re' == some .eq && im' == 0
  | .complex re im, .int b => Binary.compareInt? b re == some .eq && im == 0
  | .real x, .complex re' im' => x == re' && im' == 0
  | .complex re im, .real y => re == y && im == 0

/-- The order of two floating-point numbers, `none` when one of them is no number. -/
def compareReals? (x y : Float) : Option Ordering :=
  if x < y then some .lt else if y < x then some .gt else if x == y then some .eq else none

/-- The order of two numbers: `none` when one of them is no number. Complex numbers have no order.
-/
def order : Number → Number → Except Fault (Option Ordering)
  | .int a, .int b => .ok (some (compare a b))
  | .int a, .real y => .ok (Binary.compareInt? a y)
  | .real x, .int b => .ok ((Binary.compareInt? b x).map Ordering.swap)
  | .real x, .real y => .ok (compareReals? x y)
  | _, _ => .error .wrongType

end LineBasic.Number

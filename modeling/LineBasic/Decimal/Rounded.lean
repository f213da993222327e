import LineBasic.Decimal.Notation

/-!
# Numbers written to a precision

A floating-point number can be written with a given number of places behind the point, with one
digit before the point and an exponent, or with a given number of significant digits in the way that
is shorter. The digits are those of the exact value, rounded to the nearest and to the even one of
two equally near, however many are asked for.
-/

namespace LineBasic.Decimal

open LineBasic.Binary

def zeroFilled (width : Nat) (digits : List Char) : List Char :=
  List.replicate (width - digits.length) '0' ++ digits

/-- The point goes when nothing stands behind it, unless it is to be kept. -/
def pointed (keepPoint : Bool) (whole fraction : List Char) : List Char :=
  if fraction.isEmpty && !keepPoint then whole else whole ++ '.' :: fraction

/-- A fraction times `10 ^ k`, as numerator and denominator. -/
def scaleTens (num den : Nat) (k : Int) : Nat × Nat :=
  if 0 ≤ k then (num * Nat.pow 10 k.toNat, den) else (num, den * Nat.pow 10 (-k).toNat)

/-- The first `count` digits of `m * 2 ^ e` and the position of its decimal point, as in
`0.digits * 10 ^ point`. Rounding up can carry into one digit more, a zero that is cut off again. -/
def significant (count : Nat) (m : Nat) (e : Int) : List Char × Int :=
  if m = 0 then (List.replicate count '0', 1)
  else
    let (num, den) := ratio m e
    let point := pointOf num den
    let (a, b) := scaleTens num den (count - point)
    let digits := digitsOf (roundDiv a b)
    (digits.take count, point + (digits.length - count))

/-- The ways to write a number to a precision. -/
inductive Style where
  | fixed
  | scientific
  | general
deriving DecidableEq, Repr

def fixedText (keepPoint : Bool) (places m : Nat) (e : Int) : List Char :=
  let (num, den) := ratio m e
  let digits := zeroFilled (places + 1) (digitsOf (roundDiv (num * Nat.pow 10 places) den))
  let (whole, fraction) := digits.splitAt (digits.length - places)
  pointed keepPoint whole fraction

def withExponent (keepPoint : Bool) (digits : List Char) (point : Int) : List Char :=
  pointed keepPoint (digits.take 1) (digits.drop 1) ++ plainLayout.exponent (point - 1)

/-- Digits with the point where it belongs. -/
def positional (keepPoint : Bool) (digits : List Char) (point : Int) : List Char :=
  if point ≤ 0 then pointed keepPoint ['0'] (List.replicate (-point).toNat '0' ++ digits)
  else
    let whole := digits.take point.toNat
    pointed keepPoint (whole ++ List.replicate (point.toNat - whole.length) '0')
      (digits.drop point.toNat)

def scientificText (keepPoint : Bool) (places m : Nat) (e : Int) : List Char :=
  let (digits, point) := significant (places + 1) m e
  withExponent keepPoint digits point

/-- Zeros at the end stay only when the point is kept. -/
def generalText (keepPoint : Bool) (count m : Nat) (e : Int) : List Char :=
  let (digits, point) := significant count m e
  let digits := if keepPoint then digits else (digits.reverse.dropWhile (· == '0')).reverse
  if -4 < point ∧ point ≤ count then positional keepPoint digits point
  else withExponent keepPoint digits point

/-- The magnitude of a number to a precision. At least one digit is significant. -/
def Style.text (style : Style) (keepPoint : Bool) (precision : Nat) (x : Float) : List Char :=
  match view x with
  | .nan => "nan".toList
  | .infinite _ => "inf".toList
  | .finite _ m e =>
    match style with
    | .fixed => fixedText keepPoint precision m e
    | .scientific => scientificText keepPoint precision m e
    | .general => generalText keepPoint (max precision 1) m e

end LineBasic.Decimal

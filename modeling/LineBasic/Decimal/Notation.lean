import LineBasic.Decimal.Shortest

/-!
# Numbers as text

Integers are written in full, up to a limit on the number of digits. Floating-point numbers are
written with the fewest digits that read back, positionally while the exponent is between -4 and 15
and with a two-digit exponent otherwise.
-/

namespace LineBasic.Decimal

open LineBasic.Binary

/-- The most digits that an integer may have to be written or read. -/
def digitLimit : Nat := 4300

def intDigits (n : Int) : List Char :=
  if n < 0 then '-' :: digitsOf n.natAbs else digitsOf n.natAbs

/-- An integer in full, however long. -/
def intText (n : Int) : String := String.ofList (intDigits n)

/-- An integer as text, `none` when it has too many digits. -/
def writeInt? (n : Int) : Option String :=
  if n.natAbs < Nat.pow 10 digitLimit then some (intText n) else none

/-- How floating-point numbers are laid out. -/
structure Layout where
  /-- The largest exponent written positionally. -/
  highest : Int
  /-- The smallest exponent written positionally. -/
  lowest : Int
  /-- The fewest digits of an exponent. -/
  exponentWidth : Nat
  /-- What follows a number without fractional digits. -/
  wholeMark : String

/-- The layout of a number that stands alone. -/
def plainLayout : Layout := { highest := 15, lowest := -4, exponentWidth := 2, wholeMark := ".0" }

/-- The layout of the parts of a complex number. -/
def partLayout : Layout := { plainLayout with wholeMark := "" }

def Layout.exponent (l : Layout) (e : Int) : List Char :=
  let digits := digitsOf e.natAbs
  'e' :: (if e < 0 then '-' else '+') ::
    (List.replicate (l.exponentWidth - digits.length) '0' ++ digits)

/-- Digits laid out around a decimal point. -/
def Layout.arrange (l : Layout) (digits : List Char) (point : Int) : List Char :=
  let e := point - 1
  if l.lowest ≤ e ∧ e ≤ l.highest then
    if point ≤ 0 then '0' :: '.' :: (List.replicate (-point).toNat '0' ++ digits)
    else
      let whole := point.toNat
      if digits.length ≤ whole then
        digits ++ List.replicate (whole - digits.length) '0' ++ l.wholeMark.toList
      else digits.take whole ++ '.' :: digits.drop whole
  else
    let (first, others) := digits.splitAt 1
    first ++ (if others.isEmpty then [] else '.' :: others) ++ l.exponent e

def Layout.magnitude (l : Layout) (m : Nat) (e : Int) : List Char :=
  if m = 0 then '0' :: l.wholeMark.toList
  else
    let (digits, point) := shortest m e
    l.arrange digits point

def Layout.text (l : Layout) (x : Float) : String :=
  match view x with
  | .nan => "nan"
  | .infinite negative => if negative then "-inf" else "inf"
  | .finite negative m e =>
    String.ofList ((if negative then ['-'] else []) ++ l.magnitude m e)

def realText (x : Float) : String := plainLayout.text x

/-- A complex number: both parts in parentheses, or the imaginary part alone when the real part is
positive zero. -/
def complexText (re im : Float) : String :=
  let imaginary := partLayout.text im
  if re == 0 && !isNegative re then imaginary ++ "j"
  else
    let sign := if imaginary.startsWith "-" then "" else "+"
    "(" ++ partLayout.text re ++ sign ++ imaginary ++ "j)"

end LineBasic.Decimal

import LineBasic.Binary

/-!
# The fewest digits that read back

The text of a floating-point number has as few digits as possible among the decimals that round to
it, and among those of that length it is the nearest. The reals that round to a number form an
interval around it; its ends belong to it when the mantissa is even. On the grid of decimals with
one digit, two digits and so on, the two neighbours of the number are tested against the interval.
-/

namespace LineBasic.Decimal

open LineBasic.Binary

/-- A positive fraction with the ends of the interval that rounds to it, over one denominator. -/
structure Interval where
  low : Nat
  value : Nat
  high : Nat
  den : Nat
  closed : Bool

/-- The interval of reals that round to `m * 2 ^ e`. Below a power of two the gap is half as wide.
-/
def interval (m : Nat) (e : Int) : Interval :=
  let lowGap := if m = Nat.pow 2 52 ∧ -1074 < e then 1 else 2
  let (value, den) := ratio (4 * m) (e - 2)
  let (unit, _) := ratio 1 (e - 2)
  { low := value - lowGap * unit, value := value, high := value + 2 * unit, den := den,
    closed := m % 2 = 0 }

def Interval.holds (i : Interval) (c : Nat) (k : Int) : Bool :=
  let num := if 0 ≤ k then c * Nat.pow 10 k.toNat * i.den else c * i.den
  let scale := if 0 ≤ k then 1 else Nat.pow 10 (-k).toNat
  if i.closed then decide (i.low * scale ≤ num) && decide (num ≤ i.high * scale)
  else decide (i.low * scale < num) && decide (num < i.high * scale)

/-- The position `p` of the decimal point with `10 ^ (p - 1) ≤ value < 10 ^ p`, searched upwards
from a lower bound. -/
def pointFrom (num den : Nat) : Nat → Int → Int
  | 0, p => p
  | fuel + 1, p =>
    let below := if 0 ≤ p then decide (num < den * Nat.pow 10 p.toNat)
      else decide (num * Nat.pow 10 (-p).toNat < den)
    if below then p else pointFrom num den fuel (p + 1)

def pointOf (num den : Nat) : Int :=
  pointFrom num den 8 (Int.fdiv (log2Ratio num den * 30103) 100000 - 1)

/-- The neighbour of the value on the grid of `10 ^ k` that lies in the interval, the nearer of two
and the even one of two equally near. -/
def Interval.onGrid? (i : Interval) (k : Int) : Option Nat :=
  let (a, b) := if 0 ≤ k then (i.value, i.den * Nat.pow 10 k.toNat)
    else (i.value * Nat.pow 10 (-k).toNat, i.den)
  let near := roundDiv a b
  let far := if near * b ≤ a then near + 1 else near - 1
  if i.holds near k then some near
  else if i.holds far k then some far
  else none

/-- The first grid, from `digits` digits on, with a decimal in the interval. -/
def Interval.search (i : Interval) (point : Int) : Nat → Nat → Nat × Int
  | 0, digits => (roundDiv i.value i.den, point - digits)
  | fuel + 1, digits =>
    match i.onGrid? (point - digits) with
    | some c => (c, point - digits)
    | none => i.search point fuel (digits + 1)

def digitsOf (n : Nat) : List Char := Nat.toDigits 10 n

/-- Digits and position of the decimal point of `m * 2 ^ e`, where `m` is positive: the number reads
`0.digits * 10 ^ point`, without needless zeros behind. -/
def shortest (m : Nat) (e : Int) : List Char × Int :=
  let i := interval m e
  let (c, k) := i.search (pointOf i.value i.den) 17 1
  let digits := digitsOf c
  ((digits.reverse.dropWhile (· == '0')).reverse, k + digits.length)

end LineBasic.Decimal

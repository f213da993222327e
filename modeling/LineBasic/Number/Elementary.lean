import LineBasic.Number.Arithmetic

/-!
# Elementary functions

Trigonometry, roots, exponentials and logarithms work on floating-point numbers, to which integers
are widened. An argument outside the domain of a function is a fault, and so is a finite argument
with an infinite result. Logarithms of integers have no upper bound.
-/

namespace LineBasic.Number

/-- A real number as a floating-point number; complex numbers are not real. -/
def toReal : Number → Except Fault Float
  | .int n => widen n
  | .real x => .ok x
  | .complex .. => .error .wrongType

/-- Applies a function to a real number, with a fault outside its domain and for an infinite
result. -/
def applyReal (f : Float → Float) (infinite : Fault) (a : Number) : Except Fault Number := do
  let x ← toReal a
  let y := f x
  if y.isNaN && !x.isNaN then throw .badValue
  else if y.isInf && Binary.isFinite x then throw infinite
  else return .real y

/-- The natural logarithm of a positive integer, by its highest bits when it is too large to be
widened. -/
def logInt (n : Nat) : Float :=
  match Binary.ofInt? n with
  | some x => x.log
  | none =>
    let bits := n.log2 + 1
    match Binary.ofRatio? false n (Nat.pow 2 bits) with
    | some m =>
      if m == 1 then Float.log 0.5 + Float.log 2 * (bits + 1).toFloat
      else m.log + Float.log 2 * bits.toFloat
    | none => Binary.infinity false

def log : Number → Except Fault Float
  | .int n => if 0 < n then .ok (logInt n.toNat) else .error .badValue
  | .real x =>
    if x.isNaN || 0 < x then .ok x.log else .error .badValue
  | .complex .. => .error .wrongType

def sign (a : Number) : Except Fault Number :=
  match a with
  | .int n => .ok (.int n.sign)
  | .real x => .ok (.int (if 0 < x then 1 else if x < 0 then -1 else 0))
  | .complex .. => .error .wrongType

def notFinite (x : Float) : Fault := if x.isNaN then .badValue else .tooLarge

def floor : Number → Except Fault Int
  | .int n => .ok n
  | .real x =>
    match Binary.floor? x with
    | some n => .ok n
    | none => .error (notFinite x)
  | .complex .. => .error .wrongType

def truncate : Number → Except Fault Int
  | .int n => .ok n
  | .real x =>
    match Binary.truncate? x with
    | some n => .ok n
    | none => .error (notFinite x)
  | .complex .. => .error .wrongType

/-- The integer nearest to a number, the even one of two equally near. -/
def round : Number → Except Fault Number
  | .int n => .ok (.int n)
  | .real x =>
    match Binary.round? x with
    | some n => .ok (.int n)
    | none => .error (notFinite x)
  | .complex .. => .error .wrongType

/-- A number rounded to a number of decimal places, which may be negative; its kind stays. -/
def roundTo (a : Number) (places : Int) : Except Fault Number :=
  match a with
  | .int n => .ok (.int (if 0 ≤ places then n else Binary.roundTens n (-places).toNat))
  | .real x =>
    match Binary.roundPlaces? x places with
    | some y => .ok (.real y)
    | none => .error .tooLarge
  | .complex .. => .error .wrongType

end LineBasic.Number

import LineBasic.Decimal.Notation
import LineBasic.Text.Blank
import LineBasic.Text.Digit

/-!
# Numbers read from text

A numeral may have blanks around it, a sign, digits of any script, and single underscores between
digits. An integer has digits only; a floating-point number may have a decimal point and an
exponent, and the words for infinity and for no number are read in letters of either case.
-/

namespace LineBasic.Decimal

open LineBasic.Text LineBasic.Binary

def startsWithDigit : List Char → Bool
  | [] => false
  | c :: _ => isDigit c

/-- The longest start of the characters that is digits with single underscores between them: the
digits alone, and what follows. The flag says whether a digit has just been passed. -/
def spanDigitsFrom (afterDigit : Bool) : List Char → List Char × List Char
  | [] => ([], [])
  | c :: rest =>
    if isDigit c then
      let (ds, r) := spanDigitsFrom true rest
      (c :: ds, r)
    else if afterDigit && c == '_' && startsWithDigit rest then spanDigitsFrom false rest
    else ([], c :: rest)

/-- The longest start of the characters that is digits with single underscores between them. -/
def spanDigits (cs : List Char) : List Char × List Char := spanDigitsFrom false cs

/-- A sign in front: whether it is a minus, and what follows. -/
def spanSign : List Char → Bool × List Char
  | '-' :: rest => (true, rest)
  | '+' :: rest => (false, rest)
  | cs => (false, cs)

/-- The blanks that may stand around a numeral: all but the four information separators. -/
def isMargin (c : Char) : Bool := isBlank c && !(0x1c ≤ c.toNat && c.toNat ≤ 0x1f)

def dropMargins (cs : List Char) : List Char :=
  ((cs.dropWhile isMargin).reverse.dropWhile isMargin).reverse

/-- An integer read from text, `none` when it is not one or has too many digits. -/
def readInt? (cs : List Char) : Option Int :=
  let (negative, body) := spanSign (dropMargins cs)
  match spanDigits body with
  | ([], _) => none
  | (digits, []) =>
    if digits.length ≤ digitLimit then some (signed negative (digitsValue digits)) else none
  | _ => none

/-- The floating-point number nearest to `digits * 10 ^ exponent`, infinite when it is too large. -/
def ofDecimal (negative : Bool) (digits : List Char) (exponent : Int) : Float :=
  let significant := digits.dropWhile fun c => digitValue? c == some 0
  let point := (significant.length : Int) + exponent
  if significant.isEmpty ∨ point < -400 then zero negative
  else if 400 < point then infinity negative
  else
    let n := digitsValue significant
    let r := if 0 ≤ exponent then ofRatio? negative (n * Nat.pow 10 exponent.toNat) 1
      else ofRatio? negative n (Nat.pow 10 (-exponent).toNat)
    r.getD (infinity negative)

/-- An exponent, when the characters are one or are empty. -/
def readExponent? : List Char → Option Int
  | [] => some 0
  | c :: rest =>
    if c == 'e' || c == 'E' then
      let (negative, body) := spanSign rest
      match spanDigits body with
      | ([], _) => none
      | (digits, []) => some (signed negative (digitsValue digits))
      | _ => none
    else none

/-- An unsigned decimal with an optional point and exponent. -/
def readDecimal? (negative : Bool) (cs : List Char) : Option Float :=
  let (whole, rest) := spanDigits cs
  let (fraction, rest) := match rest with
    | '.' :: more => spanDigits more
    | _ => ([], rest)
  if whole.isEmpty && fraction.isEmpty then none
  else (readExponent? rest).map fun e =>
    ofDecimal negative (whole ++ fraction) (e - fraction.length)

/-- A floating-point number read from text, `none` when it is not one. -/
def readReal? (cs : List Char) : Option Float :=
  let (negative, body) := spanSign (dropMargins cs)
  let word := String.ofList (body.map Char.toLower)
  if word == "inf" || word == "infinity" then some (infinity negative)
  else if word == "nan" then some notANumber
  else readDecimal? negative body

end LineBasic.Decimal

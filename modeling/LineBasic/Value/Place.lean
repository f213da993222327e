import LineBasic.Decimal.Rounded
import LineBasic.Number.Elementary
import LineBasic.Text.Literal
import LineBasic.Value.Quoted

/-!
# Filling a place

A place of a template ends in a letter, which says how a value is written:

* `d`, `i` and `u` take a number without its fraction, `o`, `x` and `X` an integer, written with
  eight or sixteen digits;
* `e`, `f` and `g` take a number, written to a precision, and so do their capitals;
* `c` takes a character or the code of one;
* `s` takes the text of any value, `r` its quoted form, and `a` that form in ASCII.

What is written is brought to the width of the place.
-/

namespace LineBasic.Template

/-- How a place of a template is to be filled. -/
structure Place where
  left : Bool := false
  zeros : Bool := false
  plus : Bool := false
  blank : Bool := false
  alternate : Bool := false
  width : Nat := 0
  precision : Option Nat := none

/-- What the letter of a place asks for. -/
inductive Conversion where
  | text
  | quoted
  | ascii
  | decimal
  | base (n : Nat)
  | real (style : Decimal.Style)
  | character

def Conversion.ofLetter? : Char → Option Conversion
  | 's' => some .text
  | 'r' => some .quoted
  | 'a' => some .ascii
  | 'd' | 'i' | 'u' => some .decimal
  | 'o' => some (.base 8)
  | 'x' | 'X' => some (.base 16)
  | 'e' | 'E' => some (.real .scientific)
  | 'f' | 'F' => some (.real .fixed)
  | 'g' | 'G' => some (.real .general)
  | 'c' => some .character
  | _ => none

/-- The largest width, as a number of characters. -/
def widthLimit : Nat := Nat.pow 2 63 - 1

def precisionLimit : Nat := Nat.pow 2 31 - 1

def Place.pad (p : Place) (cs : List Char) : List Char :=
  let room := List.replicate (p.width - cs.length) ' '
  if p.left then cs ++ room else room ++ cs

def Place.fillText (p : Place) (s : String) : List Char :=
  p.pad (match p.precision with
    | some n => s.toList.take n
    | none => s.toList)

/-- The digits of a number filled into a place, behind its sign and the mark of the digits. Zeros
that fill the width stand behind both. -/
def Place.fillDigits (p : Place) (negative : Bool) (mark digits : List Char) : List Char :=
  let sign := if negative then ['-'] else if p.plus then ['+'] else if p.blank then [' '] else []
  let front := sign ++ mark
  if p.zeros && !p.left then front ++ Decimal.zeroFilled (p.width - front.length) digits
  else p.pad (front ++ digits)

/-- The most digits that an integer can be asked to have. -/
def figureLimit : Nat := precisionLimit - 3

/-- An integer filled into a place with the digits given for it. -/
def Place.fillInt (p : Place) (n : Int) (mark : List Char) (digits? : Option (List Char)) :
    Except Fault (List Char) :=
  if figureLimit < p.precision.getD 0 then .error .tooLarge
  else
    match digits? with
    | some digits =>
      .ok (p.fillDigits (decide (n < 0)) mark (Decimal.zeroFilled (p.precision.getD 0) digits))
    | none => .error .badValue

def Place.fillDecimal (p : Place) (v : Value) : Except Fault (List Char) :=
  match v.number? with
  | some x => do
    let n ← x.truncate
    p.fillInt n [] ((Decimal.writeInt? n.natAbs).map String.toList)
  | none => .error .wrongType

/-- An integer filled into a place with the digits of another base, in capitals when the letter is
one. -/
def Place.fillBase (p : Place) (base : Nat) (letter : Char) (v : Value) :
    Except Fault (List Char) :=
  match v.count? with
  | some n =>
    let digits := Nat.toDigits base n.natAbs
    p.fillInt n (if p.alternate then ['0', letter] else [])
      (some (if letter.isUpper then digits.map Char.toUpper else digits))
  | none => .error .wrongType

/-- The precision of a number that is written without one. -/
def usualPrecision : Nat := 6

/-- A number filled into a place in one of the styles, in capitals when the letter is one. No number
has no sign. -/
def Place.fillReal (p : Place) (style : Decimal.Style) (letter : Char) (v : Value) :
    Except Fault (List Char) :=
  match v.number? with
  | some x => do
    let x ← x.toReal
    let digits := style.text p.alternate (p.precision.getD usualPrecision) x
    return p.fillDigits (Binary.isNegative x && !x.isNaN) []
      (if letter.isUpper then digits.map Char.toUpper else digits)
  | none => .error .wrongType

/-- The character that a value is or has the code of. -/
def charOf : Value → Except Fault Char
  | .text s =>
    match s.toList with
    | [c] => .ok c
    | _ => .error .wrongType
  | v =>
    match v.count? with
    | some n =>
      match if 0 ≤ n then Text.charOfCode? n.toNat else none with
      | some c => .ok c
      | none => .error .tooLarge
    | none => .error .wrongType

/-- The value filled into a place of the given letter. -/
def Place.fill (p : Place) (h : Heap) (letter : Char) (v : Value) : Except Fault (List Char) :=
  match Conversion.ofLetter? letter with
  | some .text => do return p.fillText (← h.plainText v)
  | some .quoted => do return p.fillText (← h.quotedText v)
  | some .ascii => do return p.fillText (Text.asciiOnly (← h.quotedText v))
  | some .decimal => p.fillDecimal v
  | some (.base n) => p.fillBase n letter v
  | some (.real style) => p.fillReal style letter v
  | some .character => do return p.pad [← charOf v]
  | none => .error .badValue

end LineBasic.Template

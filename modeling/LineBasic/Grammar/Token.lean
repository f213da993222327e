import LineBasic.Text.Blank
import LineBasic.Text.Digit

/-!
# Tokens

Each function measures the token of its kind at the start of the characters; zero means that there
is none. Numbers take the longest text they can. A variable is one letter with digits and perhaps a
dollar sign, and must not run into further letters. A name has at least two letters. A string
literal ends at the first double quote that no backslash escapes.
-/

namespace LineBasic.Token

open LineBasic.Text

def isLetter (c : Char) : Bool := 'A' ≤ c && c ≤ 'Z'

/-- What may not follow a variable: a capital letter or an underscore. -/
def isWordStart (c : Char) : Bool := isLetter c || c == '_'

/-- Characters of a name from the third on. -/
def isWordPart (c : Char) : Bool := isWordStart c || c.isDigit

def countWhile (p : Char → Bool) (cs : List Char) : Nat := (cs.takeWhile p).length

def exponentLength : List Char → Nat
  | [] => 0
  | c :: rest =>
    if c == 'e' || c == 'E' then
      let sign := match rest with
        | d :: _ => if d == '+' || d == '-' then 1 else 0
        | [] => 0
      let digits := countWhile isDigit (rest.drop sign)
      if digits = 0 then 0 else 1 + sign + digits
    else 0

def decimalLength (cs : List Char) : Nat :=
  let whole := countWhile isDigit cs
  match cs.drop whole with
  | '.' :: rest =>
    let fraction := countWhile isDigit rest
    if whole = 0 ∧ fraction = 0 then 0 else whole + 1 + fraction
  | _ => whole

def numberLength (cs : List Char) : Nat :=
  let n := decimalLength cs
  if n = 0 then 0 else n + exponentLength (cs.drop n)

def runsOn : List Char → Bool
  | [] => false
  | c :: _ => isWordStart c

/-- The length of a variable. When letters follow, the dollar sign or else the last digit is left
out. -/
def variableLength : List Char → Nat
  | [] => 0
  | c :: rest =>
    if isLetter c then
      let digits := countWhile Char.isDigit rest
      match rest.drop digits with
      | '$' :: more => if runsOn more then 1 + digits else 2 + digits
      | more => if runsOn more then digits else 1 + digits
    else 0

def nameLength : List Char → Nat
  | c :: d :: rest => if isLetter c && isWordStart d then 2 + countWhile isWordPart rest else 0
  | _ => 0

/-- The length of a string literal from inside it on, `n` characters having been passed; the flag
says whether a backslash escapes the next character. -/
def literalLengthFrom (n : Nat) (escaped : Bool) : List Char → Nat
  | [] => 0
  | c :: rest =>
    if c == '\n' then 0
    else if c == '"' && !escaped then n + 1
    else literalLengthFrom (n + 1) (c == '\\' && !escaped) rest

def literalLength : List Char → Nat
  | '"' :: rest => literalLengthFrom 1 false rest
  | _ => 0

/-- The length of a remark: its word alone at the end, or a gap after it and then all the rest. -/
def remarkLength (cs : List Char) : Nat :=
  if "REM".toList.isPrefixOf cs then
    match cs.drop 3 with
    | [] => cs.length
    | c :: _ => if isGap c then cs.length else 0
  else 0

end LineBasic.Token

import LineBasic.Text.Blank
import LineBasic.Text.CharName

/-!
# String literals

A literal stands between double quotes. A backslash starts an escape: a letter for a control
character, one to three octal digits, `x`, `u` or `U` with two, four or eight hexadecimal digits, or
`N` with the name of a character in braces. A backslash at the end of a line vanishes together with
the line break, and a backslash before any other character stands for itself. Literals written one
after another, with only gaps in between, denote one text.

A line break or a null character that is not part of an escape, an escape that breaks off, a code
point out of range and an unknown name make a literal invalid.
-/

namespace LineBasic.Text

/-- The value of a hexadecimal digit, in letters of either case. -/
def hexValue? (c : Char) : Option Nat := upperHexValue? c.toUpper

def octalValue? (c : Char) : Option Nat :=
  if '0' ≤ c ∧ c ≤ '7' then some (c.toNat - '0'.toNat) else none

def hexNumber? (cs : List Char) : Option Nat :=
  (cs.mapM hexValue?).map (·.foldl (fun n d => 16 * n + d) 0)

/-- The character with a code point. Texts are sequences of Unicode scalar values, and half of a
surrogate pair is not one: it gives the replacement character. -/
def charOfCode? (n : Nat) : Option Char :=
  if 0xd800 ≤ n ∧ n < 0xe000 then some (Char.ofNat 0xfffd) else charOfNat? n

def charOfHex? (cs : List Char) : Option Char := (hexNumber? cs).bind charOfCode?

def isLineBreak (c : Char) : Bool := c == '\n' || c == '\r'

/-- The character that a backslash and a letter stand for. -/
def simpleEscape? (c : Char) : Option Char :=
  if c == 'n' then some '\n'
  else if c == 't' then some '\t'
  else if c == 'r' then some '\r'
  else if c == '\\' then some '\\'
  else if c == '"' then some '"'
  else if c == Char.ofNat 39 then some (Char.ofNat 39)
  else if c == 'a' then some (Char.ofNat 7)
  else if c == 'b' then some (Char.ofNat 8)
  else if c == 'f' then some (Char.ofNat 12)
  else if c == 'v' then some (Char.ofNat 11)
  else none

def consChar? (c : Option Char) (cs : Option (List Char)) : Option (List Char) :=
  match c, cs with
  | some c, some cs => some (c :: cs)
  | _, _ => none

mutual

/-- The text of the literals from inside one on. -/
def decodeInside : List Char → Option (List Char)
  | [] => none
  | c :: rest =>
    if c == '"' then decodeBetween rest
    else if isLineBreak c || c.toNat == 0 then none
    else if c == '\\' then decodeEscape rest
    else consChar? (some c) (decodeInside rest)

/-- The text of the literals from after a closing quote on. -/
def decodeBetween : List Char → Option (List Char)
  | [] => some []
  | c :: rest =>
    if c == '"' then decodeInside rest
    else if isGap c then decodeBetween rest
    else none

/-- The text of the literals from after a backslash on. -/
def decodeEscape : List Char → Option (List Char)
  | [] => none
  | 'x' :: a :: b :: rest => consChar? (charOfHex? [a, b]) (decodeInside rest)
  | 'u' :: a :: b :: c :: d :: rest => consChar? (charOfHex? [a, b, c, d]) (decodeInside rest)
  | 'U' :: a :: b :: c :: d :: e :: f :: g :: h :: rest =>
    consChar? (charOfHex? [a, b, c, d, e, f, g, h]) (decodeInside rest)
  | 'N' :: '{' :: rest => decodeName [] rest
  | '\r' :: '\n' :: rest => decodeInside rest
  | c :: rest =>
    if c == 'x' || c == 'u' || c == 'U' || c == 'N' then none
    else if isLineBreak c then decodeInside rest
    else if c.toNat == 0 then none
    else match octalValue? c with
      | some a => decodeOctal a 2 rest
      | none =>
        match simpleEscape? c with
        | some e => consChar? (some e) (decodeInside rest)
        | none => (consChar? (some c) (decodeInside rest)).map ('\\' :: ·)

/-- The text of the literals from inside an octal escape on, which may take `more` further digits
after having come to `n`. -/
def decodeOctal (n : Nat) (more : Nat) : List Char → Option (List Char)
  | [] => none
  | c :: rest =>
    match more, octalValue? c with
    | more + 1, some d => decodeOctal (8 * n + d) more rest
    | _, _ =>
      consChar? (charOfCode? n)
        (if c == '"' then decodeBetween rest
        else if isLineBreak c || c.toNat == 0 then none
        else if c == '\\' then decodeEscape rest
        else consChar? (some c) (decodeInside rest))

/-- The text of the literals from inside the name of a character on, whose letters so far are `name`
in reverse. -/
def decodeName (name : List Char) : List Char → Option (List Char)
  | [] => none
  | c :: rest =>
    if c == '}' then consChar? (charNamed? name.reverse) (decodeInside rest)
    else if isLineBreak c || c == '"' then none
    else decodeName (c :: name) rest

end

/-- The text that a literal denotes, `none` when it is invalid. -/
def decodeLiteral? (s : String) : Option String :=
  match s.toList.dropWhile isGap with
  | '"' :: rest => (decodeInside rest).map String.ofList
  | _ => none

end LineBasic.Text

import LineBasic.Value.Place

/-!
# Filling a template

The remainder of a text by a value fills the value into the text. A percent sign starts a place,
and two of them are a percent sign. Between the sign and the letter of a place may stand flags (`-`
to the left, `0` with zeros, `+` or a blank for the sign of a positive number, `#` for the mark of
the digits or a point that stays), a width, and after a point a precision: the most characters of a
text, or the fewest digits of an integer. A single `h`, `l` or `L` before the letter says nothing. A
star for the width or the precision takes a value of its own.

There must be one place for the value, unless it is an array, which may also be left out. A place
can take an element of an array by its subscript, in parentheses behind the percent sign; from there
on the element is the value.
-/

namespace LineBasic.Template

/-- What the next place takes. -/
structure Supply where
  value : Value
  /-- Whether the value is still to be taken. -/
  due : Bool := true

def Supply.take (s : Supply) : Except Fault (Value × Supply) :=
  if s.due then .ok (s.value, { s with due := false }) else .error .wrongType

/-! ## Reading a place -/

/-- The value of the digits in front of the characters, and what follows them. -/
def spanNumber (n : Nat) : List Char → Nat × List Char
  | [] => (n, [])
  | c :: rest =>
    if c.isDigit then spanNumber (10 * n + (c.toNat - '0'.toNat)) rest else (n, c :: rest)

/-- The flags in front of the characters, and what follows them. -/
def spanFlags (p : Place) : List Char → Place × List Char
  | [] => (p, [])
  | c :: rest =>
    if c == '-' then spanFlags { p with left := true } rest
    else if c == '0' then spanFlags { p with zeros := true } rest
    else if c == '+' then spanFlags { p with plus := true } rest
    else if c == ' ' then spanFlags { p with blank := true } rest
    else if c == '#' then spanFlags { p with alternate := true } rest
    else (p, c :: rest)

/-- The subscript up to the parenthesis that closes it, and what follows. Parentheses inside it come
in pairs, `depth` of which are open. -/
def spanKey? (depth : Nat) : List Char → Option (List Char × List Char)
  | [] => none
  | c :: rest =>
    if c == ')' && depth == 0 then some ([], rest)
    else
      let depth := if c == '(' then depth + 1 else if c == ')' then depth - 1 else depth
      (spanKey? depth rest).map fun (key, rest) => (c :: key, rest)

/-- The integer that a star takes. -/
def Supply.takeSize (s : Supply) (limit : Nat) : Except Fault (Int × Supply) := do
  let (v, s) ← s.take
  match v.count? with
  | some n =>
    if -(limit : Int) - 1 ≤ n ∧ n ≤ limit then return (n, s) else throw .tooLarge
  | none => throw .wrongType

/-- A width or a precision in front of the characters, and what follows it. -/
def readSize (limit : Nat) (s : Supply) :
    List Char → Except Fault (Option Int × Supply × List Char)
  | [] => .ok (none, s, [])
  | c :: rest =>
    if c == '*' then do
      let (n, s) ← s.takeSize limit
      return (some n, s, rest)
    else if c.isDigit then
      let (n, rest) := spanNumber 0 (c :: rest)
      if n ≤ limit then .ok (some n, s, rest) else .error .badValue
    else .ok (none, s, c :: rest)

/-- A width below zero says that the value stands to the left. -/
def Place.ofWidth (p : Place) : Option Int → Place
  | none => p
  | some n => { p with left := p.left || decide (n < 0), width := n.natAbs }

def dropSizeLetter : List Char → List Char
  | [] => []
  | c :: rest => if c == 'h' || c == 'l' || c == 'L' then rest else c :: rest

/-- A place up to its letter, and what follows from the letter on. A precision below zero, or a
point with nothing behind it, is zero. -/
def readPlace (s : Supply) (cs : List Char) : Except Fault (Place × Supply × List Char) := do
  let (p, cs) := spanFlags {} cs
  let (width, s, cs) ← readSize widthLimit s cs
  let p := p.ofWidth width
  match cs with
  | '.' :: rest =>
    let (digits, s, rest) ← readSize precisionLimit s rest
    return ({ p with precision := some (digits.getD 0).toNat }, s, dropSizeLetter rest)
  | _ => return (p, s, dropSizeLetter cs)

/-! ## Filling a template -/

/-- What a place takes that names its subscript, and what follows the subscript. -/
def takeElement (h : Heap) (whole : Value) (cs : List Char) :
    Except Fault (Supply × List Char) :=
  match whole with
  | .array r =>
    match spanKey? 0 cs with
    | none => .error .badValue
    | some (key, rest) =>
      match (h.cells r).get? (.text (String.ofList key)) with
      | some v => .ok ({ value := v }, rest)
      | none => .error .absent
  | _ => .error .wrongType

/-- The element that a place names, if it names one. -/
def readElement (h : Heap) (whole : Value) (s : Supply) (cs : List Char) :
    Except Fault (Supply × List Char) :=
  match cs with
  | '(' :: rest => takeElement h whole rest
  | _ => .ok (s, cs)

/-- The text of a place behind its percent sign, with what is left to take and what follows. The
value is taken before the letter is looked at. -/
def fillPlace (h : Heap) (whole : Value) (s : Supply) (cs : List Char) :
    Except Fault (List Char × Supply × List Char) := do
  let (s, cs) ← readElement h whole s cs
  let (p, s, cs) ← readPlace s cs
  match cs with
  | [] => throw .badValue
  | letter :: rest =>
    let (v, s) ← s.take
    let shown ← p.fill h letter v
    return (shown, s, rest)

/-- At the end of a template nothing may be left to take, but for an array. -/
def checkTaken (whole : Value) (s : Supply) : Except Fault Unit :=
  match whole with
  | .array _ => .ok ()
  | _ => if s.due then .error .wrongType else .ok ()

/-- Fills the rest of a template. The number bounds the characters left. -/
def fillFrom (h : Heap) (whole : Value) : Nat → Supply → List Char → Except Fault (List Char)
  | 0, _, _ => .ok []
  | _, s, [] => do
    checkTaken whole s
    return []
  | fuel + 1, s, '%' :: '%' :: rest => do return '%' :: (← fillFrom h whole fuel s rest)
  | fuel + 1, s, '%' :: rest => do
    let (shown, s, rest) ← fillPlace h whole s rest
    return shown ++ (← fillFrom h whole fuel s rest)
  | fuel + 1, s, c :: rest => do return c :: (← fillFrom h whole fuel s rest)

def fill (h : Heap) (template : String) (v : Value) : Except Fault String := do
  return String.ofList (← fillFrom h v (template.length + 1) { value := v } template.toList)

end LineBasic.Template

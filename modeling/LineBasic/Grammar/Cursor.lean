import LineBasic.Grammar.Token

/-!
# Reading a text token by token

A cursor stands before the unread characters of a text and knows where the last token began and
ended. What counts as a token depends on what may come next, so a reader asks for the tokens it can
use. When none of them is there, the fault is at the next character that is not a gap, or at the
start of the last token when nothing is left.
-/

namespace LineBasic

/-- A place in a text. -/
structure Cursor where
  /-- The unread characters. -/
  rest : List Char
  /-- The position of the first unread character. -/
  position : Nat := 0
  /-- The position of the last token. -/
  last : Nat := 0
  /-- The position behind the last token. -/
  stop : Nat := 0
deriving DecidableEq, Repr

namespace Cursor

def ofText (s : String) : Cursor := { rest := s.toList }

def skipGaps (c : Cursor) : Cursor :=
  let n := Token.countWhile Text.isGap c.rest
  { c with rest := c.rest.drop n, position := c.position + n }

def advance (c : Cursor) (n : Nat) : Cursor :=
  { rest := c.rest.drop n, position := c.position + n, last := c.position, stop := c.position + n }

def atEnd (c : Cursor) : Bool := c.skipGaps.rest.isEmpty

/-- The position to which a fault at this place belongs. -/
def faultPosition (c : Cursor) : Nat :=
  let c := c.skipGaps
  if c.rest.isEmpty then c.last else c.position

/-- The text of the next token of a kind, and the cursor behind it. -/
def token? (length : List Char → Nat) (c : Cursor) : Option (String × Cursor) :=
  let c := c.skipGaps
  let n := length c.rest
  if n = 0 then none else some (String.ofList (c.rest.take n), c.advance n)

def symbol? (s : String) (c : Cursor) : Option Cursor :=
  let c := c.skipGaps
  if s.toList.isPrefixOf c.rest then some (c.advance s.length) else none

/-- The cursor behind a word, when it comes next and is not part of a longer name. -/
def word? (s : String) (c : Cursor) : Option Cursor :=
  match c.token? Token.nameLength with
  | some (w, c') => if w == s then some c' else none
  | none => none

end Cursor

/-- A reader takes something off a text, or fails at a position. -/
abbrev Scan := StateT Cursor (Except Nat)

namespace Scan

def fail {α : Type} : Scan α := fun c => .error c.faultPosition

def token? (length : List Char → Nat) : Scan (Option String) := fun c =>
  match c.token? length with
  | some (s, c') => .ok (some s, c')
  | none => .ok (none, c)

def token (length : List Char → Nat) : Scan String := fun c =>
  match c.token? length with
  | some (s, c') => .ok (s, c')
  | none => .error c.faultPosition

/-- Whether a symbol comes next; it is read if so. -/
def symbol? (s : String) : Scan Bool := fun c =>
  match c.symbol? s with
  | some c' => .ok (true, c')
  | none => .ok (false, c)

def symbol (s : String) : Scan Unit := fun c =>
  match c.symbol? s with
  | some c' => .ok ((), c')
  | none => .error c.faultPosition

def word? (s : String) : Scan Bool := fun c =>
  match c.word? s with
  | some c' => .ok (true, c')
  | none => .ok (false, c)

def finish : Scan Unit := fun c => if c.atEnd then .ok ((), c) else .error c.faultPosition

end Scan

end LineBasic

import LineBasic.Grammar.Cursor
import LineBasic.Grammar.Expr

/-!
# Reading expressions

`parseExpr` reads an expression of at least a given level: first an operand, then operators of a
permitted level with their right operands, for as long as they come. Every operand and every
operator takes at least one character, so the readers count down from a bound on the characters
left.
-/

namespace LineBasic

open Scan

def Cursor.operator? (c : Cursor) : Option (BinaryOp × Cursor) :=
  BinaryOp.all.findSome? fun op => (c.symbol? op.symbol).map fun c' => (op, c')

/-- The next operator between the levels `low` and `high`, if there is one. -/
def operatorBetween? (low high : Level) : Scan (Option BinaryOp) := fun c =>
  match c.operator? with
  | some (op, c') =>
    if low ≤ op.level ∧ op.level ≤ high then .ok (some op, c') else .ok (none, c)
  | none => .ok (none, c)

/-- Whether `NOT` comes next as an operator. It is one only where its level is permitted; elsewhere
it is a name like any other. -/
def negation? (low : Level) : Scan Bool :=
  if low ≤ Level.negation then word? "NOT" else pure false

mutual

/-- An expression of at least a level. -/
def parseExpr : Nat → Level → Scan Expr
  | 0, _ => fail
  | fuel + 1, low => do
    let (left, high) ← parseOperand fuel low
    parseRest fuel low high left

/-- An operand of at least a level, and the highest level of an operator that may follow it. -/
def parseOperand : Nat → Level → Scan (Expr × Level)
  | 0, _ => fail
  | fuel + 1, low => do
    if ← negation? low then
      return (.unary .not (← parseExpr fuel Level.negation), Level.negation)
    else if ← symbol? "-" then
      return (.unary .neg (← parseExpr fuel Level.sign), Level.sign)
    else if ← symbol? "+" then
      return (.unary .pos (← parseExpr fuel Level.sign), Level.sign)
    else
      return (← parseAtom fuel, Level.atom)

/-- A number, a literal, a variable, an element, a constant, a call or a group. -/
def parseAtom : Nat → Scan Expr
  | 0 => fail
  | fuel + 1 => do
    if let some digits ← token? Token.numberLength then return .number digits
    else if let some quoted ← token? Token.literalLength then return .literal quoted
    else if let some name ← token? Token.variableLength then
      if ← symbol? "[" then
        let index ← parseExpr fuel Level.whole
        symbol "]"
        return .element name index
      else return .var name
    else if let some name ← token? Token.nameLength then
      if ← symbol? "(" then
        if ← symbol? ")" then return .call name []
        else return .call name (← parseArguments fuel)
      else return .constant name
    else
      symbol "("
      let inner ← parseExpr fuel Level.whole
      symbol ")"
      return inner

/-- The arguments of a call up to the closing parenthesis. -/
def parseArguments : Nat → Scan (List Expr)
  | 0 => fail
  | fuel + 1 => do
    let first ← parseExpr fuel Level.whole
    if ← symbol? "," then return first :: (← parseArguments fuel)
    else
      symbol ")"
      return [first]

/-- The operators and right operands that follow a left operand. -/
def parseRest : Nat → Level → Level → Expr → Scan Expr
  | 0, _, _, _ => fail
  | fuel + 1, low, high, left => do
    match ← operatorBetween? low high with
    | some op =>
      let right ← parseExpr fuel op.rightLevel
      parseRest fuel low op.followLevel (.binary op left right)
    | none => return left

end

/-- More than any expression on the rest of a text can need. -/
def Cursor.exprFuel (c : Cursor) : Nat := 3 * c.rest.length + 4

/-- An expression together with the text it was written with. -/
structure Formula where
  text : String
  tree : Expr

/-- An expression, with its text from its first to its last token. -/
def parseFormula : Scan Formula := fun c =>
  let start := c.skipGaps
  match parseExpr c.exprFuel Level.whole c with
  | .ok (tree, c') =>
    .ok ({ text := String.ofList (start.rest.take (c'.stop - start.position)), tree := tree }, c')
  | .error position => .error position

end LineBasic

/-!
# Expressions

The tree of an expression. Parentheses group but leave no trace in the tree. Every operator has a
level; a level binds tighter than those below it. From loose to tight: `OR`, `AND`, `NOT`, the
comparisons, sum and difference, product, quotient and remainder, signs, powers, and atoms.
-/

namespace LineBasic

inductive UnaryOp where
  | not
  | neg
  | pos
deriving DecidableEq, Repr

inductive BinaryOp where
  | or
  | and
  | eq
  | ne
  | lt
  | gt
  | le
  | ge
  | add
  | sub
  | mul
  | div
  | mod
  | pow
deriving DecidableEq, Repr

/-- The tree of an expression. Numbers and string literals keep the text they were written with. -/
inductive Expr where
  | number (digits : String)
  | literal (quoted : String)
  | var (name : String)
  | element (name : String) (index : Expr)
  | constant (name : String)
  | call (name : String) (args : List Expr)
  | unary (op : UnaryOp) (operand : Expr)
  | binary (op : BinaryOp) (left right : Expr)

/-- How tightly an expression or an operator binds. -/
abbrev Level := Nat

namespace Level

/-- The loosest level, of whole expressions. -/
def whole : Level := 0

def negation : Level := 2

def sign : Level := 6

/-- The level of numbers, names, calls and groups. -/
def atom : Level := 8

end Level

namespace UnaryOp

def level : UnaryOp → Level
  | .not => Level.negation
  | .neg => Level.sign
  | .pos => Level.sign

def symbol : UnaryOp → String
  | .not => "NOT"
  | .neg => "-"
  | .pos => "+"

end UnaryOp

namespace BinaryOp

def level : BinaryOp → Level
  | .or => 0
  | .and => 1
  | .eq => 3
  | .ne => 3
  | .lt => 3
  | .gt => 3
  | .le => 3
  | .ge => 3
  | .add => 4
  | .sub => 4
  | .mul => 5
  | .div => 5
  | .mod => 5
  | .pow => 7

/-- The least level of the right operand. A power takes a signed operand on its right. -/
def rightLevel : BinaryOp → Level
  | .pow => Level.sign
  | op => op.level + 1

/-- The least level of the left operand. Comparisons do not chain, and a power takes only an atom on
its left; all other operators group to the left. -/
def leftLevel : BinaryOp → Level
  | .eq => 4
  | .ne => 4
  | .lt => 4
  | .gt => 4
  | .le => 4
  | .ge => 4
  | .pow => Level.atom
  | op => op.level

/-- The highest level of an operator that may follow once this one has taken both operands. -/
def followLevel : BinaryOp → Level
  | .eq => Level.negation
  | .ne => Level.negation
  | .lt => Level.negation
  | .gt => Level.negation
  | .le => Level.negation
  | .ge => Level.negation
  | .pow => Level.sign
  | op => op.level

def symbol : BinaryOp → String
  | .or => "OR"
  | .and => "AND"
  | .eq => "="
  | .ne => "<>"
  | .lt => "<"
  | .gt => ">"
  | .le => "<="
  | .ge => ">="
  | .add => "+"
  | .sub => "-"
  | .mul => "*"
  | .div => "/"
  | .mod => "MOD"
  | .pow => "^"

/-- All operators with two operands; one whose symbol starts with another's stands before it. -/
def all : List BinaryOp :=
  [.or, .and, .ne, .le, .ge, .eq, .lt, .gt, .add, .sub, .mul, .div, .mod, .pow]

end BinaryOp

end LineBasic

import LineBasic.Grammar.ExprParser

/-!
# Statements

A command is a statement that stands on its own or as a branch of `IF`. An instruction is a command
or an `IF` with one or two commands as branches, and a line is an instruction with its number.
-/

namespace LineBasic

inductive Separator where
  | semicolon
  | comma
deriving DecidableEq, Repr

namespace Separator

def symbol : Separator → String
  | .semicolon => ";"
  | .comma => ","

end Separator

structure PrintItem where
  formula : Formula
  separator : Option Separator

/-- A statement without branches. -/
inductive Command where
  /-- `PRINT`. -/
  | print (items : List PrintItem)
  /-- `LET`, to a variable or to an element. -/
  | assign (name : String) (index : Option Formula) (value : Formula)
  /-- `REM`. -/
  | remark (text : String)
  /-- `GOTO`. -/
  | jump (target : Nat)
  /-- `GOSUB`. -/
  | call (target : Nat)
  /-- `RETURN`. -/
  | comeBack
  /-- `END`. -/
  | halt
  /-- `FOR`. -/
  | loop (name : String) (start stop step : Formula)
  /-- `NEXT`. -/
  | next (name : String)
  /-- `PAUSE`. -/
  | pause (millis : Formula)
  /-- `INPUT`. -/
  | input (prompt : Option String) (name : String)
  /-- `ARRAY`. -/
  | array (name : String)
  /-- `PLOT`. -/
  | plot (x y color : Formula)
  /-- `CLS`: clears the console and the display. -/
  | clearAll
  /-- `CLT`: clears the console. -/
  | clearConsole
  /-- `CLC`: clears the display. -/
  | clearDisplay

/-- What a line does: a command, or a choice between two. -/
inductive Instruction where
  | command (c : Command)
  | branch (condition : Formula) (yes : Command) (no : Option Command)

structure Line where
  number : Nat
  instruction : Instruction

namespace Command

def keyword : Command → String
  | .print .. => "PRINT"
  | .assign .. => "LET"
  | .remark .. => "REM"
  | .jump .. => "GOTO"
  | .call .. => "GOSUB"
  | .comeBack => "RETURN"
  | .halt => "END"
  | .loop .. => "FOR"
  | .next .. => "NEXT"
  | .pause .. => "PAUSE"
  | .input .. => "INPUT"
  | .array .. => "ARRAY"
  | .plot .. => "PLOT"
  | .clearAll => "CLS"
  | .clearConsole => "CLT"
  | .clearDisplay => "CLC"

/-- The expressions of a command, in the order in which they are written. -/
def formulas : Command → List Formula
  | .print items => items.map (·.formula)
  | .assign _ index value => index.toList ++ [value]
  | .loop _ start stop step => [start, stop, step]
  | .pause millis => [millis]
  | .plot x y color => [x, y, color]
  | _ => []

end Command

namespace Instruction

def keyword : Instruction → String
  | .command c => c.keyword
  | .branch .. => "IF"

/-- The expressions of an instruction, in the order in which they are written. -/
def formulas : Instruction → List Formula
  | .command c => c.formulas
  | .branch condition yes no =>
    condition :: yes.formulas ++ (no.map Command.formulas).getD []

end Instruction

end LineBasic

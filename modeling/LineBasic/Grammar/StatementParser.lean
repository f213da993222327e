import LineBasic.Decimal.Numeral
import LineBasic.Fault
import LineBasic.Grammar.Statement
import LineBasic.Text.Literal

/-!
# Reading statements

A statement is read in two passes. The first finds its parts, and fails at a position. The second
makes line numbers out of the targets of jumps and texts out of the prompts of `INPUT`; the parts
that need it come out of the first pass as values that may still hold a fault, the leftmost of which
counts.
-/

namespace LineBasic

open Scan

def decodeText (quoted : String) : Except Fault String :=
  match Text.decodeLiteral? quoted with
  | some s => .ok s
  | none => .error (.parse (.badLiteral quoted) none)

/-- The line number that a jump names. -/
def lineNumber (digits : String) : Except Fault Nat :=
  if digits.toList.all Text.isDigit then
    if digits.length ≤ Decimal.digitLimit then .ok (Text.digitsValue digits.toList)
    else .error .badValue
  else .error (.parse (.badTarget digits) none)

/-- The step of a loop that names none. -/
def unitStep : Formula := { text := "1", tree := .number "1" }

/-- Whether a list of print items ends here: nothing is left, or the other branch starts. -/
def printEnds : Scan Bool := fun c => .ok (c.atEnd || (c.word? "ELSE").isSome, c)

/-- The items of `PRINT`; the number bounds the characters left. -/
def parsePrintItems : Nat → Scan (List PrintItem)
  | 0 => fail
  | fuel + 1 => do
    if ← printEnds then return []
    else
      let formula ← parseFormula
      if ← symbol? ";" then
        return { formula := formula, separator := some .semicolon } :: (← parsePrintItems fuel)
      else if ← symbol? "," then
        return { formula := formula, separator := some .comma } :: (← parsePrintItems fuel)
      else return [{ formula := formula, separator := none }]

def parseAssignment (name : String) : Scan Command := do
  if ← symbol? "[" then
    let index ← parseFormula
    symbol "]"
    symbol "="
    return .assign name (some index) (← parseFormula)
  else
    symbol "="
    return .assign name none (← parseFormula)

def parseLoop : Scan Command := do
  let name ← token Token.variableLength
  symbol "="
  let start ← parseFormula
  symbol "TO"
  let stop ← parseFormula
  if ← symbol? "STEP" then return .loop name start stop (← parseFormula)
  else return .loop name start stop unitStep

def parseInput : Scan (Except Fault Command) := do
  match ← token? Token.literalLength with
  | some quoted =>
    symbol ";"
    let name ← token Token.variableLength
    return do return .input (some (← decodeText quoted)) name
  | none =>
    let name ← token Token.variableLength
    return .ok (.input none name)

def parsePlot : Scan Command := do
  let x ← parseFormula
  symbol ","
  let y ← parseFormula
  symbol ","
  return .plot x y (← parseFormula)

def parseJump (make : Nat → Command) : Scan (Except Fault Command) := do
  let digits ← token Token.numberLength
  return (lineNumber digits).map make

def remarkText (remark : String) : String := String.ofList (Text.trim (remark.toList.drop 3))

def parsePrint : Scan Command := fun c =>
  (do return Command.print (← parsePrintItems (c.rest.length + 1)) : Scan Command) c

def parseCommand : Scan (Except Fault Command) := do
  if let some remark ← token? Token.remarkLength then return .ok (.remark (remarkText remark))
  else if let some name ← token? Token.variableLength then return .ok (← parseAssignment name)
  else if ← symbol? "PRINT" then return .ok (← parsePrint)
  else if ← symbol? "LET" then return .ok (← parseAssignment (← token Token.variableLength))
  else if ← symbol? "GOTO" then parseJump .jump
  else if ← symbol? "GOSUB" then parseJump .call
  else if ← symbol? "RETURN" then return .ok .comeBack
  else if ← symbol? "END" then return .ok .halt
  else if ← symbol? "FOR" then return .ok (← parseLoop)
  else if ← symbol? "NEXT" then return .ok (.next (← token Token.variableLength))
  else if ← symbol? "PAUSE" then return .ok (.pause (← parseFormula))
  else if ← symbol? "INPUT" then parseInput
  else if ← symbol? "ARRAY" then return .ok (.array (← token Token.variableLength))
  else if ← symbol? "PLOT" then return .ok (← parsePlot)
  else if ← symbol? "CLS" then return .ok .clearAll
  else if ← symbol? "CLT" then return .ok .clearConsole
  else if ← symbol? "CLC" then return .ok .clearDisplay
  else fail

/-- A branch of `IF`: a command, or a line number to jump to. -/
def parseBranch : Scan (Except Fault Command) := do
  match ← token? Token.numberLength with
  | some digits => return (lineNumber digits).map .jump
  | none => parseCommand

def parseInstruction : Scan (Except Fault Instruction) := do
  if ← symbol? "IF" then
    let condition ← parseFormula
    symbol "THEN"
    let yes ← parseBranch
    if ← symbol? "ELSE" then
      let no ← parseBranch
      return do
        let yes ← yes
        let no ← no
        return .branch condition yes (some no)
    else return do return .branch condition (← yes) none
  else return (← parseCommand).map .command

def Scan.whole {α : Type} (p : Scan α) (text : String) : Except Fault α :=
  match (do let a ← p; finish; return a : Scan α) (Cursor.ofText text) with
  | .ok (a, _) => .ok a
  | .error position => .error (.parse (.unexpected text position) none)

def parseExpression (text : String) : Except Fault Expr := do
  return (← parseFormula.whole text).tree

def parseBody (text : String) : Except Fault Instruction := do
  ← parseInstruction.whole text

/-- The digits and the body of a line: blanks, digits, blanks, and the rest up to the end or up to a
line break at the end. -/
def splitLine? (text : List Char) : Option (List Char × List Char) :=
  let cs := Text.trimLeft text
  let digits := cs.takeWhile Text.isDigit
  let rest := Text.trimLeft (cs.dropWhile Text.isDigit)
  let body := rest.takeWhile (· != '\n')
  match digits, rest.drop body.length with
  | [], _ => none
  | digits, [] => some (digits, Text.trimRight body)
  | digits, ['\n'] => some (digits, Text.trimRight body)
  | _, _ => none

/-- A line with its number. A fault after the number carries it. -/
def parseLine (text : String) : Except Fault Line :=
  match splitLine? text.toList with
  | none => .error (.parse (.unnumbered (Text.trimText text)) none)
  | some (digits, body) =>
    if digits.length ≤ Decimal.digitLimit then
      let number := Text.digitsValue digits
      match parseBody (String.ofList body) with
      | .ok instruction => .ok { number := number, instruction := instruction }
      | .error fault => .error (fault.atLine (some number))
    else .error .badValue

end LineBasic

import LineBasic.Decimal.Notation
import LineBasic.Text.Quoted

/-!
# What can go wrong

A fault is the reason why a line was refused, a statement failed or an operation was rejected.
Faults of the language itself carry the line they belong to, once it is known, and have a wording of
their own; the others come from the arithmetic and the text operations underneath.
-/

namespace LineBasic

/-- Why a text is not a line, an expression or a program. -/
inductive SyntaxCause where
  /-- The line does not start with a number. -/
  | unnumbered (text : String)
  /-- Nothing acceptable stands at this position of the text, counted from zero. -/
  | unexpected (body : String) (position : Nat)
  /-- A jump to something that is not a whole number. -/
  | badTarget (text : String)
  /-- A string literal with an invalid escape. -/
  | badLiteral (text : String)
  /-- Two lines have the same number. -/
  | repeatedLine (number : Nat)
  /-- A reason given from outside. -/
  | other (message : String)
deriving DecidableEq, Repr

/-- Why a statement or a request to the machine failed. -/
inductive RunCause where
  | notAnArray (name : String)
  | undefinedConstant (name : String)
  | unknownFunction (name : String)
  | zeroStep (name : String)
  | nextWithoutFor (name : String)
  | returnWithoutCall
  | noDisplay
  | missingLine (number : Int)
  | alreadyRunning
  /-- A reason given from outside. -/
  | other (message : String)
deriving DecidableEq, Repr

/-- A fault, with the line it belongs to where the language knows lines. -/
inductive Fault where
  | parse (cause : SyntaxCause) (line : Option Int)
  | run (cause : RunCause) (line : Option Int)
  /-- Names in a table of constants that the language could not tell from variables. -/
  | constantNames (bad : List String)
  | divisionByZero
  /-- An operation does not apply to this kind of value. -/
  | wrongType
  /-- An operation applies to this kind of value but not to this one. -/
  | badValue
  /-- A number is beyond the range of its kind. -/
  | tooLarge
  /-- A character was asked of an empty text. -/
  | emptyText
  /-- A reply, a device or an element that was needed is not there. -/
  | absent
  /-- An array holds itself, so its text or a comparison with it has no end. -/
  | endless
  /-- A run was completed a second time. -/
  | alreadyCompleted
  /-- There is no such file. -/
  | missingFile
deriving DecidableEq, Repr

/-- How far a message shows the text on either side of a fault. -/
def windowReach : Nat := 60

/-- The text around a position, and a caret under the position on a line of its own. -/
def window (body : String) (position : Nat) : String :=
  let start := position - windowReach
  let shown := (body.toList.take (position + windowReach)).drop start
  String.ofList (shown ++ '\n' :: List.replicate (position - start) ' ' ++ ['^'])

def SyntaxCause.message : SyntaxCause → String
  | .unnumbered text => "Line must start with a line number: " ++ Text.quoted text
  | .unexpected body position =>
    "Cannot parse " ++ Text.quoted body ++ " at column " ++ Decimal.intText (position + 1) ++
      "\n" ++ window body position
  | .badTarget text => text ++ " is not a valid line number"
  | .badLiteral text => "Bad escape sequence in string " ++ text
  | .repeatedLine number => "Line with number " ++ Decimal.intText number ++ " repeated"
  | .other message => message

def RunCause.message : RunCause → String
  | .notAnArray name => name ++ " is not an array, did you forget to declare it with ARRAY?"
  | .undefinedConstant name => "Constant " ++ name ++ " is undefined"
  | .unknownFunction name => "Function " ++ name ++ " does not exist"
  | .zeroStep name => "Loop " ++ name ++ " has a STEP of 0 and would never end"
  | .nextWithoutFor name => "NEXT " ++ name ++ " without a matching FOR"
  | .returnWithoutCall => "There are no GOSUB calls to return from"
  | .noDisplay => "No display found"
  | .missingLine number => "Cannot find line " ++ Decimal.intText number
  | .alreadyRunning => "A program is already running"
  | .other message => message

def headed (kind : String) (line : Option Int) (message : String) : String :=
  match line with
  | none => kind ++ ": " ++ message
  | some n => kind ++ " on line " ++ Decimal.intText n ++ ": " ++ message

def Fault.message : Fault → String
  | .parse cause line => headed "ParseError" line cause.message
  | .run cause line => headed "RuntimeError" line cause.message
  | .constantNames bad =>
    "Constant names need at least two upper-case letters: " ++ String.intercalate ", " bad
  | .divisionByZero => "division by zero"
  | .wrongType => "operation not supported for this kind of value"
  | .badValue => "value not allowed here"
  | .tooLarge => "number too large"
  | .emptyText => "text is empty"
  | .absent => "nothing there"
  | .endless => "array contains itself"
  | .alreadyCompleted => "run already completed"
  | .missingFile => "no such file"

/-- The fault with a line, unless it has one already or is of a kind without lines. -/
def Fault.atLine (line : Option Int) : Fault → Fault
  | .parse cause none => .parse cause line
  | .run cause none => .run cause line
  | fault => fault

def Fault.ofLanguage : Fault → Bool
  | .parse .. => true
  | .run .. => true
  | _ => false

def Fault.line? : Fault → Option Int
  | .parse _ line => line
  | .run _ line => line
  | _ => none

end LineBasic

import LineBasic.Builtin
import LineBasic.Console
import LineBasic.Display
import LineBasic.Grammar.Dump
import LineBasic.Program
import LineBasic.Timers

/-!
# The machine

The machine runs one program at a time, one statement after another. Between statements it knows the
line it is at, the loops and calls it is in, and whether it has been asked to stop, to pause or to
wait for a reply. A pause and a missing reply suspend the run; a timer or the reply takes it up
again.
-/

namespace LineBasic

inductive Function where
  | builtin (f : Builtin)
  /-- Twice its argument. -/
  | double
  /-- Asks the machine to stop, and is zero. -/
  | stop
deriving DecidableEq, Repr

/-- Where a machine stands with its run. -/
inductive Phase where
  | idle
  | running
  | paused
  | waiting
  | ended
deriving DecidableEq, Repr

/-- A loop that `FOR` has opened. -/
structure Loop where
  /-- The variable that the loop counts with. -/
  name : String
  value : Value
  increment : Value
  bound : Value
  /-- The line after `FOR`, to which `NEXT` goes back. -/
  line : Nat

def Loop.finished (l : Loop) : Except Fault Bool := do
  if ← l.increment.greater (.int 0) then l.value.greaterEq l.bound else l.value.lessEq l.bound

/-- How a run came to its end: the fault, if any, and the line it happened at. -/
structure Outcome where
  fault : Option Fault := none
  line : Option Int := none
deriving DecidableEq

/-- What is known of the latest run. -/
inductive Completion where
  /-- There was none yet. -/
  | absent
  | pending
  | done (outcome : Outcome)
deriving DecidableEq

inductive LogLevel where
  | debug
  | error
deriving DecidableEq, Repr

structure LogRecord where
  level : LogLevel
  message : String

structure Dice where
  state : Nat := 88172645463325252

namespace Dice

def next (d : Dice) : Dice :=
  { state := (d.state * 6364136223846793005 + 1442695040888963407) % Nat.pow 2 64 }

/-- The number shown: the upper bits of the state. -/
def roll (d : Dice) : Nat := d.state / Nat.pow 2 11

end Dice

/-- The machine with everything it works on. -/
structure Machine where
  constants : Table String Value
  functions : Table String Function
  /-- Steps and jumps are logged from level one on, whole statements from level two on. -/
  traceLevel : Int := 0
  console : Console := .buffer {}
  display : Option Display := none
  timers : Timers := {}
  dice : Dice := {}
  heap : Heap := {}
  vars : Table String Value := .empty
  program : Program := .empty
  /-- The number of the current line. -/
  cursor : Int := -1
  loops : Table String Loop := .empty
  /-- The lines to come back to, the latest first. -/
  stack : List Int := []
  /-- The current statement has set the cursor. -/
  jumped : Bool := false
  /-- The run is to end after the current statement. -/
  halted : Bool := false
  /-- A reply is due before the run goes on. -/
  waiting : Bool := false
  /-- The pause asked for, in milliseconds. -/
  delay : Option Value := none
  phase : Phase := .idle
  completion : Completion := .absent
  /-- The timer of the current pause. -/
  timer : Option Nat := none
  log : Array LogRecord := #[]

/-- Something the machine does: it may fail, and what it did up to then stays done. -/
abbrev Action := ExceptT Fault (StateM Machine)

namespace Machine

def pi : Float := 3.141592653589793

def defaultConstants : Table String Value :=
  Table.ofList [("PI", .real pi), ("LEVEL", .int 1)]

def defaultFunctions : Table String Function :=
  Table.ofList (Builtin.names.map fun (name, f) => (name, .builtin f))

/-- Whether a name in a table of constants can be told from a variable: a letter, a letter or an
underscore, then letters, digits and underscores. A line break at the end is overlooked. -/
def isConstantName (name : String) : Bool :=
  let cs := match name.toList.reverse with
    | '\n' :: rest => rest.reverse
    | _ => name.toList
  match cs with
  | a :: b :: rest => Token.isLetter a && Token.isWordStart b && rest.all Token.isWordPart
  | _ => false

/-- A table of constants, when all its names can be told from variables. -/
def checkConstants (constants : Table String Value) : Except Fault (Table String Value) :=
  match (constants.keys.filter (!isConstantName ·)).mergeSort (fun a b => decide (a ≤ b)) with
  | [] => .ok constants
  | bad => .error (.constantNames bad)

/-- A table of functions under their names in upper case; of two with the same name the later one
counts. -/
def functionTable (functions : List (String × Function)) : Table String Function :=
  Table.ofList (functions.map fun (name, f) => (Text.upper name, f))

end Machine

end LineBasic

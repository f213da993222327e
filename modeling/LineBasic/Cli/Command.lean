import LineBasic.Cli.Options
import LineBasic.Cli.Summary
import LineBasic.Machine.Request

/-!
# The command

What the command does with its arguments, the text of the program and its standard input: it checks
the program, or runs it with the console between standard input and output, firing timers as they
come.
-/

namespace LineBasic.Cli

open Machine

/-- What the command leaves behind. -/
inductive Ending where
  /-- An exit code and what was written to standard output and standard error. -/
  | exit (code : Nat) (out err : String)
  /-- The arguments ask for nothing that can be done. -/
  | refused (why : Refusal)
  /-- A fault that the command does not handle, and what was written to standard output. -/
  | failed (fault : Fault) (out : String)

/-- A text with every line break, carriage return or both in turn, as one line break. -/
def plainBreaks : List Char → List Char
  | [] => []
  | '\r' :: '\n' :: rest => '\n' :: plainBreaks rest
  | c :: rest => (if c == '\r' then '\n' else c) :: plainBreaks rest

def normalizeBreaks (s : String) : String := String.ofList (plainBreaks s.toList)

def check (source : String) : Ending :=
  match Program.load source with
  | .ok p => .exit 0 (summary p) ""
  | .error fault =>
    match fault with
    | .parse .. => .exit 1 "" ("PARSE FAIL: " ++ fault.message ++ "\n")
    | _ => .failed fault ""

/-- The machine that the options ask for, with the given standard input. -/
def machine (o : Options) (input : String) : Machine :=
  { constants := defaultConstants
    functions := defaultFunctions
    traceLevel := o.debug
    console := .stream { unread := input.toList }
    display := o.display.map fun (w, h) => { width := w, height := h } }

def logLine (r : LogRecord) : String :=
  (match r.level with
    | .debug => "DEBUG"
    | .error => "ERROR") ++ " basic_interpreter: " ++ r.message ++ "\n"

def logText (m : Machine) : String := String.join (m.log.toList.map logLine)

/-- How the run of a machine came out. -/
def report (m : Machine) : Ending :=
  match m.completion with
  | .done { fault := some fault, .. } =>
    .exit 1 m.console.written (logText m ++ "Error: " ++ fault.message ++ "\n")
  | _ => .exit 0 m.console.written (logText m)

/-- Runs a program to its end, for at most the given number of cycles between two pauses and the
given number of pauses. -/
def runAll (cycles : Nat) (source : String) : Course Unit := do
  run cycles source
  let _ ← tickAll cycles cycles

def runProgram (cycles : Nat) (o : Options) (source input : String) : Option Ending :=
  match (runAll cycles source).run.run (machine o input) with
  | none => none
  | some (.ok (), m) => some (report m)
  | some (.error fault, m) => some (.failed fault m.console.written)

/-- The whole command. `read` gives the text of a file that exists. -/
def command (cycles : Nat) (args : List String) (read : String → Option String) (input : String) :
    Option Ending :=
  match parse args with
  | .error why => some (.refused why)
  | .ok o =>
    match read o.program with
    | none => some (.failed .missingFile "")
    | some text =>
      let source := normalizeBreaks text
      if o.check then some (check source) else runProgram cycles o source input

end LineBasic.Cli

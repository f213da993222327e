import LineBasic.Decimal.Numeral
import LineBasic.Text.Case
import LineBasic.Text.Quoted

/-!
# The command line

The command takes the path of a program and options before or after it. An option may be shortened
as long as it stays unambiguous, its argument may follow an equals sign, and after two dashes alone
everything is a path. An argument that starts with a dash is an option unless it looks like a
negative number or holds a blank.

The arguments are first sorted into options and others, which is where ambiguous options are found;
then they are worked off from left to right. Whatever is left over is refused at the end.
-/

namespace LineBasic.Cli

/-- What the command was asked to do. -/
structure Options where
  program : String
  debug : Int := 0
  check : Bool := false
  display : Option (Int × Int) := none
deriving DecidableEq, Repr

/-- Why there is nothing to do: help was asked for, or the arguments are wrong. -/
inductive Refusal where
  | help
  | usage (message : String)
deriving DecidableEq, Repr

inductive Flag where
  | help
  | debug
  | check
  | display
deriving DecidableEq, Repr

namespace Flag

/-- How options are written, in the order in which messages list them. -/
def spellings : List (String × Flag) :=
  [("-h", .help), ("--help", .help), ("--debug", .debug), ("--check", .check),
   ("--display", .display)]

def ofSpelling? (s : String) : Option Flag := (spellings.find? (·.1 == s)).map (·.2)

def name : Flag → String
  | .help => "-h/--help"
  | .debug => "--debug"
  | .check => "--check"
  | .display => "--display"

def takesArgument : Flag → Bool
  | .debug => true
  | .display => true
  | _ => false

def refuse {α : Type} (f : Flag) (message : String) : Except Refusal α :=
  .error (.usage ("argument " ++ f.name ++ ": " ++ message))

end Flag

/-- What follows an option in the same word. -/
inductive Attachment where
  | nothing
  /-- An argument after an equals sign. -/
  | argument (text : String)
  /-- Further letters after a dash and a letter. -/
  | letters (cs : List Char)
deriving DecidableEq, Repr

/-- An argument of the command after sorting. -/
inductive Piece where
  /-- A path or the argument of an option. -/
  | plain (text : String)
  /-- Two dashes alone. -/
  | divider
  | option (flag : Flag) (attached : Attachment)
  /-- Something that looks like an option but is none. -/
  | unknown (text : String)
deriving DecidableEq, Repr

namespace Piece

def text : Piece → String
  | .plain s => s
  | .divider => "--"
  | .unknown s => s
  | .option .. => ""

end Piece

/-- What stands before the first equals sign, and what follows it. -/
def splitEquals (cs : List Char) : List Char × Attachment :=
  match cs.dropWhile (· != '=') with
  | [] => (cs, .nothing)
  | _ :: rest => (cs.takeWhile (· != '='), .argument (String.ofList rest))

/-- Whether characters are a negative number: a minus and digits, perhaps with a decimal point
before the last of them. -/
def isNegativeNumber : List Char → Bool
  | '-' :: rest =>
    match rest.dropWhile Text.isDigit with
    | [] => !rest.isEmpty
    | '.' :: more => !more.isEmpty && more.all Text.isDigit
    | _ => false
  | _ => false

/-- An option that an argument may stand for: how it is written in full, and what follows it. -/
abbrev Candidate := String × Flag × Attachment

def longCandidates (cs : List Char) : List Candidate :=
  let (stem, attached) := splitEquals cs
  (Flag.spellings.filter fun (s, _) => stem.isPrefixOf s.toList).map fun (s, f) => (s, f, attached)

/-- The options that a short spelling may stand for: a dash and a letter, with letters behind. -/
def shortCandidates (cs : List Char) : List Candidate :=
  (Flag.spellings.filter fun (s, _) => s.toList == cs.take 2).map fun (s, f) =>
    (s, f, .letters (cs.drop 2))

/-- The option that an argument is exactly, perhaps with an argument after an equals sign. -/
def spelledOut? (s : String) : Option Candidate :=
  let (stem, attached) := splitEquals s.toList
  (Flag.ofSpelling? (String.ofList stem)).map fun f => (String.ofList stem, f, attached)

/-- The options that an argument may stand for. -/
def candidates (s : String) : List Candidate :=
  match spelledOut? s with
  | some c => [c]
  | none => if "--".toList.isPrefixOf s.toList then longCandidates s.toList
    else shortCandidates s.toList

def sortOne (s : String) : Except Refusal Piece :=
  match s.toList with
  | '-' :: _ :: _ =>
    match candidates s with
    | [(_, f, attached)] => .ok (.option f attached)
    | [] =>
      if isNegativeNumber s.toList || s.toList.contains ' ' then .ok (.plain s)
      else .ok (.unknown s)
    | many =>
      .error (.usage ("ambiguous option: " ++ s ++ " could match " ++
        String.intercalate ", " (many.map (·.1))))
  | _ => .ok (.plain s)

/-- Sorts the arguments. After two dashes alone everything is plain. -/
def sortAll : List String → Except Refusal (List Piece)
  | [] => .ok []
  | s :: rest =>
    if s == "--" then .ok (.divider :: rest.map .plain)
    else do
      let piece ← sortOne s
      return piece :: (← sortAll rest)

/-- What has been found so far. -/
structure Found where
  program : Option String := none
  debug : Int := 0
  check : Bool := false
  display : Option (Int × Int) := none
  extras : List String := []

/-- Characters cut at every `x`. -/
def splitAtX : List Char → List (List Char)
  | [] => [[]]
  | c :: rest =>
    if c == 'x' then [] :: splitAtX rest
    else
      match splitAtX rest with
      | [] => [[c]]
      | part :: others => (c :: part) :: others

/-- The size of a display: width and height with an `x` in between, in letters of either case. -/
def displaySize? (s : String) : Option (Int × Int) :=
  match splitAtX (Text.lower s).toList with
  | [w, h] =>
    match Decimal.readInt? w, Decimal.readInt? h with
    | some w, some h => some (w, h)
    | _, _ => none
  | _ => none

/-- Carries out an option with its argument. -/
def Found.apply (found : Found) (f : Flag) (argument : String) : Except Refusal Found :=
  match f with
  | .help => .error .help
  | .check => .ok { found with check := true }
  | .debug =>
    match Decimal.readInt? argument.toList with
    | some n => .ok { found with debug := n }
    | none => f.refuse ("invalid int value: " ++ Text.quoted argument)
  | .display =>
    match displaySize? argument with
    | some size => .ok { found with display := some size }
    | none => f.refuse ("expected WIDTHxHEIGHT, got " ++ Text.quoted argument)

def Found.applyArgument (found : Found) (f : Flag) (argument : String) : Except Refusal Found :=
  if f.takesArgument then found.apply f argument
  else f.refuse ("ignored explicit argument " ++ Text.quoted argument)

/-- Carries out an option that has further letters behind it. The same letter again asks for the
same option; an equals sign or a dash is out of place, and any other letter comes too late to
matter. -/
def Found.applyLetters (found : Found) (f : Flag) (letters : List Char) : Except Refusal Found :=
  match letters.dropWhile (· == 'h') with
  | '=' :: rest => found.applyArgument f (String.ofList rest)
  | '-' :: rest => found.applyArgument f (String.ofList ('-' :: rest))
  | _ => found.apply f ""

/-- The path at the front of the pieces: dividers, a plain piece, dividers. -/
def takePath? (pieces : List Piece) : Option (String × List Piece) :=
  match pieces.dropWhile (· == .divider) with
  | .plain s :: rest => some (s, rest.dropWhile (· == .divider))
  | _ => none

/-- Works the pieces off; the number bounds how many are left. -/
def work : Nat → Found → List Piece → Except Refusal Found
  | 0, found, _ => .ok found
  | fuel + 1, found, pieces =>
    match pieces with
    | [] => .ok found
    | .option f .nothing :: rest =>
      if f.takesArgument then
        match rest with
        | .plain argument :: rest' => do work fuel (← found.apply f argument) rest'
        | _ => f.refuse "expected one argument"
      else do work fuel (← found.apply f "") rest
    | .option f (.argument argument) :: rest => do
      work fuel (← found.applyArgument f argument) rest
    | .option f (.letters letters) :: rest => do
      work fuel (← found.applyLetters f letters) rest
    | .unknown s :: rest => work fuel { found with extras := found.extras ++ [s] } rest
    | piece :: rest =>
      match found.program, takePath? pieces with
      | none, some (path, rest') => work fuel { found with program := some path } rest'
      | _, _ => work fuel { found with extras := found.extras ++ [piece.text] } rest

def parse (args : List String) : Except Refusal Options := do
  let pieces ← sortAll args
  let found ← work (pieces.length + 1) {} pieces
  match found.program, found.extras with
  | none, _ => throw (.usage "the following arguments are required: program")
  | some program, [] =>
    return { program := program, debug := found.debug, check := found.check,
             display := found.display }
  | some _, extras => throw (.usage ("unrecognized arguments: " ++ String.intercalate " " extras))

def usageText : String := "usage: linebasic [-h] [--debug N] [--check] [--display WxH] program"

def helpLines : List String :=
  [usageText,
   "",
   "Run a line-numbered BASIC program.",
   "",
   "positional arguments:",
   "  program        path to the program source",
   "",
   "options:",
   "  -h, --help     show this help message and exit",
   "  --debug N      trace level: 1 steps and jumps, 2 adds statement dumps",
   "  --check        parse only and summarise the statements",
   "  --display WxH  attach an in-memory display so PLOT and COLOR work"]

def helpText : String := String.join (helpLines.map (· ++ "\n"))

def usageLine (message : String) : String := "linebasic: error: " ++ message

end LineBasic.Cli

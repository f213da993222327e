import LineBasic.Cli.Command

/-!
# The command as a program

The outermost layer. It reads the arguments, the file and standard input, and shows what the console
and the log gain while a run goes on. Standard input is read only when a statement asks for a line:
a cycle that asked for more than there was is performed again with the line at hand. Pauses are
slept through.
-/

namespace LineBasic.Cli

open Machine

def streamOf (m : Machine) : Stream :=
  match m.console with
  | .stream s => s
  | .buffer _ => {}

def withStream (m : Machine) (s : Stream) : Machine := { m with console := .stream s }

/-- Shows what the console and the log have gained, and forgets it. -/
def flush (m : Machine) : IO Machine := do
  let s := streamOf m
  let out ← IO.getStdout
  out.putStr s.written
  out.flush
  (← IO.getStderr).putStr (logText m)
  return { withStream m { s with written := "" } with log := #[] }

/-- Performs a cycle, with a line of standard input if it asks for one. -/
def liveCycle (m : Machine) : IO (Except Fault Progress × Machine) := do
  let (result, next) := cycle.run.run m
  if (streamOf next).starved then
    let line ← (← IO.getStdin).getLine
    let (result, next) := cycle.run.run (withStream m { streamOf m with unread := line.toList })
    return (result, withStream next { streamOf next with starved := false })
  return (result, next)

def sleep (seconds : Float) : IO Unit := IO.sleep (seconds * 1000).toUInt32

def fire : Action Progress := do
  let _ ← popTimer
  wake

/-- Follows a run to its end. -/
partial def live (start : Except Fault Progress × Machine) : IO (Except Fault Unit × Machine) := do
  let m ← flush start.2
  match start.1 with
  | .error fault => return (.error fault, m)
  | .ok .goesOn => live (← liveCycle m)
  | .ok .stops =>
    match m.timers.live with
    | timer :: _ =>
      sleep timer.delay
      live (fire.run.run m)
    | [] => return (.ok (), m)

/-- Runs a program between standard input and output. -/
def runLive (o : Options) (source : String) : IO Ending := do
  let terminal ← (← IO.getStdout).isTty
  let seed ← IO.rand 0 (Nat.pow 2 62)
  let m := machine o ""
  let m := { withStream m { streamOf m with terminal := terminal } with dice := { state := seed } }
  match ← live ((start source).run.run m) with
  | (.ok (), m) => return report m
  | (.error fault, m) => return .failed fault m.console.written

/-- Shows how the command came out: its exit code. -/
def conclude : Ending → IO UInt32
  | .exit code out err => do
    IO.print out
    IO.eprint err
    return code.toUInt32
  | .refused .help => do
    IO.print helpText
    return 0
  | .refused (.usage message) => do
    IO.eprintln usageText
    IO.eprintln (usageLine message)
    return 2
  | .failed fault out => do
    IO.print out
    IO.eprintln ("Error: " ++ fault.message)
    return 1

def readText? (path : String) : IO (Option String) := do
  try
    return some (normalizeBreaks (← IO.FS.readFile path))
  catch _ => return none

def perform (args : List String) : IO Ending := do
  match parse args with
  | .error why => return .refused why
  | .ok o =>
    match ← readText? o.program with
    | none => return .failed .missingFile ""
    | some source => if o.check then return check source else runLive o source

end LineBasic.Cli

def main (args : List String) : IO UInt32 := do
  LineBasic.Cli.conclude (← LineBasic.Cli.perform args)

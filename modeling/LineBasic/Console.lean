import LineBasic.Decimal.Numeral
import LineBasic.Value.Basic

/-!
# Consoles

A console shows text and answers questions. A buffer keeps what is written and takes replies from a
queue; when the queue is empty the question is held until a reply is fed. A stream reads a line of
its input for every question, so it always answers, at the end of its input with an empty text.
-/

namespace LineBasic

/-- A reply to a question; it may be missing. -/
abbrev Reply := Option String

/-- A console in memory. -/
structure Buffer where
  written : String := ""
  clears : Nat := 0
  replies : List Reply := []
  /-- The variable that waits for a reply. -/
  asking : Option String := none

/-- A console between two streams of text. -/
structure Stream where
  terminal : Bool := false
  unread : List Char := []
  /-- More was asked for than there was to read. -/
  starved : Bool := false
  written : String := ""

inductive Console where
  | buffer (b : Buffer)
  | stream (s : Stream)

/-- What clears the screen of a terminal. -/
def clearScreen : String := "\x1b[2J\x1b[H"

namespace Stream

def write (s : Stream) (text : String) : Stream := { s with written := s.written ++ text }

def clear (s : Stream) : Stream := if s.terminal then s.write clearScreen else s

/-- The next line without the line break and carriage returns behind, and the stream after it. -/
def readLine (s : Stream) : String × Stream :=
  let line := s.unread.takeWhile (· != '\n')
  let text := (line.reverse.dropWhile (· == '\r')).reverse
  (String.ofList text,
    { s with unread := s.unread.drop (line.length + 1), starved := s.starved || s.unread.isEmpty })

end Stream

namespace Console

/-- What has been written and not been cleared. -/
def written : Console → String
  | .buffer b => b.written
  | .stream s => s.written

def write (text : String) : Console → Console
  | .buffer b => .buffer { b with written := b.written ++ text }
  | .stream s => .stream (s.write text)

def clear : Console → Console
  | .buffer b => .buffer { b with written := "", clears := b.clears + 1 }
  | .stream s => .stream s.clear

/-- Asks for a reply to be stored in a variable: the reply, if it is there at once, and the console
after the question. Otherwise the question is held. -/
def ask (name : String) : Console → Option Reply × Console
  | .buffer b =>
    match b.replies with
    | reply :: rest => (some reply, .buffer { b with replies := rest })
    | [] => (none, .buffer { b with asking := some name })
  | .stream s =>
    let (line, s') := s.readLine
    (some (some line), .stream s')

/-- Delivers a reply: the variable that was waiting for it, and the console after that. A reply that
nobody waits for is kept for later. -/
def feed (reply : Reply) : Console → Option String × Console
  | .buffer b =>
    match b.asking with
    | some name => (some name, .buffer { b with asking := none })
    | none => (none, .buffer { b with replies := b.replies ++ [reply] })
  | .stream s => (none, .stream s)

end Console

/-- The value of a reply for a variable. A variable with a dollar sign takes the text as it is;
others take the number that it spells, or the text if it spells none. -/
def replyValue (name : String) (reply : Reply) : Except Fault Value :=
  match name.toList.getLast? == some '$', reply with
  | true, some text => .ok (.text text)
  | true, none => .ok .nothing
  | false, none => .error .absent
  | false, some text =>
    match Number.read? (Text.trim text.toList) with
    | some x => .ok (.number x)
    | none => .ok (.text text)

end LineBasic

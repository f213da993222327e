import LineBasic.Program
import LineBasic.Table

/-!
# The summary of a program

A check loads a program without running it and counts its statements by keyword, the most frequent
first and equally frequent ones in the order in which they first occur.
-/

namespace LineBasic.Cli

/-- How often each word occurs, in the order of first occurrence. -/
def countWords (words : List String) : Table String Nat :=
  words.foldl (fun t w => t.insert w ((t.get? w).getD 0 + 1)) .empty

/-- How often each keyword starts a line, the most frequent first. -/
def keywordCounts (p : Program) : List (String × Nat) :=
  (countWords (p.lines.map (·.instruction.keyword))).entries.mergeSort
    fun a b => decide (b.2 ≤ a.2)

def padRight (width : Nat) (s : String) : String :=
  String.ofList (s.toList ++ List.replicate (width - s.length) ' ')

def countLine (entry : String × Nat) : String :=
  "  " ++ padRight 8 entry.1 ++ " " ++ Decimal.intText entry.2 ++ "\n"

def summary (p : Program) : String :=
  "PARSE OK\nLines parsed: " ++ Decimal.intText p.size ++ "\nStatement counts:\n" ++
    String.join ((keywordCounts p).map countLine)

end LineBasic.Cli

import LineBasic.Grammar.StatementParser

/-!
# Programs

A program is a list of lines in strictly ascending order of their numbers. It is loaded from a
source text whose lines may come in any order, and is only read from then on.
-/

namespace LineBasic

/-- Lines in strictly ascending order. -/
structure Program where
  lines : List Line := []
  ascending : lines.Pairwise (fun a b => a.number < b.number) := by simp

namespace Program

def empty : Program := {}

instance : Inhabited Program := ⟨empty⟩

def first? (p : Program) : Option Line := p.lines.head?

def find? (p : Program) (number : Int) : Option Line :=
  p.lines.find? fun l => (l.number : Int) == number

/-- The line after a number, which need not be the number of a line. -/
def next? (p : Program) (number : Int) : Option Line :=
  p.lines.find? fun l => decide (number < l.number)

def size (p : Program) : Nat := p.lines.length

/-- The first number that two neighbours share in a list of lines. -/
def repeated? : List Line → Option Nat
  | a :: b :: rest => if a.number = b.number then some a.number else repeated? (b :: rest)
  | _ => none

/-- Lines in ascending order of their numbers, lines with equal numbers in the order given. -/
def sort (lines : List Line) : List Line := lines.mergeSort fun a b => decide (a.number ≤ b.number)

theorem pairwise_of_sorted {lines : List Line}
    (sorted : lines.Pairwise fun a b => a.number ≤ b.number) (distinct : repeated? lines = none) :
    lines.Pairwise fun a b => a.number < b.number := by
  induction lines with
  | nil => exact .nil
  | cons a rest ih =>
    cases rest with
    | nil => simp
    | cons b rest =>
      rw [List.pairwise_cons] at sorted
      simp only [repeated?] at distinct
      split at distinct
      · cases distinct
      · rename_i different
        have tail := ih sorted.2 distinct
        rw [List.pairwise_cons]
        refine ⟨fun l hl => ?_, tail⟩
        have hab := sorted.1 b (by simp)
        rcases List.mem_cons.1 hl with rfl | hl
        · omega
        · have := (List.pairwise_cons.1 tail).1 l hl
          omega

theorem sort_pairwise (lines : List Line) :
    (sort lines).Pairwise fun a b => a.number ≤ b.number := by
  have h := @List.pairwise_mergeSort Line (fun a b => decide (a.number ≤ b.number))
    (by simp only [decide_eq_true_eq]; intro a b c; omega)
    (by simp only [Bool.or_eq_true, decide_eq_true_eq]; intro a b; omega) lines
  exact h.imp (by simp)

/-- The program of a list of lines in any order. No number may occur twice. -/
def ofLines (lines : List Line) : Except Fault Program :=
  match h : repeated? (sort lines) with
  | some n => .error (.parse (.repeatedLine n) (some n))
  | none => .ok { lines := sort lines, ascending := pairwise_of_sorted (sort_pairwise lines) h }

/-- Characters cut at line breaks, a carriage return before a line break being part of it. -/
def splitLines : List Char → List (List Char)
  | [] => [[]]
  | '\r' :: '\n' :: rest => [] :: splitLines rest
  | '\n' :: rest => [] :: splitLines rest
  | c :: rest =>
    match splitLines rest with
    | [] => [[c]]
    | line :: others => (c :: line) :: others

def splitSource (source : String) : List String := (splitLines source.toList).map String.ofList

def isBlankLine (s : String) : Bool := s.toList.all Text.isBlank

/-- Loads a program. Blank lines are skipped, and the first line that cannot be read is the fault.
-/
def load (source : String) : Except Fault Program := do
  ofLines (← ((splitSource source).filter (!isBlankLine ·)).mapM parseLine)

end Program

end LineBasic

import LineBasic.Program
import LineBasic.Table

/-!
# Stores

A store holds the tables in which the lines of a program are looked up: the lines in ascending
order, their numbers in the same order, and an index with the position of each number. A line is
found through its position, and the line after a number by bisecting the numbers.
-/

namespace LineBasic

namespace Program

/-- The tables of a program. They are aligned: the numbers are those of the lines, and the index
takes a number to the one position where it stands. -/
structure Store where
  lines : Array Line
  numbers : Array Nat
  index : Table Int (Fin lines.size)
  aligned : numbers = lines.map Line.number
  indexed : ∀ (n : Int) (i : Fin lines.size),
    index.get? n = some i ↔ (lines[i].number : Int) = n

def positions (lines : Array Line) : List (Int × Fin lines.size) :=
  (List.finRange lines.size).map fun i => ((lines[i].number : Int), i)

theorem positions_distinct (p : Program) :
    ((positions p.lines.toArray).map Prod.fst).Nodup := by
  rw [positions, List.map_map]
  refine List.pairwise_map.mpr ((List.pairwise_lt_finRange _).imp fun {i j} hij => ?_)
  have hlt := List.pairwise_iff_getElem.mp p.ascending i j i.isLt j.isLt hij
  exact fun hsame => Nat.ne_of_lt hlt (Int.ofNat.inj hsame)

/-- The store of a program. -/
def store (p : Program) : Store where
  lines := p.lines.toArray
  numbers := p.lines.toArray.map Line.number
  index := Table.ofList (positions p.lines.toArray)
  aligned := rfl
  indexed n i := by
    rw [Table.get?_ofList p.positions_distinct]
    simp [positions]

/-- The place behind all numbers that are at most `n`, among ascending numbers and from `lo` to
`hi`: the interval is halved until nothing is left of it. -/
def bisect (numbers : Array Nat) (n : Int) (lo hi : Nat) (h : hi ≤ numbers.size) : Nat :=
  if hlt : lo < hi then
    let middle := (lo + hi) / 2
    have hmiddle : middle < numbers.size := by omega
    if n < numbers[middle] then bisect numbers n lo middle (by omega)
    else bisect numbers n (middle + 1) hi h
  else lo
termination_by hi - lo

namespace Store

def first? (s : Store) : Option Line := s.lines[0]?

/-- The line with a number, through the index. -/
def find? (s : Store) (n : Int) : Option Line := (s.index.get? n).map fun i => s.lines[i]

/-- The line after a number, through the place of the number among all numbers. -/
def next? (s : Store) (n : Int) : Option Line :=
  s.lines[bisect s.numbers n 0 s.numbers.size (Nat.le_refl _)]?

end Store

end Program

end LineBasic

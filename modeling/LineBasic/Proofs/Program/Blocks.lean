import LineBasic.Program
import LineBasic.Proofs.Machine.Performing
import Mathlib.Algebra.Order.Field.Basic
import Mathlib.Data.Rat.Floor

/-!
# Structured programs

A block is a sequence of commands on data and of loops over blocks, nested to any depth. Flattened
it is a list of commands, in which a loop is its `FOR`, its body and its `NEXT`.

`trips` is the number of rounds of a loop whose start, bound and increment are integers. After so
many increments, and not before, the loop has reached its bound.
-/

namespace LineBasic

/-- Commands on data and loops, one after another. -/
inductive Block where
  | empty
  | command (c : Command) (plain : c.isPlain = true) (rest : Block)
  | loop (name : String) (start stop step : Formula) (body rest : Block)

namespace Block

def flatten : Block → List Command
  | .empty => []
  | .command c _ rest => c :: rest.flatten
  | .loop name start stop step body rest =>
    .loop name start stop step :: (body.flatten ++ .next name :: rest.flatten)

def names : Block → List String
  | .empty => []
  | .command _ _ rest => rest.names
  | .loop name _ _ _ body rest => name :: (body.names ++ rest.names)

/-- No loop has the variable of a loop around it. -/
def Separate : Block → Prop
  | .empty => True
  | .command _ _ rest => rest.Separate
  | .loop name _ _ _ body rest => name ∉ body.names ∧ body.Separate ∧ rest.Separate

/-- Lines that spell out a loop, and what follows it, are the line of its `FOR`, the lines of its
body, the line of its `NEXT`, and the lines of what follows. -/
theorem exists_lines_of_loop {name : String} {start stop step : Formula} {body rest : Block}
    {code : List Line} (h : code.map (·.instruction) =
      (Block.loop name start stop step body rest).flatten.map .command) :
    ∃ opening inner closing behind, code = opening :: (inner ++ closing :: behind) ∧
      opening.instruction = .command (.loop name start stop step) ∧
      inner.map (·.instruction) = body.flatten.map .command ∧
      closing.instruction = .command (.next name) ∧
      behind.map (·.instruction) = rest.flatten.map .command := by
  obtain ⟨opening, code', rfl, hopening, hcode'⟩ := List.map_eq_cons_iff.mp h
  rw [List.map_append] at hcode'
  obtain ⟨inner, outer, rfl, hinner, houter⟩ := List.map_eq_append_iff.mp hcode'
  obtain ⟨closing, behind, rfl, hclosing, hbehind⟩ := List.map_eq_cons_iff.mp houter
  exact ⟨opening, inner, closing, behind, rfl, hopening, hinner, hclosing, hbehind⟩

end Block

/-- How often the body of a loop is performed: once at least, and otherwise until the bound is
reached. -/
def trips (a b s : Int) : Nat := max 1 ⌈((b - a : Int) : ℚ) / s⌉₊

theorem one_le_trips (a b s : Int) : 1 ≤ trips a b s := Nat.le_max_left _ _

/-- A loop that goes up has reached its bound from the last of its rounds on. -/
theorem trips_le_iff_of_pos {a b s : Int} (hs : 0 < s) {j : Nat} (hj : 1 ≤ j) :
    trips a b s ≤ j ↔ b ≤ a + j * s := by
  have hs' : (0 : ℚ) < s := by exact_mod_cast hs
  rw [trips, max_le_iff, Nat.ceil_le, div_le_iff₀ hs']
  have hcast : ((b - a : Int) : ℚ) ≤ (j : ℚ) * (s : ℚ) ↔ b - a ≤ j * s := by exact_mod_cast Iff.rfl
  rw [hcast]
  omega

/-- A loop that goes down has reached its bound from the last of its rounds on. -/
theorem trips_le_iff_of_neg {a b s : Int} (hs : s < 0) {j : Nat} (hj : 1 ≤ j) :
    trips a b s ≤ j ↔ a + j * s ≤ b := by
  have hs' : (s : ℚ) < 0 := by exact_mod_cast hs
  rw [trips, max_le_iff, Nat.ceil_le, div_le_iff_of_neg hs']
  have hcast : (j : ℚ) * (s : ℚ) ≤ ((b - a : Int) : ℚ) ↔ j * s ≤ b - a := by exact_mod_cast Iff.rfl
  rw [hcast]
  omega

theorem Value.greater_int (a b : Int) : (Value.int a).greater (.int b) = .ok (decide (b < a)) := by
  have h : (some (compare a b) == some .gt) = decide (b < a) := by
    rw [Bool.eq_iff_iff]
    simp [Int.compare_eq_gt]
  exact congrArg Except.ok h

theorem Value.greaterEq_int (a b : Int) :
    (Value.int a).greaterEq (.int b) = .ok (decide (b ≤ a)) := by
  have h : (some (compare a b) == some .gt || some (compare a b) == some .eq) =
      decide (b ≤ a) := by
    rw [Bool.eq_iff_iff]
    simp only [Option.some_beq_some, Bool.or_eq_true, beq_iff_eq, Int.compare_eq_gt,
      Int.compare_eq_eq, decide_eq_true_eq]
    omega
  exact congrArg Except.ok h

theorem Value.lessEq_int (a b : Int) : (Value.int a).lessEq (.int b) = .ok (decide (a ≤ b)) := by
  have h : (some (compare a b) == some .lt || some (compare a b) == some .eq) =
      decide (a ≤ b) := by
    rw [Bool.eq_iff_iff]
    simp only [Option.some_beq_some, Bool.or_eq_true, beq_iff_eq, Int.compare_eq_lt,
      Int.compare_eq_eq, decide_eq_true_eq]
    omega
  exact congrArg Except.ok h

theorem Heap.equal_int (h : Heap) (a b : Int) : h.equal (.int a) (.int b) = .ok (a == b) := by
  unfold Heap.equal
  cases h.arrays.size * h.arrays.size <;> rfl

/-- A loop of integers has reached its bound when it has taken all its trips. -/
theorem finished_trips {a b s : Int} (name : String) (hs : s ≠ 0) {j : Nat} (hj : 1 ≤ j)
    (line : Nat) :
    Loop.finished ⟨name, .int (a + j * s), .int s, .int b, line⟩ =
      .ok (decide (trips a b s ≤ j)) := by
  unfold Loop.finished
  rw [Value.greater_int]
  rcases Int.lt_or_gt_of_ne hs with hdown | hup
  · simp only [decide_eq_false (Int.not_lt.mpr (Int.le_of_lt hdown)), Value.lessEq_int,
      trips_le_iff_of_neg hdown hj]
    rfl
  · simp only [decide_eq_true hup, Value.greaterEq_int, trips_le_iff_of_pos hup hj]
    rfl

namespace Program

variable {p : Program} {line : Line} {rest : List Line}

/-- A line that the program ends with, and others, is found by its number. -/
theorem find?_of_suffix (h : line :: rest <:+ p.lines) : p.find? line.number = some line := by
  obtain ⟨before, hlines⟩ := h
  have hascending := p.ascending
  rw [← hlines, List.pairwise_append] at hascending
  unfold find?
  rw [← hlines, List.find?_append]
  have hbefore : before.find? (fun l => (l.number : Int) == line.number) = none := by
    refine List.find?_eq_none.mpr fun l hl => ?_
    have hlt := hascending.2.2 l hl line (by simp)
    simp only [beq_iff_eq]
    omega
  rw [hbefore]
  simp

/-- The line after it is the next one of those. -/
theorem next?_of_suffix (h : line :: rest <:+ p.lines) : p.next? line.number = rest.head? := by
  obtain ⟨before, hlines⟩ := h
  have hascending := p.ascending
  rw [← hlines, List.pairwise_append, List.pairwise_cons] at hascending
  obtain ⟨-, ⟨hrest, -⟩, hbefore⟩ := hascending
  unfold next?
  rw [← hlines, List.find?_append]
  have hnone : before.find? (fun l => decide ((line.number : Int) < l.number)) = none := by
    refine List.find?_eq_none.mpr fun l hl => ?_
    have hlt := hbefore l hl line (by simp)
    simp only [decide_eq_true_eq]
    omega
  rw [hnone, Option.none_or, List.find?_cons_of_neg (by simp)]
  cases rest with
  | nil => rfl
  | cons l rest =>
      have hlt := hrest l (by simp)
      exact List.find?_cons_of_pos (decide_eq_true (by omega))

end Program

end LineBasic

import LineBasic.Program
import LineBasic.Proofs.Grammar.Numbering
import Mathlib.Algebra.Order.Ring.Int
import Mathlib.Data.List.Nodup
import Mathlib.Order.Monotone.Basic

/-!
# Renumbered programs

A strictly increasing map of line numbers renumbers a program: it is applied to the numbers of the
lines and to the targets of all jumps and calls. Looking up a line and the line after it commutes
with renumbering.

`Corresponds` relates places in a program to places in the renumbered one. A number goes with its
image; the place behind the last line, to which a call from there comes back, goes with the place
behind the image of the last line; the place before the program goes with itself.
-/

namespace LineBasic

def Command.renumber (f : Nat → Nat) : Command → Command
  | .jump target => .jump (f target)
  | .call target => .call (f target)
  | c => c

def Command.targets : Command → List Nat
  | .jump target => [target]
  | .call target => [target]
  | _ => []

def Instruction.renumber (f : Nat → Nat) : Instruction → Instruction
  | .command c => .command (c.renumber f)
  | .branch condition yes no => .branch condition (yes.renumber f) (no.map (Command.renumber f))

/-- The targets of an instruction, those of its branches included. -/
def Instruction.targets : Instruction → List Nat
  | .command c => c.targets
  | .branch _ yes no => yes.targets ++ (no.map Command.targets).getD []

def Line.renumber (f : Nat → Nat) (line : Line) : Line :=
  { number := f line.number, instruction := line.instruction.renumber f }

/-- A line number and its image are below the largest numbers that can be written, with a digit to
spare. -/
def Fits (f : Nat → Nat) (n : Nat) : Prop := n < 10 ^ 4299 ∧ f n < 10 ^ 4299

namespace Program

variable {f : Nat → Nat} {p : Program}

/-- The program with its line numbers and all targets mapped. -/
def renumber (hf : StrictMono f) (p : Program) : Program where
  lines := p.lines.map (Line.renumber f)
  ascending := List.pairwise_map.mpr (p.ascending.imp fun h => hf h)

/-- All line numbers and targets of the program fit, before and after. -/
def Fits (f : Nat → Nat) (p : Program) : Prop :=
  ∀ line ∈ p.lines, LineBasic.Fits f line.number ∧
    ∀ target ∈ line.instruction.targets, LineBasic.Fits f target

theorem first?_renumber (hf : StrictMono f) (p : Program) :
    (p.renumber hf).first? = p.first?.map (Line.renumber f) := by
  simp [first?, renumber]

theorem find?_renumber (hf : StrictMono f) (p : Program) (n : Nat) :
    (p.renumber hf).find? (f n) = (p.find? n).map (Line.renumber f) := by
  simp only [find?, renumber, List.find?_map, Function.comp_def, Line.renumber, Nat.cast_inj,
    beq_eq_decide, hf.injective.eq_iff]

theorem next?_renumber (hf : StrictMono f) (p : Program) (n : Nat) :
    (p.renumber hf).next? (f n) = (p.next? n).map (Line.renumber f) := by
  simp only [next?, renumber, List.find?_map, Function.comp_def, Line.renumber, Nat.cast_lt,
    hf.lt_iff_lt]

/-- A line is known by its number. -/
theorem eq_of_number {a b : Line} (ha : a ∈ p.lines) (hb : b ∈ p.lines)
    (hnumber : a.number = b.number) : a = b := by
  have hdistinct : (p.lines.map (·.number)).Nodup :=
    List.pairwise_map.mpr (p.ascending.imp fun hlt => Nat.ne_of_lt hlt)
  exact List.inj_on_of_nodup_map hdistinct ha hb hnumber

theorem le_of_getLast? {line last : Line} (hlast : p.lines.getLast? = some last)
    (hline : line ∈ p.lines) : line.number ≤ last.number := by
  obtain ⟨before, hlines⟩ := List.getLast?_eq_some_iff.mp hlast
  have hascending := p.ascending
  rw [hlines] at hline hascending
  rcases List.mem_append.mp hline with hline | hline
  · exact Nat.le_of_lt ((List.pairwise_append.mp hascending).2.2 line hline last (by simp))
  · rw [List.mem_singleton.mp hline]

theorem find?_behind {last : Line} (hlast : p.lines.getLast? = some last) :
    p.find? (last.number + 1) = none := by
  refine List.find?_eq_none.mpr fun line hline => ?_
  have hle := le_of_getLast? hlast hline
  simp only [beq_iff_eq]
  omega

theorem next?_behind {last : Line} (hlast : p.lines.getLast? = some last) :
    p.next? (last.number + 1) = none := by
  refine List.find?_eq_none.mpr fun line hline => ?_
  have hle := le_of_getLast? hlast hline
  simp only [decide_eq_true_eq]
  omega

theorem find?_outside (p : Program) : p.find? (-1) = none := by
  refine List.find?_eq_none.mpr fun line _ => ?_
  simp only [beq_iff_eq]
  omega

theorem next?_outside (p : Program) : p.next? (-1) = p.first? := by
  unfold next? first?
  cases p.lines with
  | nil => rfl
  | cons line rest => exact List.find?_cons_of_pos (decide_eq_true (by omega))

theorem getLast?_renumber (hf : StrictMono f) {last : Line}
    (hlast : p.lines.getLast? = some last) :
    (p.renumber hf).lines.getLast? = some (last.renumber f) := by
  simp [renumber, hlast]

/-- A line that no line follows is the last one. -/
theorem getLast?_of_next? {n : Int} {line : Line} (hfind : p.find? n = some line)
    (hnext : p.next? n = none) : p.lines.getLast? = some line := by
  have hmem := List.mem_of_find?_eq_some hfind
  have hnumber : (line.number : Int) = n := by simpa using List.find?_some hfind
  cases hlast : p.lines.getLast? with
  | none => simp [List.getLast?_eq_none_iff.mp hlast] at hmem
  | some last =>
      have hlastmem := List.mem_of_getLast? hlast
      have hle := le_of_getLast? hlast hmem
      have hnot := List.find?_eq_none.mp hnext last hlastmem
      have hsame : line.number = last.number := by
        simp only [decide_eq_true_eq] at hnot
        omega
      rw [eq_of_number hmem hlastmem hsame]

end Program

/-- The places of a program and of the renumbered program that go together. -/
inductive Corresponds (f : Nat → Nat) (p : Program) : Int → Int → Prop where
  | mapped {n : Nat} (h : Fits f n) : Corresponds f p n (f n)
  | behind {last : Line} (h : p.lines.getLast? = some last) :
      Corresponds f p (last.number + 1) (f last.number + 1)
  | outside : Corresponds f p (-1) (-1)

theorem isSome_writeInt?_of_lt {n : Nat} (h : n < 10 ^ 4299) :
    (Decimal.writeInt? (n : Int)).isSome = true ∧
      (Decimal.writeInt? (n + 1 : Int)).isSome = true := by
  have hlimit : 4299 < Decimal.digitLimit := by decide
  have hstep := Nat.pow_lt_pow_right (show 1 < 10 by decide) hlimit
  constructor
  · apply Decimal.isSome_writeInt?.mpr
    rw [Int.natAbs_natCast]
    exact Nat.lt_trans h hstep
  · apply Decimal.isSome_writeInt?.mpr
    rw [show (n + 1 : Int) = ((n + 1 : Nat) : Int) from rfl, Int.natAbs_natCast]
    exact Nat.lt_of_le_of_lt h hstep

namespace Corresponds

variable {f : Nat → Nat} {p : Program} {c c' : Int}

/-- Places that go together have numbers that can be written. -/
theorem writable (hp : p.Fits f) (h : Corresponds f p c c') :
    (Decimal.writeInt? c).isSome = true ∧ (Decimal.writeInt? c').isSome = true := by
  cases h with
  | mapped h => exact ⟨(isSome_writeInt?_of_lt h.1).1, (isSome_writeInt?_of_lt h.2).1⟩
  | behind h =>
      have hfits := (hp _ (List.mem_of_getLast? h)).1
      exact ⟨(isSome_writeInt?_of_lt hfits.1).2, (isSome_writeInt?_of_lt hfits.2).2⟩
  | outside =>
      have hminus : (Decimal.writeInt? (-1)).isSome = true := by decide +kernel
      exact ⟨hminus, hminus⟩

theorem nonneg_iff (h : Corresponds f p c c') : 0 ≤ c ↔ 0 ≤ c' := by
  cases h with
  | mapped h => simp
  | behind h => constructor <;> omega
  | outside => rfl

theorem find? (hf : StrictMono f) (h : Corresponds f p c c') :
    (p.renumber hf).find? c' = (p.find? c).map (Line.renumber f) := by
  cases h with
  | mapped h => exact p.find?_renumber hf _
  | behind h =>
      rw [Program.find?_behind h]
      exact Program.find?_behind (Program.getLast?_renumber hf h)
  | outside =>
      rw [Program.find?_outside, Program.find?_outside]
      rfl

theorem next? (hf : StrictMono f) (h : Corresponds f p c c') :
    (p.renumber hf).next? c' = (p.next? c).map (Line.renumber f) := by
  cases h with
  | mapped h => exact p.next?_renumber hf _
  | behind h =>
      rw [Program.next?_behind h]
      exact Program.next?_behind (Program.getLast?_renumber hf h)
  | outside => rw [Program.next?_outside, Program.next?_outside, Program.first?_renumber]

/-- A place on a line goes with the image of that line. -/
theorem eq_of_find? (h : Corresponds f p c c') {line : Line} (hline : p.find? c = some line) :
    c = line.number ∧ c' = f line.number := by
  have hnumber : (line.number : Int) = c := by simpa using List.find?_some hline
  cases h with
  | mapped h =>
      have hn : line.number = _ := Int.natCast_inj.mp hnumber
      simp [hn]
  | behind h =>
      rw [Program.find?_behind h] at hline
      cases hline
  | outside => omega

end Corresponds

end LineBasic

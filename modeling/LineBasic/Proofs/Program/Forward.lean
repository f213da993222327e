import LineBasic.Proofs.Machine.Performing
import LineBasic.Proofs.Program.Remarking
import LineBasic.Proofs.Program.Renumbering
import Mathlib.Data.List.Sort

/-!
# Programs that lead forward

In a program that leads forward no line goes back to where the run has been: it holds no `NEXT` and
no `RETURN`, and every jump and every call in it has a target above the line itself. From a place in
a program there is a number of lines that are not below it, and the number gets smaller when a run
leaves a line for a place above it.
-/

namespace LineBasic

/-- Whether a command goes back to a line that the run has remembered. -/
def Command.goesBack : Command → Bool
  | .next _ | .comeBack => true
  | _ => false

/-- The targets of the commands of an instruction are its targets. -/
theorem Instruction.mem_targets {i : Instruction} {c : Command} (hc : c ∈ i.commands)
    {target : Nat} (htarget : target ∈ c.targets) : target ∈ i.targets := by
  cases i with
  | command d =>
      obtain rfl := List.mem_singleton.mp hc
      exact htarget
  | branch condition yes no =>
      rcases List.mem_cons.mp hc with rfl | hno
      · exact List.mem_append_left _ htarget
      · obtain rfl := Option.mem_toList.mp hno
        exact List.mem_append_right _ htarget

namespace Program

variable {p : Program} {n n' : Int} {line : Line}

/-- No line goes back, and every target on a line is above it. -/
def Forward (p : Program) : Prop :=
  ∀ line ∈ p.lines, (∀ c ∈ line.instruction.commands, c.goesBack = false) ∧
    ∀ target ∈ line.instruction.targets, line.number < target

instance (p : Program) : Decidable p.Forward :=
  inferInstanceAs (Decidable (∀ line ∈ p.lines,
    (∀ c ∈ line.instruction.commands, c.goesBack = false) ∧
      ∀ target ∈ line.instruction.targets, line.number < target))

/-- The number of lines that are not below a place. -/
def linesAhead (p : Program) (n : Int) : Nat :=
  (p.lines.filter fun l => decide (n ≤ l.number)).length

theorem linesAhead_le (p : Program) (n : Int) : p.linesAhead n ≤ p.size :=
  List.length_filter_le _ _

/-- A run that leaves a line for a place above it has fewer lines ahead. -/
theorem linesAhead_lt (hline : p.find? n = some line) (hlt : n < n') :
    p.linesAhead n' < p.linesAhead n := by
  obtain ⟨hmem, hnumber⟩ := find?_eq_some.mp hline
  have hfewer : (p.lines.filter fun l => decide (n' ≤ l.number)) =
      (p.lines.filter fun l => decide (n ≤ l.number)).filter fun l => decide (n' ≤ l.number) := by
    rw [List.filter_filter]
    refine List.filter_congr fun l _ => ?_
    simp only [← Bool.decide_and, decide_eq_decide]
    omega
  unfold linesAhead
  rw [hfewer, List.length_filter_lt_length_iff_exists]
  refine ⟨line, List.mem_filter.mpr ⟨hmem, ?_⟩, ?_⟩
  · simp only [decide_eq_true_eq]
    omega
  · simp only [decide_eq_true_eq]
    omega

/-- Lines of a program in ascending order are among its lines as they stand there. -/
theorem sublist_of_ascending {lines : List Line}
    (hascending : lines.Pairwise fun a b => a.number < b.number)
    (hlines : ∀ line ∈ lines, line ∈ p.lines) : lines.Sublist p.lines := by
  have hantisymm : Std.Antisymm fun a b : Line => a.number < b.number :=
    ⟨fun a b hab hba => absurd hab (Nat.lt_asymm hba)⟩
  have hdistinct : lines.Nodup := hascending.imp fun hlt heq => by simp [heq] at hlt
  have hsubperm := List.subperm_of_subset hdistinct hlines
  exact List.sublist_of_subperm_of_pairwise hsubperm hascending p.ascending

end Program

end LineBasic

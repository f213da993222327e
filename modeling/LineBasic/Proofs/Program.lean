import LineBasic.Program

/-!
# Lines of a program

Lines that are given in strictly ascending order are a program as they stand. In a program whose
last line asks for no reply, every line that asks for one is followed by another line.
-/

namespace LineBasic

def Command.asks : Command → Bool
  | .input .. => true
  | _ => false

def Instruction.asks : Instruction → Bool
  | .command c => c.asks
  | .branch _ yes no => yes.asks || (no.map Command.asks).getD false

namespace Program

theorem repeated_of_ascending {lines : List Line}
    (h : lines.Pairwise fun a b => a.number < b.number) : repeated? lines = none := by
  induction lines with
  | nil => rfl
  | cons a rest ih =>
      cases rest with
      | nil => rfl
      | cons b rest =>
          have hab : a.number ≠ b.number := Nat.ne_of_lt (List.rel_of_pairwise_cons h (by simp))
          rw [repeated?, if_neg hab]
          exact ih h.of_cons

theorem sort_of_ascending {lines : List Line}
    (h : lines.Pairwise fun a b => a.number < b.number) : sort lines = lines :=
  List.mergeSort_of_pairwise (h.imp fun hab => decide_eq_true (Nat.le_of_lt hab))

/-- Lines in strictly ascending order are a program as they stand. -/
theorem ofLines_of_ascending {lines : List Line}
    (h : lines.Pairwise fun a b => a.number < b.number) :
    ofLines lines = .ok { lines := lines, ascending := h } := by
  unfold ofLines
  split
  · next n hn =>
    rw [sort_of_ascending h, repeated_of_ascending h] at hn
    cases hn
  · simp only [sort_of_ascending h]

/-- The last line of the program does not ask for a reply. -/
def ClosesQuietly (p : Program) : Prop :=
  ∀ line, p.lines.getLast? = some line → line.instruction.asks = false

theorem closesQuietly_empty : empty.ClosesQuietly := by
  intro line hline
  cases hline

/-- A line that asks for a reply is followed by another one. -/
theorem next_of_asks {p : Program} (h : p.ClosesQuietly) {n : Int} {line : Line}
    (hline : p.find? n = some line) (hasks : line.instruction.asks = true) :
    ∃ next, p.next? n = some next := by
  have hmem : line ∈ p.lines := List.mem_of_find?_eq_some hline
  have hnumber : (line.number : Int) = n := by simpa using List.find?_some hline
  cases hlast : p.lines.getLast? with
  | none =>
      rw [List.getLast?_eq_none_iff] at hlast
      rw [hlast] at hmem
      cases hmem
  | some last =>
      have hquiet := h last hlast
      obtain ⟨front, hfront⟩ := List.getLast?_eq_some_iff.mp hlast
      have hne : line ≠ last := by
        rintro rfl
        rw [hasks] at hquiet
        cases hquiet
      have hbefore : line ∈ front := by
        rw [hfront, List.mem_append, List.mem_singleton] at hmem
        exact hmem.resolve_right hne
      have hlt : line.number < last.number := by
        have hascending := p.ascending
        rw [hfront, List.pairwise_append] at hascending
        exact hascending.2.2 line hbefore last (by simp)
      have hsome : (p.next? n).isSome = true := by
        rw [next?, List.find?_isSome]
        exact ⟨last, List.mem_of_getLast? hlast, by simp only [decide_eq_true_eq]; omega⟩
      exact Option.isSome_iff_exists.mp hsome

end Program

end LineBasic

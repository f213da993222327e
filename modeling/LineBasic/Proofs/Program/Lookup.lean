import LineBasic.Program.Store
import LineBasic.Proofs.Program.Blocks
import LineBasic.Proofs.Program.Ordering
import LineBasic.Proofs.Program.Remarking

/-!
# Looking lines up

The lookups in the tables of a program agree with a scan of its lines: a number finds the line that
has it, the line after a number is the least one above it, and going from each line to the next one
visits all lines in ascending order (`lookups_scan`).
-/

namespace LineBasic

namespace Program

variable {p : Program} {n : Int}

/-! ## Bisecting -/

/-- The numbers before `lo` are at most `n`, and those from `hi` on are above it. -/
structure Parts (numbers : Array Nat) (n : Int) (lo hi : Nat) : Prop where
  below : ∀ i (_ : i < numbers.size), i < lo → (numbers[i] : Int) ≤ n
  above : ∀ i (_ : i < numbers.size), hi ≤ i → n < numbers[i]

def Ascends (numbers : Array Nat) : Prop :=
  ∀ i j (_ : i < numbers.size) (_ : j < numbers.size), i < j → numbers[i] < numbers[j]

section Bisecting

variable {numbers : Array Nat} {lo hi middle : Nat}

theorem Ascends.le (h : Ascends numbers) {i j : Nat} (hi : i < numbers.size)
    (hj : j < numbers.size) (hij : i ≤ j) : numbers[i] ≤ numbers[j] := by
  rcases Nat.lt_or_eq_of_le hij with hij | rfl
  · exact Nat.le_of_lt (h i j hi hj hij)
  · exact Nat.le_refl _

/-- A number above `n` in the middle bounds the interval from above. -/
theorem Parts.lower (h : Parts numbers n lo hi) (hascends : Ascends numbers)
    (hmiddle : middle < numbers.size) (hn : n < numbers[middle]) : Parts numbers n lo middle where
  below := h.below
  above i hi hle := by
    have := hascends.le hmiddle hi hle
    omega

/-- A number in the middle that is at most `n` bounds the interval from below. -/
theorem Parts.raise (h : Parts numbers n lo hi) (hascends : Ascends numbers)
    (hmiddle : middle < numbers.size) (hn : ¬ n < numbers[middle]) :
    Parts numbers n (middle + 1) hi where
  below i hi hlt := by
    have := hascends.le hi hmiddle (Nat.le_of_lt_succ hlt)
    omega
  above := h.above

/-- The place that is found parts the numbers that are at most `n` from those above it. -/
theorem bisect_parts (hascends : Ascends numbers) (h : hi ≤ numbers.size) (hle : lo ≤ hi)
    (hparts : Parts numbers n lo hi) :
    Parts numbers n (bisect numbers n lo hi h) (bisect numbers n lo hi h) := by
  fun_induction bisect numbers n lo hi h with
  | case1 lo hi h hlt middle hmiddle hn ih =>
      exact ih (by omega) (hparts.lower hascends hmiddle hn)
  | case2 lo hi h hlt middle hmiddle hn ih =>
      exact ih (by omega) (hparts.raise hascends hmiddle hn)
  | case3 lo hi h hlt =>
      obtain rfl : lo = hi := by omega
      exact hparts

end Bisecting

theorem store_ascends (p : Program) : Ascends p.store.numbers := by
  intro i j hi hj hij
  have hsize : p.store.numbers.size = p.lines.length := by simp [store]
  have hlt := List.pairwise_iff_getElem.mp p.ascending i j (hsize ▸ hi) (hsize ▸ hj) hij
  simpa [store] using hlt

/-! ## The tables and the lines -/

theorem store_first? (p : Program) : p.store.first? = p.first? := by
  simp [Store.first?, store, first?, List.head?_eq_getElem?]

/-- The index finds the line that a scan finds. -/
theorem store_find? (p : Program) (n : Int) : p.store.find? n = p.find? n := by
  ext l
  rw [find?_eq_some, Store.find?, Option.map_eq_some_iff]
  constructor
  · rintro ⟨i, hi, rfl⟩
    exact ⟨List.getElem_mem i.isLt, (p.store.indexed n i).mp hi⟩
  · rintro ⟨hmem, hn⟩
    obtain ⟨i, hi, rfl⟩ := List.getElem_of_mem hmem
    exact ⟨⟨i, hi⟩, (p.store.indexed n ⟨i, hi⟩).mpr hn, rfl⟩

/-- Bisecting finds the line that a scan finds. -/
theorem store_next? (p : Program) (n : Int) : p.store.next? n = p.next? n := by
  have hparts : Parts p.store.numbers n 0 p.store.numbers.size :=
    ⟨fun _ _ hlt => absurd hlt (Nat.not_lt_zero _), fun _ hi hle => absurd hi (Nat.not_lt.mpr hle)⟩
  have hplace := bisect_parts p.store_ascends (Nat.le_refl _) (Nat.zero_le _) hparts
  have hsize : p.store.numbers.size = p.lines.length := by simp [store]
  rw [Store.next?]
  generalize bisect p.store.numbers n 0 p.store.numbers.size (Nat.le_refl _) = place at hplace
  have hbelow : ∀ i (h : i < p.lines.length), i < place → (p.lines[i].number : Int) ≤ n := by
    intro i h hlt
    simpa [store] using hplace.below i (hsize ▸ h) hlt
  have habove : ∀ i (h : i < p.lines.length), place ≤ i → n < p.lines[i].number := by
    intro i h hle
    simpa [store] using hplace.above i (hsize ▸ h) hle
  have hlines : p.store.lines[place]? = p.lines[place]? := by simp [store]
  rw [hlines]
  symm
  by_cases hlt : place < p.lines.length
  · rw [List.getElem?_eq_getElem hlt, next?, List.find?_eq_some_iff_getElem]
    refine ⟨decide_eq_true (habove place hlt (Nat.le_refl _)), place, hlt, rfl, fun j hj => ?_⟩
    simpa using hbelow j (Nat.lt_trans hj hlt) hj
  · rw [List.getElem?_eq_none (Nat.not_lt.mp hlt), next?, List.find?_eq_none]
    intro l hl
    obtain ⟨i, hi, rfl⟩ := List.getElem_of_mem hl
    simpa using hbelow i hi (Nat.lt_of_lt_of_le hi (Nat.not_lt.mp hlt))

/-! ## Going from line to line -/

/-- The lines that are visited from a first one on, each as the line after the one before it, until
there is none. -/
inductive Visits (next : Int → Option Line) : Option Line → List Line → Prop
  | done : Visits next none []
  | line {l : Line} {rest : List Line} :
      Visits next (next l.number) rest → Visits next (some l) (l :: rest)

theorem visits_suffix {rest : List Line} (h : rest <:+ p.lines) :
    Visits p.next? rest.head? rest := by
  induction rest with
  | nil => exact .done
  | cons line rest ih =>
      refine .line ?_
      rw [next?_of_suffix h]
      exact ih ((List.suffix_cons line rest).trans h)

/-- The lookups of a program agree with a scan of the lines that it is given, in whatever order
these are, if their numbers are distinct. A number finds the one line that has it. The line after a
number, be it the number of a line or not, is the one with the least number above it. And from the
first line on, all lines are visited, each once and in ascending order, until there is no next one.
-/
theorem lookups_scan {lines : List Line} (hdistinct : (numbers lines).Nodup) :
    ∃ p, ofLines lines = .ok p ∧
      (∀ (n : Int) (l : Line), p.store.find? n = some l ↔ l ∈ lines ∧ (l.number : Int) = n) ∧
      (∀ (n : Int) (l : Line), p.store.next? n = some l ↔
        l ∈ lines ∧ n < l.number ∧ ∀ l' ∈ lines, n < l'.number → l.number ≤ l'.number) ∧
      (∃ visited, Visits p.store.next? p.store.first? visited ∧ visited.Perm lines ∧
        visited.Pairwise fun a b => a.number < b.number) ∧
      p.store.first? = p.first? ∧ p.store.find? = p.find? ∧ p.store.next? = p.next? := by
  obtain ⟨p, hp, hlines⟩ := ofLines_of_nodup hdistinct
  have hfind : p.store.find? = p.find? := funext p.store_find?
  have hnext : p.store.next? = p.next? := funext p.store_next?
  refine ⟨p, hp, fun n l => ?_, fun n l => ?_, ⟨p.lines, ?_, hlines, p.ascending⟩,
    p.store_first?, hfind, hnext⟩
  · rw [hfind, find?_eq_some, hlines.mem_iff]
  · rw [hnext, next?_eq_some, hlines.mem_iff]
    simp only [hlines.mem_iff]
  · rw [hnext, p.store_first?]
    exact visits_suffix (List.suffix_refl _)

def unsorted : List Line :=
  [{ number := 30, instruction := .command .halt },
    { number := 10, instruction := .command .clearAll },
    { number := 20, instruction := .command .clearConsole }]

theorem lookups_scan_unsorted :
    (numbers unsorted).Nodup ∧ ∃ p, ofLines unsorted = .ok p ∧
      p.store.find? 20 = some { number := 20, instruction := .command .clearConsole } ∧
      p.store.next? (-1) = some { number := 10, instruction := .command .clearAll } ∧
      p.store.next? 25 = some { number := 30, instruction := .command .halt } ∧
      p.store.next? 30 = none := by
  have hdistinct : (numbers unsorted).Nodup := by decide
  obtain ⟨p, hp, hfind, hnext, -⟩ := lookups_scan hdistinct
  refine ⟨hdistinct, p, hp, (hfind _ _).mpr (by simp [unsorted]),
    (hnext _ _).mpr (by simp [unsorted]), (hnext _ _).mpr (by simp [unsorted]),
    Option.eq_none_iff_forall_ne_some.mpr fun l hl => ?_⟩
  obtain ⟨hmem, hlt, -⟩ := (hnext 30 l).mp hl
  have hnone : ∀ l ∈ unsorted, ¬ (30 : Int) < l.number := by decide
  exact hnone l hmem hlt

end Program

end LineBasic

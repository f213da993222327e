import LineBasic.Machine.Basic
import LineBasic.Proofs.Program.Renumbering

/-!
# A program with a remark more

A line can be put into a program at any number. A `Remark` of a program is a remark to be put in at
a number that no line has and no jump or call goes to, before the last line. `Remark.skip` takes the
places of the program with the remark to places of the program without it: the remark goes with the
line after it, and all other places with themselves. Looking up a line and the line after it
commutes with this, everywhere but at the remark.
-/

namespace LineBasic

namespace Program

variable {p : Program} {line l : Line} {n : Int}

theorem find?_eq_some : p.find? n = some l ↔ l ∈ p.lines ∧ (l.number : Int) = n := by
  constructor
  · intro h
    exact ⟨List.mem_of_find?_eq_some h, by simpa using List.find?_some h⟩
  · rintro ⟨hmem, rfl⟩
    cases hfind : p.find? l.number with
    | none => exact absurd (List.find?_eq_none.mp hfind l hmem) (by simp)
    | some l' =>
        have hnumber : l'.number = l.number := by simpa using List.find?_some hfind
        rw [eq_of_number (List.mem_of_find?_eq_some hfind) hmem hnumber]

/-- The line after a number is the least one above it. -/
theorem next?_eq_some : p.next? n = some l ↔
    l ∈ p.lines ∧ n < l.number ∧ ∀ l' ∈ p.lines, n < l'.number → l.number ≤ l'.number := by
  have hleast : ∀ {l}, p.next? n = some l →
      l ∈ p.lines ∧ n < l.number ∧ ∀ l' ∈ p.lines, n < l'.number → l.number ≤ l'.number := by
    intro l h
    obtain ⟨habove, front, rest, hlines, hfront⟩ := List.find?_eq_some_iff_append.mp h
    have hascending := p.ascending
    rw [hlines] at hascending
    refine ⟨by simp [hlines], by simpa using habove, fun l' hl' hn => ?_⟩
    rw [hlines] at hl'
    rcases List.mem_append.mp hl' with hl' | hl'
    · have hbelow := hfront l' hl'
      simp [hn] at hbelow
    · rcases List.mem_cons.mp hl' with rfl | hl'
      · exact Nat.le_refl _
      · have htail := (List.pairwise_append.mp hascending).2.1
        exact Nat.le_of_lt (List.rel_of_pairwise_cons htail hl')
  refine ⟨hleast, ?_⟩
  rintro ⟨hmem, habove, hmin⟩
  cases hnext : p.next? n with
  | none => exact absurd (List.find?_eq_none.mp hnext l hmem) (by simpa using habove)
  | some l' =>
      obtain ⟨hmem', habove', hmin'⟩ := hleast hnext
      have hle := hmin' l hmem habove
      have hge := hmin l' hmem' habove'
      rw [eq_of_number hmem' hmem (Nat.le_antisymm hle hge)]

/-- The program with a line put in, in place of the line with the same number if there is one. -/
def put (p : Program) (line : Line) : Program where
  lines := p.lines.filter (fun l => l.number < line.number) ++
    line :: p.lines.filter (fun l => line.number < l.number)
  ascending := by
    refine List.pairwise_append.mpr ⟨p.ascending.filter _, ?_, ?_⟩
    · refine List.pairwise_cons.mpr ⟨fun l hl => ?_, p.ascending.filter _⟩
      simpa using (List.mem_filter.mp hl).2
    · intro a ha b hb
      have hbelow : a.number < line.number := by simpa using (List.mem_filter.mp ha).2
      rcases List.mem_cons.mp hb with rfl | hb
      · exact hbelow
      · have habove : line.number < b.number := by simpa using (List.mem_filter.mp hb).2
        exact Nat.lt_trans hbelow habove

theorem mem_put : l ∈ (p.put line).lines ↔ l = line ∨ l ∈ p.lines ∧ l.number ≠ line.number := by
  simp only [put, List.mem_append, List.mem_cons, List.mem_filter, decide_eq_true_eq]
  constructor
  · rintro (⟨hl, hlt⟩ | rfl | ⟨hl, hlt⟩)
    · exact .inr ⟨hl, Nat.ne_of_lt hlt⟩
    · exact .inl rfl
    · exact .inr ⟨hl, Nat.ne_of_gt hlt⟩
  · rintro (rfl | ⟨hl, hne⟩)
    · exact .inr (.inl rfl)
    · rcases Nat.lt_or_gt_of_ne hne with hlt | hlt
      · exact .inl ⟨hl, hlt⟩
      · exact .inr (.inr ⟨hl, hlt⟩)

theorem find?_put_self : (p.put line).find? line.number = some line :=
  find?_eq_some.mpr ⟨mem_put.mpr (.inl rfl), rfl⟩

theorem find?_put (h : n ≠ line.number) : (p.put line).find? n = p.find? n := by
  ext l
  rw [find?_eq_some, find?_eq_some, mem_put]
  constructor
  · rintro ⟨rfl | ⟨hl, -⟩, hn⟩
    · exact absurd hn.symm h
    · exact ⟨hl, hn⟩
  · rintro ⟨hl, rfl⟩
    exact ⟨.inr ⟨hl, fun hsame => h (by rw [hsame])⟩, rfl⟩

end Program

/-- A remark that can be put into a program without being noticed: no line has its number, no jump
or call goes there, and there is a line after it. -/
structure Remark (p : Program) where
  number : Nat
  text : String
  next : Line
  fresh : ∀ line ∈ p.lines, line.number ≠ number
  untargeted : ∀ line ∈ p.lines, number ∉ line.instruction.targets
  follows : p.next? number = some next

namespace Remark

variable {p : Program} {n : Int}

def line (q : Remark p) : Line := { number := q.number, instruction := .command (.remark q.text) }

def program (q : Remark p) : Program := p.put q.line

/-- The place in the program without the remark: the line after it stands for the remark. -/
def skip (q : Remark p) (n : Int) : Int := if n = q.number then q.next.number else n

/-- The loop with the place that it goes back to taken to the program without the remark. -/
def skipLoop (q : Remark p) (loop : Loop) : Loop :=
  { loop with line := if loop.line = q.number then q.next.number else loop.line }

@[simp] theorem skip_number (q : Remark p) : q.skip q.number = q.next.number := if_pos rfl

theorem skip_of_ne (q : Remark p) (h : n ≠ q.number) : q.skip n = n := if_neg h

theorem skipLoop_line (q : Remark p) (loop : Loop) :
    ((q.skipLoop loop).line : Int) = q.skip loop.line := by
  by_cases h : loop.line = q.number
  · simp [skipLoop, skip, h]
  · simp [skipLoop, skip, h]

/-- Loops that are opened at places that go together. -/
theorem skipLoop_eq (q : Remark p) {l l' : Line} (h : (l'.number : Int) = q.skip l.number)
    (name : String) (value increment bound : Value) :
    q.skipLoop ⟨name, value, increment, bound, l.number⟩ =
      ⟨name, value, increment, bound, l'.number⟩ := by
  have hline := q.skipLoop_line ⟨name, value, increment, bound, l.number⟩
  rw [← h, Int.natCast_inj] at hline
  rw [← hline]
  rfl

theorem next_mem (q : Remark p) : q.next ∈ p.lines := (Program.next?_eq_some.mp q.follows).1

theorem number_lt (q : Remark p) : q.number < q.next.number := by
  exact_mod_cast (Program.next?_eq_some.mp q.follows).2.1

/-- A line of the program without the remark keeps its place. -/
theorem skip_of_mem (q : Remark p) {l : Line} (h : l ∈ p.lines) : q.skip l.number = l.number :=
  q.skip_of_ne fun hsame => q.fresh l h (Int.natCast_inj.mp hsame)

theorem mem_program (q : Remark p) {l : Line} :
    l ∈ q.program.lines ↔ l = q.line ∨ l ∈ p.lines := by
  rw [program, Program.mem_put]
  refine or_congr_right ⟨And.left, fun hl => ⟨hl, q.fresh l hl⟩⟩

theorem find?_number (q : Remark p) : q.program.find? q.number = some q.line :=
  Program.find?_put_self

theorem find?_program (q : Remark p) (h : n ≠ q.number) : q.program.find? n = p.find? n :=
  Program.find?_put h

theorem next?_number (q : Remark p) : q.program.next? q.number = some q.next := by
  obtain ⟨hmem, habove, hmin⟩ := Program.next?_eq_some.mp q.follows
  refine Program.next?_eq_some.mpr ⟨q.mem_program.mpr (.inr hmem), habove, fun l hl hn => ?_⟩
  rcases q.mem_program.mp hl with rfl | hl
  · exact absurd hn (by simp [line])
  · exact hmin l hl hn

/-- The lines after a number go together. -/
theorem next?_program (q : Remark p) (n : Int) :
    Option.Rel (fun l l' : Line => (l'.number : Int) = q.skip l.number) (q.program.next? n)
      (p.next? n) := by
  cases hnext : q.program.next? n with
  | none =>
      have hnone : p.next? n = none := by
        refine List.find?_eq_none.mpr fun l hl => ?_
        exact List.find?_eq_none.mp hnext l (q.mem_program.mpr (.inr hl))
      rw [hnone]
      exact .none
  | some l =>
      obtain ⟨hmem, habove, hmin⟩ := Program.next?_eq_some.mp hnext
      rcases q.mem_program.mp hmem with rfl | hl
      · -- the remark comes next, and the line after it comes next where it is left out
        have hsome : p.next? n = some q.next := by
          obtain ⟨hmem', habove', hmin'⟩ := Program.next?_eq_some.mp q.follows
          refine Program.next?_eq_some.mpr ⟨hmem', Int.lt_trans habove habove', ?_⟩
          intro l' hl' hn
          have hle : q.number ≤ l'.number := hmin l' (q.mem_program.mpr (.inr hl')) hn
          have hne := q.fresh l' hl'
          exact hmin' l' hl' (by omega)
        rw [hsome]
        exact .some q.skip_number.symm
      · have hsome : p.next? n = some l := by
          refine Program.next?_eq_some.mpr ⟨hl, habove, fun l' hl' hn => ?_⟩
          exact hmin l' (q.mem_program.mpr (.inr hl')) hn
        rw [hsome]
        exact .some (q.skip_of_mem hl).symm

/-- A line that no line follows is behind the remark. -/
theorem skip_succ (q : Remark p) (h : q.program.next? n = none) : q.skip (n + 1) = n + 1 := by
  have hlast : ¬ n < q.number := fun hlt =>
    List.find?_eq_none.mp h q.line (q.mem_program.mpr (.inl rfl)) (decide_eq_true hlt)
  apply q.skip_of_ne
  omega

/-- A place and the place that goes with it can both be written, or neither. -/
theorem isSome_writeInt?_skip (q : Remark p) (hp : p.Writable) (n : Int) :
    (Decimal.writeInt? (q.skip n)).isSome = (Decimal.writeInt? n).isSome := by
  by_cases h : n = q.number
  · have hnext := hp q.next q.next_mem
    have hnumber : (Decimal.writeInt? (q.number : Int)).isSome = true := by
      rw [Decimal.isSome_writeInt?, Int.natAbs_natCast] at hnext ⊢
      exact Nat.lt_trans q.number_lt hnext
    rw [h, q.skip_number, hnext, hnumber]
  · rw [q.skip_of_ne h]

end Remark

end LineBasic

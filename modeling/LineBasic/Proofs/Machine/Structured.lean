import LineBasic.Proofs.Machine.Placing
import LineBasic.Proofs.Table

/-!
# Runs of structured programs

`performBlock` says what a block does without lines and jumps: commands are performed one after
another, and a loop performs its body so many times as its bounds say, each time with its variable
set anew. A program that is a flattened block comes to the same end.

Within a loop the registry holds its record, which no loop inside it touches; `Open` lists the
records of the loops around a place. By induction on the block, and in it on the rounds of a loop,
the run comes from the lines of the block to those after them.
-/

namespace LineBasic

namespace Machine

variable {α β : Type} {k m s s₁ : Machine} {p : Program} {n : Int} {L : Table String Loop}
  {runs : Runs} {line : Line} {rest after : List Line}

/-! ## Blocks -/

/-- The start, the increment and the bound of a loop, in the order in which they are evaluated. -/
def bounds (start step stop : Formula) : Action (Value × Value × Value) := do
  let value ← evaluate start
  let increment ← evaluate step
  let bound ← evaluate stop
  return (value, increment, bound)

/-- The rounds of a loop: before round `i` its variable is set to `a + i * s`, and after the last
one it is one increment further. -/
def rounds (name : String) (a s : Int) (body : Course Unit) (n : Nat) : Course Unit := do
  forM (List.range n) fun (i : Nat) => do
    course (setVariable name (.int (a + i * s)))
    body
  course (setVariable name (.int (a + n * s)))

/-- Performs a block. It has no result when the start, the increment or the bound of a loop is not
an integer. -/
def performBlock : Block → Course Unit
  | .empty => return
  | .command c _ rest => do
    let _ ← course (performCommand c)
    performBlock rest
  | .loop name start stop step body rest => do
    match ← course (bounds start step stop) with
    | (.int a, .int s, .int b) =>
      if s = 0 then throw (.run (.zeroStep name) none)
      rounds name a s (performBlock body) (trips a b s)
      performBlock rest
    | _ => fun _ => none

theorem rounds_zero (name : String) (a s : Int) (body : Course Unit) :
    rounds name a s body 0 = course (setVariable name (.int a)) := by
  simp [rounds]

theorem rounds_succ (name : String) (a s : Int) (body : Course Unit) (n : Nat) :
    rounds name a s body (n + 1) = (do
      rounds name a s body n
      body
      course (setVariable name (.int (a + (n + 1 : Nat) * s)))) := by
  simp only [rounds, List.range_succ, List.forM_append, bind_assoc, List.forM_cons, List.forM_nil,
    pure_bind]

theorem performCommand_loop (name : String) (start stop step : Formula) :
    performCommand (.loop name start stop step) = (do
      let (value, increment, bound) ← bounds start step stop
      startLoop name value increment bound
      return .quiet) := by
  simp only [performCommand, bounds, bind_assoc, pure_bind]

theorem EvalFrame.bounds {R : Machine → Machine → Prop} (F : EvalFrame R)
    (start step stop : Formula) :
    Simulates R (bounds start step stop) (bounds start step stop) := by
  refine simulates_bind (F.evaluate start) fun a => ?_
  refine simulates_bind (F.evaluate step) fun s => ?_
  exact simulates_bind (F.evaluate stop) fun b => simulates_pure _

/-! ## Loops -/

def assigned (name : String) (x : Int) (s : Machine) : Machine :=
  { s with vars := s.vars.insert name (.int x) }

theorem Beside.assigned (h : Beside k p n L s m) (name : String) (x : Int) :
    Beside k p n L (assigned name x s) { m with vars := m.vars.insert name (.int x) } := by
  cases h
  constructor

/-- Opening a loop of integers on a line that another one follows. -/
theorem run_startLoop (h : Beside k p n L s m) {next : Line} (hnext : p.next? n = some next)
    (name : String) {a t b : Int} (ht : t ≠ 0) :
    ∃ m₁, (startLoop name (.int a) (.int t) (.int b)).run.run m = (.ok (), m₁) ∧
      Beside k p n (L.insert name ⟨name, .int a, .int t, .int b, next.number⟩)
        (assigned name a s) m₁ := by
  obtain ⟨log, hlog⟩ := run_trace 1 ("marking loop " ++ name) m
  have hplace : m.program.next? m.cursor = some next := by rw [h.program, h.cursor, hnext]
  have hzero : ¬ (t == 0) = true := by simpa using ht
  refine ⟨_, ?_, ((h.log log).assigned name a).setLoop name _⟩
  unfold startLoop
  rw [run_bind, hlog]
  dsimp only
  rw [run_bind, run_get]
  dsimp only
  rw [run_bind, run_liftM, Heap.equal_int]
  dsimp only
  rw [if_neg hzero]
  unfold setVariable
  rw [run_bind, run_modify]
  dsimp only
  rw [run_bind, run_get]
  dsimp only
  rw [hplace]
  rfl

/-- A loop that would never end is not opened. -/
theorem run_startLoop_zero (h : Beside k p n L s m) (name : String) (a b : Int) :
    ∃ m₁, (startLoop name (.int a) (.int 0) (.int b)).run.run m =
        (.error (.run (.zeroStep name) none), m₁) ∧ Beside k p n L s m₁ := by
  obtain ⟨log, hlog⟩ := run_trace 1 ("marking loop " ++ name) m
  refine ⟨_, ?_, h.log log⟩
  unfold startLoop
  rw [run_bind, hlog]
  dsimp only
  rw [run_bind, run_get]
  dsimp only
  rw [run_bind, run_liftM, Heap.equal_int]
  rfl

/-- The record of a loop of integers after some rounds. -/
def loopAfter (name : String) (a t b : Int) (line : Line) (i : Nat) : Loop :=
  ⟨name, .int (a + i * t), .int t, .int b, line.number⟩

/-- Taking a loop of integers one step further, up to whether it goes back. -/
theorem run_advanceLoop (h : Beside k p n L s m) {name : String} {a t b : Int} {first : Line}
    {i : Nat} (hloop : L.get? name = some (loopAfter name a t b first i)) (ht : t ≠ 0) :
    ∃ m₁, (advanceLoop name).run.run m =
        (if trips a b t ≤ i + 1 then pure () else jumpTo first.number : Action Unit).run.run m₁ ∧
      Beside k p n (L.insert name (loopAfter name a t b first (i + 1)))
        (assigned name (a + (i + 1 : Nat) * t) s) m₁ := by
  obtain ⟨log, hlog⟩ := run_trace 1 ("jumping to loop " ++ name) m
  have hplace : m.loops.get? name = some (loopAfter name a t b first i) := by rw [h.loops, hloop]
  have hplus : (Value.int (a + i * t)).plus (.int t) = .ok (.int (a + (i + 1 : Nat) * t)) := by
    have hsum : a + i * t + t = a + (i + 1 : Nat) * t := by
      push_cast
      ring
    rw [← hsum]
    rfl
  have hfinished := finished_trips (a := a) (b := b) name ht (Nat.le_add_left 1 i) first.number
  refine ⟨_, ?_, ((h.log log).setLoop name _).assigned name _⟩
  unfold advanceLoop
  rw [run_bind, hlog]
  dsimp only
  rw [run_bind, run_get]
  dsimp only
  rw [hplace]
  dsimp only [loopAfter]
  rw [run_bind, run_liftM, hplus]
  dsimp only
  rw [run_bind, run_modify]
  dsimp only
  unfold setVariable
  rw [run_bind, run_modify]
  dsimp only
  rw [run_bind, run_liftM, hfinished]
  simp only [decide_eq_true_eq]

namespace Comes

/-- A command on data does to a run what it does to the machine beside it. -/
theorem plain (H : Hosts k p) (h : Comes k p runs (line :: rest) L s) {c : Command}
    (hline : line.instruction = .command c) (hplain : c.isPlain = true) :
    match (performCommand c).run.run s with
    | (.ok _, s₁) => Comes k p runs rest L s₁
    | (.error e, s₁) => Fails p runs e s₁ := by
  have hcommand := (beside_plainFrame (n := line.number) (L := L) H).performCommand hplain
  rcases hperform : (performCommand c).run.run s with ⟨e | reaction, s₁⟩
  · refine h.fails H fun m hbeside => ?_
    rw [hline, performInstruction]
    exact hcommand.result hbeside hperform
  · refine h.goesOn H fun m hbeside => ⟨reaction, ?_⟩
    rw [hline, performInstruction]
    exact hcommand.result hbeside hperform

/-- A loop whose bounds cannot be evaluated ends the run. -/
theorem bounds_fail (H : Hosts k p) (h : Comes k p runs (line :: rest) L s) {name : String}
    {start stop step : Formula} (hline : line.instruction = .command (.loop name start stop step))
    {e : Fault} (hbounds : (bounds start step stop).run.run s = (.error e, s₁)) :
    Fails p runs e s₁ := by
  refine h.fails H fun m hbeside => ?_
  obtain ⟨m₁, hrun, hbeside₁⟩ :=
    ((beside_plainFrame H).bounds start step stop).result hbeside hbounds
  rw [hline, performInstruction, performCommand_loop, run_bind, hrun]
  exact ⟨m₁, rfl, hbeside₁⟩

/-- So does a loop with an increment of zero. -/
theorem zeroStep_fail (H : Hosts k p) (h : Comes k p runs (line :: rest) L s) {name : String}
    {start stop step : Formula} (hline : line.instruction = .command (.loop name start stop step))
    {a b : Int}
    (hbounds : (bounds start step stop).run.run s = (.ok (.int a, .int 0, .int b), s₁)) :
    Fails p runs (.run (.zeroStep name) none) s₁ := by
  refine h.fails H fun m hbeside => ?_
  obtain ⟨m₁, hrun, hbeside₁⟩ :=
    ((beside_plainFrame H).bounds start step stop).result hbeside hbounds
  obtain ⟨m₂, hstart, hbeside₂⟩ := run_startLoop_zero hbeside₁ name a b
  rw [hline, performInstruction, performCommand_loop, run_bind, hrun]
  dsimp only
  rw [run_bind, hstart]
  exact ⟨m₂, rfl, hbeside₂⟩

/-- Any other loop of integers is opened: its record is entered and its variable is set. -/
theorem opens {first : Line} (H : Hosts k p) (h : Comes k p runs (line :: first :: rest) L s)
    {name : String} {start stop step : Formula}
    (hline : line.instruction = .command (.loop name start stop step)) {a t b : Int} (ht : t ≠ 0)
    (hbounds : (bounds start step stop).run.run s = (.ok (.int a, .int t, .int b), s₁)) :
    Comes k p runs (first :: rest) (L.insert name (loopAfter name a t b first 0))
      (assigned name a s₁) := by
  have hnext : p.next? line.number = some first := p.next?_of_suffix h.suffix
  refine h.goesOn H fun m hbeside => ?_
  obtain ⟨m₁, hrun, hbeside₁⟩ :=
    ((beside_plainFrame H).bounds start step stop).result hbeside hbounds
  obtain ⟨m₂, hstart, hbeside₂⟩ := run_startLoop hbeside₁ hnext name ht
  have hrecord : loopAfter name a t b first 0 = ⟨name, .int a, .int t, .int b, first.number⟩ := by
    simp [loopAfter]
  rw [hline, performInstruction, performCommand_loop, run_bind, hrun, hrecord]
  dsimp only
  rw [run_bind, hstart]
  exact ⟨.quiet, m₂, rfl, hbeside₂⟩

/-- `NEXT` goes back to the start of its loop while there are trips left. -/
theorem goesBack (H : Hosts k p) (h : Comes k p runs (line :: rest) L s) {name : String}
    (hline : line.instruction = .command (.next name)) {a t b : Int} {first : Line} {i : Nat}
    (hloop : L.get? name = some (loopAfter name a t b first i)) (ht : t ≠ 0)
    (htrips : i + 1 < trips a b t) (hfirst : first :: after <:+ p.lines) :
    Comes k p runs (first :: after) (L.insert name (loopAfter name a t b first (i + 1)))
      (assigned name (a + (i + 1 : Nat) * t) s) := by
  refine h.jumps H hfirst fun m hbeside => ?_
  obtain ⟨m₁, hrun, hbeside₁⟩ := run_advanceLoop hbeside hloop ht
  obtain ⟨digits, hdigits⟩ := Option.isSome_iff_exists.mp
    (H.writable first (hfirst.mem (by simp)))
  obtain ⟨log, hlog⟩ := run_trace 1 ("goto " ++ digits) m₁
  refine ⟨.quiet, _, ?_, hbeside₁.log log⟩
  rw [hline, performInstruction, performCommand, run_bind, hrun, if_neg (Nat.not_le.mpr htrips)]
  unfold jumpTo
  rw [hdigits]
  dsimp only
  rw [run_bind, hlog]
  rfl

/-- After the last trip it lets the run go on behind the loop. -/
theorem leaves (H : Hosts k p) (h : Comes k p runs (line :: rest) L s) {name : String}
    (hline : line.instruction = .command (.next name)) {a t b : Int} {first : Line} {i : Nat}
    (hloop : L.get? name = some (loopAfter name a t b first i)) (ht : t ≠ 0)
    (htrips : trips a b t ≤ i + 1) :
    Comes k p runs rest (L.insert name (loopAfter name a t b first (i + 1)))
      (assigned name (a + (i + 1 : Nat) * t) s) := by
  refine h.goesOn H fun m hbeside => ?_
  obtain ⟨m₁, hrun, hbeside₁⟩ := run_advanceLoop hbeside hloop ht
  refine ⟨.quiet, m₁, ?_, hbeside₁⟩
  rw [hline, performInstruction, performCommand, run_bind, hrun, if_pos htrips]
  rfl

end Comes

/-! ## Blocks among lines -/

/-- The registry holds the records of the loops around a place. -/
def Open (around : List (String × Loop)) (L : Table String Loop) : Prop :=
  ∀ entry ∈ around, L.get? entry.1 = some entry.2

variable {around around' : List (String × Loop)} {mid : List Line}

theorem Open.tail {entry : String × Loop} (h : Open (entry :: around) L) : Open around L :=
  fun e he => h e (List.mem_cons_of_mem entry he)

theorem Open.insert (h : Open around L) {name : String} (hname : ∀ entry ∈ around, entry.1 ≠ name)
    (loop : Loop) : Open ((name, loop) :: around) (L.insert name loop) := by
  intro entry hentry
  rcases List.mem_cons.mp hentry with rfl | hentry
  · simp
  · have hother : ¬ (name == entry.1) = true := by simpa using (hname entry hentry).symm
    rw [Table.get?_insert, if_neg hother]
    exact h entry hentry

/-- What a course that is performed beside a run comes to: the run comes to some lines with the
loops around them open, or it fails too. -/
inductive Proceeds (k : Machine) (p : Program) (runs : Runs) (after : List Line)
    (around : List (String × Loop)) : Except Fault α × Machine → Prop where
  | ok {x : α} {L : Table String Loop} {s : Machine} (comes : Comes k p runs after L s)
      (holds : Open around L) : Proceeds k p runs after around (.ok x, s)
  | error {e : Fault} {s : Machine} (fails : Fails p runs e s) :
      Proceeds k p runs after around (.error e, s)

/-- A course carries a run from some lines to others. -/
def Carries (k : Machine) (p : Program) (runs : Runs) (a : Course α) (before after : List Line)
    (around around' : List (String × Loop)) : Prop :=
  ∀ ⦃L s x⦄, Comes k p runs before L s → Open around L → a s = some x →
    Proceeds k p runs after around' x

theorem Proceeds.bind {a : Course α} {f : α → Course β}
    (ha : ∀ y, a s = some y → Proceeds k p runs mid around y)
    (hf : ∀ v, Carries k p runs (f v) mid after around around') {x : Except Fault β × Machine}
    (hx : (a >>= f) s = some x) : Proceeds k p runs after around' x := by
  rw [course_bind] at hx
  cases hy : a s with
  | none =>
      rw [hy] at hx
      cases hx
  | some y =>
      rw [hy] at hx
      cases ha y hy with
      | ok comes holds => exact hf _ comes holds hx
      | error fails =>
          cases hx
          exact .error fails

theorem Carries.bind {a : Course α} {f : α → Course β} {before : List Line}
    {around'' : List (String × Loop)} (ha : Carries k p runs a before mid around around')
    (hf : ∀ v, Carries k p runs (f v) mid after around' around'') :
    Carries k p runs (a >>= f) before after around around'' :=
  fun _ _ _ hcomes hopen hx => Proceeds.bind (fun _ hy => ha hcomes hopen hy) hf hx

section Rounds

variable {name : String} {a t b : Int} {first : Line} {body : Course Unit}

/-- `NEXT` sets the variable for the next round. -/
theorem carries_goesBack (H : Hosts k p) (hline : line.instruction = .command (.next name))
    (hname : ∀ entry ∈ around, entry.1 ≠ name) (ht : t ≠ 0) (hfirst : first :: after <:+ p.lines)
    {i : Nat} (htrips : i + 1 < trips a b t) :
    Carries k p runs (course (setVariable name (.int (a + (i + 1 : Nat) * t)))) (line :: rest)
      (first :: after) ((name, loopAfter name a t b first i) :: around)
      ((name, loopAfter name a t b first (i + 1)) :: around) := by
  intro L s x hcomes hopen hx
  cases hx
  have hloop := hopen _ List.mem_cons_self
  exact .ok (hcomes.goesBack H hline hloop ht htrips hfirst) (hopen.tail.insert hname _)

theorem carries_leaves (H : Hosts k p) (hline : line.instruction = .command (.next name))
    (hname : ∀ entry ∈ around, entry.1 ≠ name) (ht : t ≠ 0) {i : Nat}
    (htrips : trips a b t ≤ i + 1) :
    Carries k p runs (course (setVariable name (.int (a + (i + 1 : Nat) * t)))) (line :: rest) rest
      ((name, loopAfter name a t b first i) :: around) around := by
  intro L s x hcomes hopen hx
  cases hx
  have hloop := hopen _ List.mem_cons_self
  exact .ok (hcomes.leaves H hline hloop ht htrips) (hopen.tail.insert hname _).tail

/-- From the opening of a loop to the start of one of its rounds. -/
theorem proceeds_rounds (H : Hosts k p) (hline : line.instruction = .command (.next name))
    (hname : ∀ entry ∈ around, entry.1 ≠ name) (ht : t ≠ 0)
    (hbody : ∀ i, Carries k p runs body (first :: after) (line :: rest)
      ((name, loopAfter name a t b first i) :: around)
      ((name, loopAfter name a t b first i) :: around))
    (hcomes : Comes k p runs (first :: after) L (assigned name a s))
    (hopen : Open ((name, loopAfter name a t b first 0) :: around) L) {i : Nat}
    (hi : i < trips a b t) {x : Except Fault Unit × Machine}
    (hx : rounds name a t body i s = some x) :
    Proceeds k p runs (first :: after) ((name, loopAfter name a t b first i) :: around) x := by
  -- The variable of the loop may have any value when its `NEXT` is reached. It is the record in the
  -- registry that carries the induction from one round to the next.
  induction i generalizing x with
  | zero =>
      rw [rounds_zero] at hx
      cases hx
      exact .ok hcomes hopen
  | succ i ih =>
      rw [rounds_succ] at hx
      refine Proceeds.bind (fun y hy => ih (by omega) hy) (fun _ => ?_) hx
      exact (hbody i).bind fun _ => carries_goesBack H hline hname ht hcomes.suffix hi

/-- From the opening of a loop to the lines behind it. -/
theorem proceeds_loop (H : Hosts k p) (hline : line.instruction = .command (.next name))
    (hname : ∀ entry ∈ around, entry.1 ≠ name) (ht : t ≠ 0)
    (hbody : ∀ i, Carries k p runs body (first :: after) (line :: rest)
      ((name, loopAfter name a t b first i) :: around)
      ((name, loopAfter name a t b first i) :: around))
    (hcomes : Comes k p runs (first :: after) L (assigned name a s))
    (hopen : Open ((name, loopAfter name a t b first 0) :: around) L)
    {x : Except Fault Unit × Machine} (hx : rounds name a t body (trips a b t) s = some x) :
    Proceeds k p runs rest around x := by
  obtain ⟨i, hi⟩ : ∃ i, trips a b t = i + 1 := Nat.exists_eq_add_of_le' (one_le_trips a b t)
  have hlast : i < trips a b t := by omega
  rw [hi, rounds_succ] at hx
  refine Proceeds.bind
    (fun y hy => proceeds_rounds H hline hname ht hbody hcomes hopen hlast hy) (fun _ => ?_) hx
  exact (hbody i).bind fun _ => carries_leaves H hline hname ht (Nat.le_of_eq hi)

end Rounds

/-- Performing a block carries a run from the lines of the block to those after them, whatever loops
are around it. -/
theorem carries_performBlock (H : Hosts k p) {block : Block} (hseparate : block.Separate)
    (haround : ∀ entry ∈ around, entry.1 ∉ block.names) {code : List Line}
    (hcode : code.map (·.instruction) = block.flatten.map .command) :
    Carries k p runs (performBlock block) (code ++ after) after around around := by
  -- The body of a loop is a block with one more loop around it, and is followed by a `NEXT`.
  induction block generalizing around code after with
  | empty =>
      intro L s x hcomes hopen hx
      have hnil : code = [] := List.map_eq_nil_iff.mp hcode
      rw [hnil] at hcomes
      cases hx
      exact .ok hcomes hopen
  | command c plain tail ih =>
      obtain ⟨line, code', rfl, hline, hcode'⟩ := List.map_eq_cons_iff.mp hcode
      refine Carries.bind (fun L s x hcomes hopen hx => ?_) fun _ => ih hseparate haround hcode'
      cases hx
      have hplain := hcomes.plain H hline plain
      rcases hperform : (performCommand c).run.run s with ⟨e | reaction, s₁⟩
      · rw [hperform] at hplain
        exact .error hplain
      · rw [hperform] at hplain
        exact .ok hplain hopen
  | loop name start stop step body tail ihbody ihtail =>
      obtain ⟨hname, hbody, htail⟩ := hseparate
      have hout : ∀ entry ∈ around,
          entry.1 ≠ name ∧ entry.1 ∉ body.names ∧ entry.1 ∉ tail.names := by
        simpa [Block.names] using haround
      have hother : ∀ entry ∈ around, entry.1 ≠ name := fun entry hentry => (hout entry hentry).1
      obtain ⟨opening, inner, closing, behind, rfl, hopening, hinner, hclosing, hbehind⟩ :=
        Block.exists_lines_of_loop hcode
      -- The loop goes back to the line after its `FOR`: that of its `NEXT` when its body is empty.
      obtain ⟨first, more, hfirst⟩ := List.exists_cons_of_ne_nil
        (l := inner ++ closing :: (behind ++ after)) (by simp)
      intro L s x hcomes hopen hx
      rw [List.cons_append, List.append_assoc, List.cons_append, hfirst] at hcomes
      rw [performBlock, course_bind, course_apply] at hx
      rcases hbounds : (bounds start step stop).run.run s with ⟨e | v, s₁⟩
      · rw [hbounds] at hx
        cases hx
        exact .error (hcomes.bounds_fail H hopening hbounds)
      · rw [hbounds] at hx
        dsimp only at hx
        split at hx
        · next a t b =>
          by_cases ht : t = 0
          · subst ht
            cases hx
            exact .error (hcomes.zeroStep_fail H hopening hbounds)
          · rw [if_neg ht] at hx
            refine Proceeds.bind (fun y hy => ?_) (fun _ => ihtail htail ?_ hbehind) hx
            · refine proceeds_loop H hclosing hother ht (fun i => ?_)
                (hcomes.opens H hopening ht hbounds) (hopen.insert hother _) hy
              rw [← hfirst]
              refine ihbody hbody (fun entry hentry => ?_) hinner
              rcases List.mem_cons.mp hentry with rfl | hentry
              · exact hname
              · exact (hout entry hentry).2.1
            · exact fun entry hentry => (hout entry hentry).2.2
        · cases hx

/-! ## Runs -/

theorem hosts_reset {source : String} (hload : Program.load source = .ok p)
    (hstop : ∀ name, m.functions.get? name ≠ some .stop) : Hosts (reset m) p where
  underway := ⟨rfl, rfl, rfl, rfl, rfl, rfl⟩
  pending := rfl
  unstopped := hstop
  writable := Program.writable_of_load hload

/-- A run that is started comes to the lines of its program. -/
theorem comes_run {source : String} (hload : Program.load source = .ok p)
    (hfree : m.phase = .idle ∨ m.phase = .ended)
    (hstop : ∀ name, m.functions.get? name ≠ some .stop) :
    Comes (reset m) p (fun n => run n source m) p.lines .empty (reset m) := by
  have H := hosts_reset hload hstop
  have hstart : (start source).run.run m = _ := run_start_of_load hload hfree
  unfold startProgram at hstart
  rw [run_bind, run_modify] at hstart
  dsimp only at hstart
  cases hlines : p.lines with
  | nil =>
      have hbeside : Beside (reset m) p (-1) .empty (reset m) { reset m with program := p } :=
        .mk ..
      have hnone : ∀ e ∈ (none : Option Fault), e.Tellable := nofun
      have hcursor : (Decimal.writeInt? (-1)).isSome = true := by decide +kernel
      obtain ⟨log, hfinish⟩ := run_finish (hbeside.underway H) rfl hnone hcursor
      have hempty : p.first? = none := by rw [Program.first?, hlines]; rfl
      rw [hempty] at hstart
      dsimp only at hstart
      rw [run_bind, hfinish] at hstart
      have hends : Runs.Ends (fun n => run n source m)
          { reset m with program := p, phase := .ended, completion := .done {}, log := log } := by
        refine ⟨0, ?_⟩
        dsimp only
        rw [run, followed_eq, hstart]
        rfl
      exact .behind hends (hbeside.finished {} log)
  | cons line rest =>
      have hfirst : p.first? = some line := by rw [Program.first?, hlines]; rfl
      have hbeside : Beside (reset m) p line.number .empty (reset m)
          { reset m with program := p, cursor := (line.number : Int) } := .mk ..
      rw [hfirst] at hstart
      have hsuffix : line :: rest <:+ p.lines := hlines ▸ List.suffix_rfl
      have hpasses : Runs.Passes (fun n => run n source m)
          { reset m with program := p, cursor := (line.number : Int) } := by
        refine ⟨0, fun n => ?_⟩
        dsimp only
        rw [run, followed_eq, hstart]
        rfl
      exact .before hsuffix hpasses hbeside

/-- A program that is a flattened block runs as the block is performed, when its loops have integers
for bounds, no loop has the variable of a loop around it, and no function stops the machine: the run
ends with the same console, variables, arrays and display, and well or with the same fault. -/
theorem run_performs_block {source : String} {block : Block} (hseparate : block.Separate)
    (hload : Program.load source = .ok p)
    (hlines : p.lines.map (·.instruction) = block.flatten.map .command)
    (hfree : m.phase = .idle ∨ m.phase = .ended)
    (hstop : ∀ name, m.functions.get? name ≠ some .stop) {x : Except Fault Unit}
    (hblock : performBlock block (reset m) = some (x, s)) :
    ∃ cycles outcome m', (∀ n ≥ cycles, run n source m = some (.ok (), m')) ∧
      Finished s outcome m' ∧
      match x with
      | .ok () => outcome = {}
      | .error e => ∃ line ∈ p.lines, outcome =
          { fault := some (e.atLine (some line.number)), line := some line.number } := by
  have H := hosts_reset hload hstop
  have hcomes := comes_run hload hfree hstop
  have hopen : Open [] (.empty : Table String Loop) := List.forall_mem_nil _
  rw [← List.append_nil p.lines] at hcomes
  have hproceeds :=
    carries_performBlock H hseparate (List.forall_mem_nil _) hlines hcomes hopen hblock
  cases hproceeds with
  | ok comes holds =>
      cases comes with
      | behind ends finished =>
          obtain ⟨cycles, hrun⟩ := ends
          exact ⟨cycles, {}, _, fun n hn => followed_mono hn hrun, finished, rfl⟩
  | error fails =>
      obtain ⟨line, hline, m', ⟨cycles, hrun⟩, finished⟩ := fails
      exact ⟨cycles, _, m', fun n hn => followed_mono hn hrun, finished, line, hline, rfl⟩

/-- A loop that starts behind its bound, and whose body sets a variable that is not its own. -/
def stars : Block :=
  .loop "J" ⟨"5", .number "5"⟩ ⟨"2", .number "2"⟩ ⟨"1", .number "1"⟩
    (.command (.print [⟨⟨"\"*\"", .literal "\"*\""⟩, some .semicolon⟩]) rfl
      (.command (.assign "I" none ⟨"7", .number "7"⟩) rfl .empty))
    .empty

/-- A loop that counts down over it with that variable. -/
def countdown : Block :=
  .loop "I" ⟨"3", .number "3"⟩ ⟨"1", .number "1"⟩ ⟨"-1", .unary .neg (.number "1")⟩ stars .empty

def countdownProgram : Program where
  lines := List.zipWith (fun number c => ⟨number, .command c⟩) [10, 20, 30, 40, 50, 60]
    countdown.flatten
  ascending := by simp [countdown, stars, Block.flatten]

def countdownSource : String :=
  "10 FOR I = 3 TO 1 STEP -1\n20 FOR J = 5 TO 2\n30 PRINT \"*\";\n40 LET I = 7\n" ++
    "50 NEXT J\n60 NEXT I"

theorem load_countdown : Program.load countdownSource = .ok countdownProgram := by
  have hsplit : (Program.splitSource countdownSource).filter (!Program.isBlankLine ·) =
      ["10 FOR I = 3 TO 1 STEP -1", "20 FOR J = 5 TO 2", "30 PRINT \"*\";", "40 LET I = 7",
        "50 NEXT J", "60 NEXT I"] := by decide +kernel
  have hlines : ["10 FOR I = 3 TO 1 STEP -1", "20 FOR J = 5 TO 2", "30 PRINT \"*\";",
      "40 LET I = 7", "50 NEXT J", "60 NEXT I"].mapM parseLine = .ok countdownProgram.lines := by
    with_unfolding_all rfl
  unfold Program.load
  rw [hsplit, hlines]
  exact Program.ofLines_of_ascending countdownProgram.ascending

theorem trips_countdown : trips 3 1 (-1) = 2 ∧ trips 5 2 1 = 1 := by decide +kernel

/-- What the inner loop makes of a machine. -/
def starred (s : Machine) : Machine :=
  assigned "J" 6 (assigned "I" 7 { assigned "J" 5 s with console := s.console.write "*" })

theorem performBlock_stars (s : Machine) : performBlock stars s = some (.ok (), starred s) := by
  have hbounds : ∀ s, (bounds ⟨"5", .number "5"⟩ ⟨"1", .number "1"⟩ ⟨"2", .number "2"⟩).run.run s =
      (.ok (.int 5, .int 1, .int 2), s) := fun s => by with_unfolding_all rfl
  have hstar : ∀ s, (evaluate ⟨"\"*\"", .literal "\"*\""⟩).run.run s = (.ok (.text "*"), s) :=
    fun s => by with_unfolding_all rfl
  have hshown : ∀ h : Heap, h.displayText (.text "*") = .ok "*" := fun h => by
    unfold Heap.displayText
    cases h.arrays.size <;> rfl
  have hprint : ∀ s, (performCommand (.print
      [⟨⟨"\"*\"", .literal "\"*\""⟩, some .semicolon⟩])).run.run s =
        (.ok .quiet, { s with console := s.console.write "*" }) := by
    intro s
    simp only [performCommand, itemTexts, run_bind, hstar, run_get, run_liftM, hshown]
    with_unfolding_all rfl
  have hlet : ∀ s, (performCommand (.assign "I" none ⟨"7", .number "7"⟩)).run.run s =
      (.ok .quiet, assigned "I" 7 s) := fun s => by with_unfolding_all rfl
  simp only [stars, performBlock, course_bind, course_apply, hbounds, trips_countdown]
  rw [if_neg (by decide)]
  simp only [course_bind, course_apply, hprint, hlet, rounds_succ, rounds_zero]
  rfl

theorem performBlock_countdown (s : Machine) : performBlock countdown s =
    some (.ok (), assigned "I" 1 (starred (assigned "I" 2 (starred (assigned "I" 3 s))))) := by
  have hbounds : ∀ s, (bounds ⟨"3", .number "3"⟩ ⟨"-1", .unary .neg (.number "1")⟩
      ⟨"1", .number "1"⟩).run.run s = (.ok (.int 3, .int (-1), .int 1), s) :=
    fun s => by with_unfolding_all rfl
  simp only [countdown, performBlock, course_bind, course_apply, hbounds, trips_countdown]
  rw [if_neg (by decide)]
  simp only [course_bind, course_apply, rounds_succ, rounds_zero, performBlock_stars]
  rfl

/-- The outer loop takes two trips and the inner one a single trip each time, although it starts
behind its bound and sets the variable of the outer one. -/
theorem run_performs_block_countdown :
    ∃ cycles m, (∀ n ≥ cycles, run n countdownSource
        { constants := defaultConstants, functions := defaultFunctions } = some (.ok (), m)) ∧
      m.phase = .ended ∧ m.completion = .done {} ∧ m.console = .buffer { written := "**" } ∧
      m.vars.get? "I" = some (.int 1) ∧ m.vars.get? "J" = some (.int 6) := by
  have hseparate : countdown.Separate := by
    simp [countdown, stars, Block.Separate, Block.names]
  obtain ⟨cycles, outcome, m, hrun, hfinished, rfl⟩ := run_performs_block
    (m := { constants := defaultConstants, functions := defaultFunctions }) hseparate
    load_countdown rfl (.inl rfl) defaultFunctions_unstopped (performBlock_countdown _)
  refine ⟨cycles, m, hrun, hfinished.phase, hfinished.completion, ?_, ?_, ?_⟩
  · rw [hfinished.console]
    rfl
  · rw [hfinished.vars]
    rfl
  · rw [hfinished.vars]
    rfl

end Machine

end LineBasic

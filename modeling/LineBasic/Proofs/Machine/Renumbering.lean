import LineBasic.Proofs.Machine.Driving
import LineBasic.Proofs.Program.Renumbering
import LineBasic.Proofs.Table

/-!
# Renumbering keeps the meaning of a program

A program and its renumbered form are run side by side on the same machine, with the same requests.
`Renumbered` relates the two machines: cursors and return lines go together, loops go back to lines
that go together, runs come out alike up to the lines they name, and all else but the log is equal.
Every statement keeps this, a call on the last line included, and so do cycles and requests. The two
sessions stay in step, statement by statement.
-/

namespace LineBasic

/-! ## Loops and faults -/

def Loop.renumber (f : Nat → Nat) (loop : Loop) : Loop := { loop with line := f loop.line }

/-- Two faults are the same but for the lines they name, which go together. -/
inductive SameFault (f : Nat → Nat) (p : Program) : Fault → Fault → Prop where
  | placed (e : Fault) {line line' : Option Int} (h : Option.Rel (Corresponds f p) line line') :
      SameFault f p (e.atLine line) (e.atLine line')
  | missing {c c' : Int} (h : Corresponds f p c c') :
      SameFault f p (.run (.missingLine c) (some c)) (.run (.missingLine c') (some c'))

/-- Two runs are both yet to be completed, or have come out alike. -/
inductive SameCompletion (f : Nat → Nat) (p : Program) : Completion → Completion → Prop where
  | pending : SameCompletion f p .pending .pending
  | done {o o' : Outcome} (fault : Option.Rel (SameFault f p) o.fault o'.fault)
      (line : Option.Rel (Corresponds f p) o.line o'.line) :
      SameCompletion f p (.done o) (.done o')

namespace Machine

variable {f : Nat → Nat} {hf : StrictMono f} {p : Program} {K : Int → Prop} {m m' : Machine}

/-- A machine with a program and a machine with the renumbered program, at places that go together.
The place of the first one satisfies `K`. -/
inductive RenumberedAt (hf : StrictMono f) (p : Program) (K : Int → Prop) :
    Machine → Machine → Prop where
  | mk {m : Machine} {cursor' : Int} {stack' : List Int} {completion' : Completion}
      {log' : Array LogRecord} (program : m.program = p)
      (cursor : Corresponds f p m.cursor cursor') (here : K m.cursor)
      (lines : ∀ e ∈ m.loops.entries, ∃ line ∈ p.lines, e.2.line = line.number)
      (stack : List.Forall₂ (Corresponds f p) m.stack stack')
      (completion : SameCompletion f p m.completion completion') :
      RenumberedAt hf p K m
        { m with
          program := p.renumber hf, cursor := cursor', loops := m.loops.map (Loop.renumber f),
          stack := stack', completion := completion', log := log' }

/-- A machine with a program and a machine with the renumbered program. -/
def Renumbered (hf : StrictMono f) (p : Program) : Machine → Machine → Prop :=
  RenumberedAt hf p fun _ => True

theorem RenumberedAt.forget (h : RenumberedAt hf p K m m') : Renumbered hf p m m' := by
  cases h with
  | mk program cursor here lines stack completion =>
      exact ⟨program, cursor, trivial, lines, stack, completion⟩

/-! ## Ending a run -/

theorem renumberedAt_trace (level level' : Int) (message message' : String) :
    Simulates (RenumberedAt hf p K) (trace level message) (trace level' message') := by
  intro m m' h
  obtain ⟨log, hlog⟩ := run_trace level message m
  obtain ⟨log', hlog'⟩ := run_trace level' message' m'
  rw [hlog, hlog']
  cases h with
  | mk program cursor here lines stack completion =>
      exact ⟨rfl, program, cursor, here, lines, stack, completion⟩

theorem renumberedAt_complete {o o' : Outcome}
    (hfault : Option.Rel (SameFault f p) o.fault o'.fault)
    (hline : Option.Rel (Corresponds f p) o.line o'.line) :
    Simulates (RenumberedAt hf p K) (complete o) (complete o') := by
  refine simulates_get ?_
  rintro m _ ⟨program, cursor, here, lines, stack, completion⟩
  dsimp only
  cases hm : m.completion with
  | absent =>
      rw [hm] at completion
      cases completion
  | pending =>
      rw [hm] at completion
      cases completion
      refine simulates_modify ?_
      rintro m₁ _ ⟨program, cursor, here, lines, stack, completion⟩
      exact ⟨program, cursor, here, lines, stack, .done hfault hline⟩
  | done outcome =>
      rw [hm] at completion
      cases completion
      exact simulates_throw _

theorem currentLine_rel (h : RenumberedAt hf p K m m') :
    Option.Rel (Corresponds f p) m.currentLine m'.currentLine := by
  cases h with
  | mk program cursor here lines stack completion =>
      unfold currentLine
      by_cases hc : 0 ≤ m.cursor
      · rw [if_pos hc, if_pos (cursor.nonneg_iff.mp hc)]
        exact .some cursor
      · rw [if_neg hc, if_neg (mt cursor.nonneg_iff.mpr hc)]
        exact .none

/-- Faults that are the same but for their lines can both be told, or neither. -/
theorem describe_sameFault (hp : p.Fits f) {e e' : Fault} (h : SameFault f p e e') :
    (∃ text text', describe e = .ok text ∧ describe e' = .ok text') ∨
      ∃ fault, describe e = .error fault ∧ describe e' = .error fault := by
  have htold : ∀ {c c'}, Corresponds f p c c' → ∀ {d d' : Fault}, d.line? = some c →
      d'.line? = some c' → ∃ text text', describe d = .ok text ∧ describe d' = .ok text' := by
    intro c c' hc d d' hd hd'
    obtain ⟨hw, hw'⟩ := hc.writable hp
    obtain ⟨digits, hdigits⟩ := Option.isSome_iff_exists.mp hw
    obtain ⟨digits', hdigits'⟩ := Option.isSome_iff_exists.mp hw'
    exact ⟨d.message, d'.message, by simp [describe, hd, hdigits],
      by simp [describe, hd', hdigits']⟩
  have hsame : ∀ d : Fault, (∃ text text', describe d = .ok text ∧ describe d = .ok text') ∨
      ∃ fault, describe d = .error fault ∧ describe d = .error fault := by
    intro d
    cases describe d with
    | ok text => exact .inl ⟨text, text, rfl, rfl⟩
    | error fault => exact .inr ⟨fault, rfl, rfl⟩
  cases h with
  | missing h => exact .inl (htold h rfl rfl)
  | placed e h =>
      cases e with
      | parse cause own =>
          cases own with
          | some n => exact hsame (.parse cause (some n))
          | none =>
              cases h with
              | none => exact hsame (.parse cause none)
              | some hc => exact .inl (htold hc rfl rfl)
      | run cause own =>
          cases own with
          | some n => exact hsame (.run cause (some n))
          | none =>
              cases h with
              | none => exact hsame (.run cause none)
              | some hc => exact .inl (htold hc rfl rfl)
      | _ => exact hsame _

/-- Runs end alike for faults that come to be the same at places that go together. -/
theorem renumberedAt_finish (hp : p.Fits f) {fault fault' : Option Fault}
    (hfault : ∀ ⦃line line'⦄, Option.Rel (Corresponds f p) line line' →
      Option.Rel (SameFault f p) (fault.map (·.atLine line)) (fault'.map (·.atLine line'))) :
    Simulates (RenumberedAt hf p K) (finish fault) (finish fault') := by
  have hcancel : ∀ ⦃m m'⦄, RenumberedAt hf p K m m' → RenumberedAt hf p K
      { cancelTimer m with phase := .ended } { cancelTimer m' with phase := .ended } := by
    intro m m' h
    have htimers : m'.timer = m.timer := by cases h; rfl
    rcases Option.eq_none_or_eq_some m.timer with htimer | ⟨id, htimer⟩
    · rw [cancelTimer_none htimer, cancelTimer_none (htimers.trans htimer)]
      cases h with
      | mk program cursor here lines stack completion =>
          exact ⟨program, cursor, here, lines, stack, completion⟩
    · rw [cancelTimer_some htimer, cancelTimer_some (htimers.trans htimer)]
      cases h with
      | mk program cursor here lines stack completion =>
          exact ⟨program, cursor, here, lines, stack, completion⟩
  have hconclude : Simulates (RenumberedAt hf p K) (conclude fault) (conclude fault') := by
    have hnone := hfault .none
    cases fault with
    | none =>
        cases fault' with
        | some e' => cases hnone
        | none =>
            refine simulates_bind (renumberedAt_trace _ _ _ _) fun _ => ?_
            exact renumberedAt_complete .none .none
    | some e =>
        cases fault' with
        | none => cases hnone
        | some e' =>
            refine simulates_get fun m m' h => ?_
            have hline := currentLine_rel h
            have hplaced : SameFault f p (e.atLine m.currentLine) (e'.atLine m'.currentLine) := by
              cases hfault hline with
              | some h => exact h
            have hcomplete : Simulates (RenumberedAt hf p K)
                (complete { fault := some (e.atLine m.currentLine), line := m.currentLine })
                (complete { fault := some (e'.atLine m'.currentLine), line := m'.currentLine }) :=
              renumberedAt_complete (.some hplaced) hline
            dsimp only
            rcases describe_sameFault hp hplaced with ⟨text, text', htext, htext'⟩ | ⟨d, hd, hd'⟩
            · rw [htext, htext']
              intro m₁ m₁' h₁
              exact simulates_bind (renumberedAt_trace 1 1 ("program ended with error: " ++ text)
                ("program ended with error: " ++ text')) (fun _ => hcomplete) h₁
            · rw [hd, hd']
              exact simulates_throw d
  rw [finish_eq, finish_eq]
  refine simulates_get fun m m' h => ?_
  have hphase : m.phase = m'.phase := by cases h; rfl
  rw [hphase]
  split
  · exact simulates_pure _
  · exact simulates_bind (simulates_modify hcancel) fun _ => hconclude

theorem placed_rel (fault : Option Fault) ⦃line line' : Option Int⦄
    (h : Option.Rel (Corresponds f p) line line') :
    Option.Rel (SameFault f p) (fault.map (·.atLine line)) (fault.map (·.atLine line')) := by
  cases fault with
  | none => exact .none
  | some e => exact .some (.placed e h)

/-! ## Statements -/

/-- Commands on data and requests take no notice of line numbers. -/
theorem renumberedAt_requestFrame (hf : StrictMono f) (K : Int → Prop) (hp : p.Fits f) :
    RequestFrame (RenumberedAt hf p K) where
  constants := by rintro m _ ⟨_⟩; rfl
  functions := by rintro m _ ⟨_⟩; rfl
  heap := by rintro m _ ⟨_⟩; rfl
  vars := by rintro m _ ⟨_⟩; rfl
  display := by rintro m _ ⟨_⟩; rfl
  dice := by rintro m _ ⟨_⟩; rfl
  phase := by rintro m _ ⟨_⟩; rfl
  halted := by rintro m _ ⟨_⟩; rfl
  waiting := by rintro m _ ⟨_⟩; rfl
  delay := by rintro m _ ⟨_⟩; rfl
  fires := by rintro m _ ⟨_⟩; rfl
  asked := by rintro m _ reply ⟨_⟩; rfl
  setDisplay := by rintro m _ d ⟨h₁, h₂, h₃, h₄, h₅, h₆⟩; exact ⟨h₁, h₂, h₃, h₄, h₅, h₆⟩
  setDice := by rintro m _ d ⟨h₁, h₂, h₃, h₄, h₅, h₆⟩; exact ⟨h₁, h₂, h₃, h₄, h₅, h₆⟩
  push := by rintro m _ r ⟨h₁, h₂, h₃, h₄, h₅, h₆⟩; exact ⟨h₁, h₂, h₃, h₄, h₅, h₆⟩
  setVars := by rintro m _ v ⟨h₁, h₂, h₃, h₄, h₅, h₆⟩; exact ⟨h₁, h₂, h₃, h₄, h₅, h₆⟩
  setHeap := by rintro m _ v ⟨h₁, h₂, h₃, h₄, h₅, h₆⟩; exact ⟨h₁, h₂, h₃, h₄, h₅, h₆⟩
  write := by rintro m _ text ⟨h₁, h₂, h₃, h₄, h₅, h₆⟩; exact ⟨h₁, h₂, h₃, h₄, h₅, h₆⟩
  clear := by rintro m _ ⟨h₁, h₂, h₃, h₄, h₅, h₆⟩; exact ⟨h₁, h₂, h₃, h₄, h₅, h₆⟩
  setPhase := by rintro m _ phase ⟨h₁, h₂, h₃, h₄, h₅, h₆⟩; exact ⟨h₁, h₂, h₃, h₄, h₅, h₆⟩
  halt := by rintro m _ ⟨h₁, h₂, h₃, h₄, h₅, h₆⟩; exact ⟨h₁, h₂, h₃, h₄, h₅, h₆⟩
  setWaiting := by rintro m _ b ⟨h₁, h₂, h₃, h₄, h₅, h₆⟩; exact ⟨h₁, h₂, h₃, h₄, h₅, h₆⟩
  setDelay := by rintro m _ d ⟨h₁, h₂, h₃, h₄, h₅, h₆⟩; exact ⟨h₁, h₂, h₃, h₄, h₅, h₆⟩
  setTimer := by rintro m _ d ⟨h₁, h₂, h₃, h₄, h₅, h₆⟩; exact ⟨h₁, h₂, h₃, h₄, h₅, h₆⟩
  dropTimer := by rintro m _ ⟨h₁, h₂, h₃, h₄, h₅, h₆⟩; exact ⟨h₁, h₂, h₃, h₄, h₅, h₆⟩
  pop := by rintro m _ ⟨h₁, h₂, h₃, h₄, h₅, h₆⟩; exact ⟨h₁, h₂, h₃, h₄, h₅, h₆⟩
  feed := by rintro m _ reply ⟨h₁, h₂, h₃, h₄, h₅, h₆⟩; exact ⟨h₁, h₂, h₃, h₄, h₅, h₆⟩
  ends := renumberedAt_finish hp (placed_rel none)
  stop := by
    intro m m' name _ _
    refine simulates_stop (renumberedAt_finish hp (placed_rel none)) ?_ ?_
    · rintro m _ ⟨_⟩; rfl
    · rintro m _ ⟨h₁, h₂, h₃, h₄, h₅, h₆⟩; exact ⟨h₁, h₂, h₃, h₄, h₅, h₆⟩

/-- Jumps to places that go together. -/
theorem renumbered_jumpTo (hp : p.Fits f) {c c' : Int} (h : Corresponds f p c c') :
    Simulates (Renumbered hf p) (jumpTo c) (jumpTo c') := by
  obtain ⟨hw, hw'⟩ := h.writable hp
  obtain ⟨digits, hdigits⟩ := Option.isSome_iff_exists.mp hw
  obtain ⟨digits', hdigits'⟩ := Option.isSome_iff_exists.mp hw'
  unfold jumpTo
  rw [hdigits, hdigits']
  refine simulates_bind (renumberedAt_trace _ _ _ _) fun _ => simulates_modify ?_
  rintro m _ ⟨h₁, h₂, h₃, h₄, h₅, h₆⟩
  exact ⟨h₁, h, trivial, h₄, h₅, h₆⟩

theorem renumbered_returnFromCall (hp : p.Fits f) :
    Simulates (Renumbered hf p) returnFromCall returnFromCall := by
  refine simulates_get ?_
  rintro m _ ⟨h₁, h₂, h₃, h₄, h₅, h₆⟩
  dsimp only
  generalize m.stack = stack at h₅
  cases h₅ with
  | nil => exact simulates_throw _
  | cons hback hrest =>
      refine simulates_bind (simulates_modify ?_) fun _ => renumbered_jumpTo hp hback
      rintro m₁ _ ⟨h₁, h₂, h₃, h₄, -, h₆⟩
      exact ⟨h₁, h₂, h₃, h₄, hrest, h₆⟩

/-- Loops are opened over lines that go together. -/
theorem renumbered_startLoop (hp : p.Fits f) (name : String) (value increment bound : Value) :
    Simulates (Renumbered hf p) (startLoop name value increment bound)
      (startLoop name value increment bound) := by
  have F := renumberedAt_requestFrame hf (fun _ => True) hp
  have hrest : Simulates (Renumbered hf p) (openLoop name value increment bound)
      (openLoop name value increment bound) := by
    refine simulates_bind (F.setVariable name value) fun _ => simulates_get ?_
    rintro m _ ⟨h₁, h₂, h₃, h₄, h₅, h₆⟩
    dsimp only
    rw [h₂.next? hf, h₁]
    cases hnext : p.next? m.cursor with
    | none => exact renumberedAt_finish hp (placed_rel none)
    | some l =>
        have hl := List.mem_of_find?_eq_some hnext
        refine simulates_set ?_
        have hloops := Table.map_insert (Loop.renumber f) m.loops name
          { name := name, value := value, increment := increment, bound := bound, line := l.number }
        dsimp only [Line.renumber, Loop.renumber] at hloops ⊢
        rw [← hloops]
        refine ⟨rfl, h₂, h₃, fun e he => ?_, h₅, h₆⟩
        rcases Table.mem_insertIn he with he | he
        · exact ⟨l, hl, by rw [he]⟩
        · exact h₄ e he
  rw [startLoop_eq]
  refine simulates_bind (renumberedAt_trace _ _ _ _) fun _ => simulates_get fun m m' h => ?_
  rw [F.heap h]
  refine simulates_bind (simulates_liftM _) fun zero => ?_
  dsimp only
  split
  · exact simulates_bind (simulates_throw _) fun _ => hrest
  · exact hrest

/-- Loops go back to lines that go together. -/
theorem renumbered_advanceLoop (hp : p.Fits f) (name : String) :
    Simulates (Renumbered hf p) (advanceLoop name) (advanceLoop name) := by
  have F := renumberedAt_requestFrame hf (fun _ => True) hp
  refine simulates_bind (renumberedAt_trace _ _ _ _) fun _ => simulates_get ?_
  rintro m _ ⟨h₁, h₂, h₃, h₄, h₅, h₆⟩
  dsimp only
  rw [Table.get?_map]
  cases hloop : m.loops.get? name with
  | none => exact simulates_throw _
  | some loop =>
      obtain ⟨line, hline, hnumber⟩ : ∃ line ∈ p.lines, loop.line = line.number := by
        obtain ⟨key, hmem⟩ := Table.mem_of_findIn hloop
        exact h₄ _ hmem
      dsimp only [Option.map_some]
      refine simulates_bind (simulates_liftM _) fun value => ?_
      refine simulates_bind (simulates_modify ?_) fun _ => ?_
      · rintro m₁ _ ⟨h₁, h₂, h₃, h₄, h₅, h₆⟩
        have hloops := Table.map_insert (Loop.renumber f) m₁.loops name
          { loop with value := value }
        dsimp only [Loop.renumber] at hloops ⊢
        rw [← hloops]
        refine ⟨h₁, h₂, h₃, fun e he => ?_, h₅, h₆⟩
        rcases Table.mem_insertIn he with he | he
        · exact ⟨line, hline, by rw [he]; exact hnumber⟩
        · exact h₄ e he
      · refine simulates_bind (F.setVariable _ value) fun _ => ?_
        refine simulates_bind (simulates_liftM _) fun done => ?_
        split
        · exact simulates_pure _
        · refine renumbered_jumpTo hp ?_
          dsimp only [Loop.renumber]
          rw [hnumber]
          exact .mapped (hp line hline).1

theorem renumbered_pauseFor (hp : p.Fits f) (v : Value) :
    Simulates (Renumbered hf p) (pauseFor v) (pauseFor v) := by
  have F := renumberedAt_requestFrame hf (fun _ => True) hp
  exact simulates_pauseFor F.heap (fun _ _ => renumberedAt_trace _ _ _ _) F.setDelay v

theorem renumbered_ask (hp : p.Fits f) (name : String) :
    Simulates (Renumbered hf p) (ask name) (ask name) := by
  have F := renumberedAt_requestFrame hf (fun _ => True) hp
  refine F.asking (fun e => renumberedAt_finish hp (placed_rel (some e))) name ?_ ?_
  · rintro m _ ⟨_⟩; rfl
  · rintro m _ ⟨h₁, h₂, h₃, h₄, h₅, h₆⟩; exact ⟨h₁, h₂, h₃, h₄, h₅, h₆⟩

/-- A call from a line of the program comes back to the line after it, or behind the last line. -/
theorem backLine_rel (hp : p.Fits f) (h : RenumberedAt hf p (fun c => (p.find? c).isSome) m m') :
    Corresponds f p (backLine m) (backLine m') := by
  cases h with
  | mk program cursor here lines stack completion =>
      obtain ⟨line, hline⟩ := Option.isSome_iff_exists.mp here
      unfold backLine
      dsimp only
      rw [cursor.next? hf, program]
      cases hnext : p.next? m.cursor with
      | some next => exact .mapped (hp next (List.mem_of_find?_eq_some hnext)).1
      | none =>
          obtain ⟨hc, hc'⟩ := cursor.eq_of_find? hline
          dsimp only [Option.map_none]
          rw [hc, hc']
          exact .behind (Program.getLast?_of_next? hline hnext)

/-- Two actions come to the same result and take machines at a line of the program to machines that
are related wherever they are. -/
def TakesOn (hf : StrictMono f) (p : Program) {α : Type} (a b : Action α) : Prop :=
  ∀ ⦃m m'⦄, RenumberedAt hf p (fun c => (p.find? c).isSome) m m' →
    (a.run.run m).1 = (b.run.run m').1 ∧ Renumbered hf p (a.run.run m).2 (b.run.run m').2

theorem Simulates.takesOn {α : Type} {a b : Action α} (h : Simulates (Renumbered hf p) a b) :
    TakesOn hf p a b :=
  fun _ _ hm => h hm.forget

/-- What stays at its line may come first. -/
theorem takesOn_bind {α β : Type} {a b : Action α} {k l : α → Action β}
    (h : Simulates (RenumberedAt hf p fun c => (p.find? c).isSome) a b)
    (hk : ∀ x, TakesOn hf p (k x) (l x)) : TakesOn hf p (a >>= k) (b >>= l) := by
  intro m m' hm
  obtain ⟨hres, hrel⟩ := h hm
  rw [run_bind, run_bind]
  rcases ha : a.run.run m with ⟨x, m₁⟩
  rcases hb : b.run.run m' with ⟨y, m₁'⟩
  rw [ha, hb] at hres hrel
  cases hres
  cases x with
  | ok x => exact hk x hrel
  | error e => exact ⟨rfl, hrel.forget⟩

/-- A call remembers where to come back to, and goes to its target. -/
theorem takesOn_call (hp : p.Fits f) {target : Nat} (htarget : Fits f target) :
    TakesOn hf p (performCommand (.call target)) (performCommand (.call (f target))) := by
  intro m m' h
  have hback := backLine_rel hp h
  have hpushed : Renumbered hf p { m with stack := backLine m :: m.stack }
      { m' with stack := backLine m' :: m'.stack } := by
    cases h with
    | mk program cursor here lines stack completion =>
        exact ⟨program, cursor, trivial, lines, .cons hback stack, completion⟩
  have hjump : Simulates (Renumbered hf p)
      (do jumpTo target; return .quiet : Action Reaction)
      (do jumpTo (f target); return .quiet) :=
    simulates_bind (renumbered_jumpTo hp (.mapped htarget)) fun _ => simulates_pure _
  simp only [performCommand, callLine, bind_assoc]
  rw [run_bind, run_bind, run_modify, run_modify]
  exact hjump hpushed

/-- Every command does the same as its renumbered form. -/
theorem renumbered_performCommand (hp : p.Fits f) {c : Command}
    (htargets : ∀ target ∈ c.targets, Fits f target) :
    TakesOn hf p (performCommand c) (performCommand (c.renumber f)) := by
  have F := renumberedAt_requestFrame hf (fun _ => True) hp
  cases c with
  | jump target =>
      refine Simulates.takesOn (simulates_bind (renumbered_jumpTo hp ?_) fun _ => simulates_pure _)
      exact .mapped (htargets target (by simp [Command.targets]))
  | call target => exact takesOn_call hp (htargets target (by simp [Command.targets]))
  | comeBack =>
      exact (simulates_bind (renumbered_returnFromCall hp) fun _ => simulates_pure _).takesOn
  | halt =>
      refine Simulates.takesOn (simulates_bind (simulates_modify ?_) fun _ => simulates_pure _)
      rintro m _ ⟨h₁, h₂, h₃, h₄, h₅, h₆⟩
      exact ⟨h₁, h₂, h₃, h₄, h₅, h₆⟩
  | loop name start stop step =>
      refine Simulates.takesOn (simulates_bind (F.evaluate start) fun value => ?_)
      refine simulates_bind (F.evaluate step) fun increment => ?_
      refine simulates_bind (F.evaluate stop) fun bound => ?_
      exact simulates_bind (renumbered_startLoop hp name value increment bound) fun _ =>
        simulates_pure _
  | next name =>
      exact (simulates_bind (renumbered_advanceLoop hp name) fun _ => simulates_pure _).takesOn
  | pause millis =>
      refine Simulates.takesOn (simulates_bind (F.evaluate millis) fun v => ?_)
      exact simulates_bind (renumbered_pauseFor hp v) fun _ => simulates_pure _
  | input prompt name =>
      cases prompt with
      | none => exact (renumbered_ask hp name).takesOn
      | some text =>
          exact (simulates_bind (F.writeText text) fun _ => renumbered_ask hp name).takesOn
  | _ => exact (F.performCommand rfl).takesOn

theorem renumbered_performInstruction (hp : p.Fits f) {i : Instruction}
    (htargets : ∀ target ∈ i.targets, Fits f target) :
    TakesOn hf p (performInstruction i) (performInstruction (i.renumber f)) := by
  have F := renumberedAt_requestFrame hf (fun c => (p.find? c).isSome) hp
  cases i with
  | command c => exact renumbered_performCommand hp htargets
  | branch condition yes no =>
      simp only [Instruction.targets, List.mem_append] at htargets
      refine takesOn_bind (F.evaluate condition) fun v => ?_
      intro m m' h
      have hheap := F.heap h
      rw [run_bind, run_bind, run_get, run_get]
      dsimp only
      rw [hheap]
      split
      · exact renumbered_performCommand hp (fun t ht => htargets t (.inl ht)) h
      · cases no with
        | none => exact ⟨rfl, h.forget⟩
        | some c => exact renumbered_performCommand hp (fun t ht => htargets t (.inr ht)) h

/-- A step does the same in the renumbered program: it performs the line that goes with the other,
or there is no line in either. -/
theorem renumbered_step (hp : p.Fits f) : Simulates (Renumbered hf p) step step := by
  have hend : ∀ e, Simulates (Renumbered hf p)
      (do finish (some e); return .quiet : Action Reaction)
      (do finish (some e); return .quiet) :=
    fun e => simulates_bind (renumberedAt_finish hp (placed_rel _)) fun _ => simulates_pure _
  intro m m' h
  have hcursor : Corresponds f p m.cursor m'.cursor := by cases h; assumption
  have hprogram : m.program = p := by cases h; assumption
  have hprogram' : m'.program = p.renumber hf := by cases h; rfl
  have hfind := hcursor.find? hf
  rw [← hprogram'] at hfind
  cases hline : p.find? m.cursor with
  | none =>
      rw [hline] at hfind
      obtain ⟨hw, hw'⟩ := hcursor.writable hp
      rw [run_step_missing (by rw [hprogram]; exact hline), run_step_missing hfind,
        missing_of_writable hw, missing_of_writable hw']
      refine simulates_bind (renumberedAt_finish hp ?_) (fun _ => simulates_pure _) h
      exact fun _ _ _ => .some (.missing hcursor)
  | some line =>
      rw [hline] at hfind
      obtain ⟨log, hstep⟩ := run_step_line (m := m) (by rw [hprogram]; exact hline)
      obtain ⟨log', hstep'⟩ := run_step_line hfind
      rw [hstep, hstep']
      have hlogged : RenumberedAt hf p (fun c => (p.find? c).isSome) { m with log := log }
          { m' with log := log' } := by
        cases h with
        | mk program cursor here lines stack completion =>
            exact ⟨program, cursor, by rw [hline]; rfl, lines, stack, completion⟩
      have htargets := (hp line (List.mem_of_find?_eq_some hline)).2
      obtain ⟨hres, hrel⟩ := renumbered_performInstruction hp htargets hlogged
      dsimp only [Line.renumber]
      rcases ha : (performInstruction line.instruction).run.run { m with log := log } with ⟨x, m₁⟩
      rcases hb : (performInstruction (line.instruction.renumber f)).run.run
        { m' with log := log' } with ⟨y, m₁'⟩
      rw [ha, hb] at hres hrel
      cases hres
      cases x with
      | ok reaction => exact ⟨rfl, hrel⟩
      | error e => exact hend e hrel

/-! ## Cycles and requests -/

theorem renumbered_moveOn (hp : p.Fits f) : Simulates (Renumbered hf p) moveOn moveOn := by
  refine simulates_get ?_
  rintro m _ ⟨h₁, h₂, h₃, h₄, h₅, h₆⟩
  dsimp only
  split
  · exact simulates_pure _
  · split
    · refine simulates_bind (simulates_set ?_) fun _ => simulates_pure _
      exact ⟨h₁, h₂, h₃, h₄, h₅, h₆⟩
    · rw [h₂.next? hf, h₁]
      cases hnext : p.next? m.cursor with
      | none =>
          refine simulates_bind (renumberedAt_finish hp (placed_rel none)) fun _ => simulates_pure _
      | some line =>
          refine simulates_bind (simulates_set ?_) fun _ => simulates_pure _
          have hfits := (hp line (List.mem_of_find?_eq_some hnext)).1
          exact ⟨rfl, .mapped hfits, trivial, h₄, h₅, h₆⟩

/-- A cycle does the same in the renumbered program. -/
theorem renumbered_cycle (hp : p.Fits f) : Simulates (Renumbered hf p) cycle cycle := by
  rw [cycle_eq_cycleWith]
  refine simulates_bind (simulates_bind (renumbered_step hp) fun _ => renumbered_moveOn hp) ?_
  intro progress
  cases progress with
  | goesOn => exact (renumberedAt_requestFrame hf _ hp).boundary
  | stops => exact simulates_pure _

/-- Requests other than a run keep a program and its renumbered form in step. -/
theorem attuned_renumbered (hf : StrictMono f) (hp : p.Fits f) :
    Attuned (fun request => request.drives = true ∧ ∀ source, request ≠ .run source)
      (fun _ => True) (Renumbered hf p) (Renumbered hf p) (fun _ => True) where
  toReceptive := (renumberedAt_requestFrame hf _ hp).receptive (fun _ h => h.1)
    (fun source h => absurd rfl (h.2 source))
    (fun fault _ => renumberedAt_finish hp (placed_rel fault))
    fun _ => renumberedAt_finish hp (placed_rel _)
  cycle _ _ h _ := (renumbered_cycle hp).matched h

/-! ## Sessions of a program -/

/-- Runs a program and then answers requests one after another. -/
def attendProgram (cycles : Nat) (p : Program) (requests : List Request) (m : Machine) :
    Option (List (Except Fault Value) × Machine) :=
  match following cycles (startProgram p) m with
  | none => none
  | some (answer, m₁) =>
    (attend cycles requests m₁).map fun (answers, m₂) => (answer :: answers, m₂)

/-- The machines before all statements of a session that runs a program. -/
def trailProgram (cycles : Nat) (p : Program) (requests : List Request) (m : Machine) :
    List Machine :=
  momentsAfter cycles (startProgram p) m ++
    match following cycles (startProgram p) m with
    | some (_, m₁) => trail cycles requests m₁
    | none => []

/-- A session that runs a source is one that runs the program it loads. -/
theorem attend_run_of_load {source : String} (hload : Program.load source = .ok p)
    (hfree : m.phase = .idle ∨ m.phase = .ended) (n : Nat) (requests : List Request) :
    attend n (.run source :: requests) m = attendProgram n p requests m ∧
      trail n (.run source :: requests) m = trailProgram n p requests m := by
  have hstart := run_start_of_load hload hfree
  have hmoments : (Request.run source).moments n m = momentsAfter n (startProgram p) m := by
    simp only [Request.moments, momentsAfter, hstart]
  have hhandle : handle n (.run source) m = following n (startProgram p) m := by
    simp only [handle, following, course_bind, followed_eq, hstart]
  constructor
  · rw [attend, hhandle]
    rfl
  · rw [trail, hmoments, hhandle]
    rfl

theorem renumbered_startProgram (hf : StrictMono f) (hp : p.Fits f) (m : Machine) :
    Matched (Renumbered hf p) (Renumbered hf p) (fun _ => True)
      ((startProgram p).run.run m) ((startProgram (p.renumber hf)).run.run m) := by
  have hplaced : Renumbered hf p { reset m with program := p }
      { reset m with program := p.renumber hf } :=
    ⟨rfl, .outside, trivial, by simp [reset, Table.empty], .nil, .pending⟩
  unfold startProgram
  rw [run_bind, run_bind, run_modify, run_modify]
  dsimp only
  rw [Program.first?_renumber]
  cases hfirst : p.first? with
  | none =>
      refine Simulates.matched (simulates_bind (renumberedAt_finish hp (placed_rel none)) fun _ =>
        simulates_pure _) hplaced
  | some line =>
      have hfits := (hp line (List.mem_of_mem_head? hfirst)).1
      exact .goesOn ⟨rfl, .mapped hfits, trivial, by simp [reset, Table.empty], .nil, .pending⟩

/-- Renumbering keeps the meaning of a program. The same machine runs a program and its renumbered
form, and is asked the same requests after that: the two sessions have both no result, or the same
answers and machines that go together, and the machines go together before every statement. A source
is run as the program that it loads. -/
theorem renumber_lockstep (hf : StrictMono f) (hp : p.Fits f) (m : Machine)
    (hfree : m.phase = .idle ∨ m.phase = .ended) (n : Nat) {requests : List Request}
    (hrequests : ∀ request ∈ requests,
      request.drives = true ∧ ∀ source, request ≠ .run source) :
    InConcert (Renumbered hf p) (fun _ => True)
        (attendProgram n p requests m) (attendProgram n (p.renumber hf) requests m) ∧
      List.Forall₂ (Renumbered hf p)
        (trailProgram n p requests m) (trailProgram n (p.renumber hf) requests m) ∧
      ∀ q source, Program.load source = .ok q →
        attend n (.run source :: requests) m = attendProgram n q requests m ∧
          trail n (.run source :: requests) m = trailProgram n q requests m := by
  have T := attuned_renumbered hf hp
  obtain ⟨hrun, hmoments⟩ := T.followed (n := n) (renumbered_startProgram hf hp m) (by simp)
  have hfollowing : Agrees (Renumbered hf p) (fun _ => True) (following n (startProgram p) m)
      (following n (startProgram (p.renumber hf)) m) := hrun.bind fun _ _ _ h => .ok _ h
  rw [← and_assoc]
  refine ⟨?_, fun q source hload => attend_run_of_load hload hfree n requests⟩
  unfold attendProgram trailProgram
  generalize following n (startProgram p) m = x at hfollowing
  generalize following n (startProgram (p.renumber hf)) m = x' at hfollowing
  cases hfollowing with
  | none => exact ⟨.none, List.rel_append hmoments .nil⟩
  | ok v h₁ =>
      obtain ⟨hresult, htrail⟩ := T.attend hrequests h₁ (by simp)
      exact ⟨hresult.cons nofun, List.rel_append hmoments htrail⟩
  | error he h₁ =>
      obtain ⟨hresult, htrail⟩ := T.attend hrequests h₁ (by simp)
      exact ⟨hresult.cons fun _ _ => trivial, List.rel_append hmoments htrail⟩

/-- A program whose last line calls its second one, which comes back to the number behind the last
line. -/
def calling : Program where
  lines := [⟨10, .command (.jump 30)⟩, ⟨20, .command .comeBack⟩, ⟨30, .command (.call 20)⟩]
  ascending := by decide

theorem strictMono_apart : StrictMono fun n : Nat => 10 * n + 5 := fun a b h => by
  dsimp only
  omega

/-- The program ends at a line that is missing, before and after its lines are renumbered. -/
theorem renumber_lockstep_calling :
    ∃ answers m m', attendProgram 4 calling []
        { constants := defaultConstants, functions := defaultFunctions } = some (answers, m) ∧
      attendProgram 4 (calling.renumber strictMono_apart) []
        { constants := defaultConstants, functions := defaultFunctions } = some (answers, m') ∧
      m.cursor = 31 ∧ m'.cursor = 306 ∧ Renumbered strictMono_apart calling m m' := by
  have hfits : calling.Fits fun n => 10 * n + 5 := by
    have hsmall (n : Nat) (h : n < 10 ^ 3) : n < 10 ^ 4299 :=
      Nat.lt_of_lt_of_le h (Nat.pow_le_pow_right (by decide) (by decide))
    simp [Program.Fits, calling, Instruction.targets, Command.targets, LineBasic.Fits, hsmall]
  have hcursor : (attendProgram 4 calling []
      { constants := defaultConstants, functions := defaultFunctions }).map (·.2.cursor) =
        some 31 := by decide +kernel
  have hcursor' : (attendProgram 4 (calling.renumber strictMono_apart) []
      { constants := defaultConstants, functions := defaultFunctions }).map (·.2.cursor) =
        some 306 := by decide +kernel
  obtain ⟨hconcert, -, -⟩ := renumber_lockstep strictMono_apart hfits
    { constants := defaultConstants, functions := defaultFunctions } (.inl rfl) 4
    (List.forall_mem_nil _)
  generalize attendProgram 4 calling [] _ = x at hconcert hcursor ⊢
  generalize attendProgram 4 (calling.renumber strictMono_apart) [] _ = x' at hconcert hcursor' ⊢
  cases hconcert with
  | none => cases hcursor
  | some answers hE hm =>
      exact ⟨answers, _, _, rfl, rfl, Option.some.inj hcursor, Option.some.inj hcursor', hm⟩

end Machine

end LineBasic

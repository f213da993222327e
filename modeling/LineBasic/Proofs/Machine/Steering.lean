import LineBasic.Proofs.Machine.Stepping

/-!
# Control flow

The control of a machine is where it stands in its program, the loops and calls it is in, and what
the current statement has asked for: a jump, a pause or a reply. `Turn` says once what every command
can do to it, whether the command succeeds or fails. Evaluation and commands on data leave it alone.
A cycle then only moves the cursor on, unless the command has jumped.
-/

namespace LineBasic

/-- Whether a number equals a value does not depend on the store of arrays. -/
theorem Heap.equal_number (h h' : Heap) (v : Value) (x : Number) :
    h.equal v (.number x) = h'.equal v (.number x) := by
  unfold Heap.equal
  cases v <;> cases h.arrays.size * h.arrays.size <;> cases h'.arrays.size * h'.arrays.size <;> rfl

/-- Where a machine stands in its program, and what the current statement has asked for. -/
structure Control where
  program : Program
  cursor : Int
  loops : Table String Loop
  stack : List Int
  jumped : Bool
  waiting : Bool
  delay : Option Value

namespace Control

def go (C : Control) (line : Int) : Control := { C with cursor := line, jumped := true }

/-- The line that a call comes back to. -/
def back (C : Control) : Int :=
  match C.program.next? C.cursor with
  | some line => (line.number : Int)
  | none => C.cursor + 1

def push (C : Control) : Control := { C with stack := C.back :: C.stack }

def enter (C : Control) (name : String) (loop : Loop) : Control :=
  { C with loops := C.loops.insert name loop }

end Control

def Value.IsNonzero (v : Value) : Prop := ∀ h : Heap, h.equal v (.int 0) = .ok false

/-- What performing a command can do to the control of a machine. -/
inductive Turn (C : Control) : Option Command → Control → Prop where
  | stay {c : Option Command} (h : ∀ target, c ≠ some (.call target)) : Turn C c C
  | jump (target : Nat) : Turn C (some (.jump target)) (C.go target)
  | call (target : Nat) : Turn C (some (.call target)) (C.push.go target)
  | callLost (target : Nat) (h : Decimal.writeInt? target = none) :
      Turn C (some (.call target)) C.push
  | comeBack {back : Int} {rest : List Int} (h : C.stack = back :: rest) :
      Turn C (some .comeBack) (Control.go { C with stack := rest } back)
  | comeBackLost {back : Int} {rest : List Int} (h : C.stack = back :: rest)
      (hback : Decimal.writeInt? back = none) : Turn C (some .comeBack) { C with stack := rest }
  | loop {name : String} {start stop step : Formula} {value increment bound : Value} {line : Line}
      (hnext : C.program.next? C.cursor = some line) (hstep : increment.IsNonzero) :
      Turn C (some (.loop name start stop step))
        (C.enter name ⟨name, value, increment, bound, line.number⟩)
  | next {name : String} {loop : Loop} (h : C.loops.get? name = some loop) (value : Value) :
      Turn C (some (.next name)) (C.enter name { loop with value := value })
  | nextBack {name : String} {loop : Loop} (h : C.loops.get? name = some loop) (value : Value) :
      Turn C (some (.next name)) (Control.go (C.enter name { loop with value := value }) loop.line)
  | pause (millis : Formula) (delay : Value) :
      Turn C (some (.pause millis)) { C with delay := some delay }
  | input (prompt : Option String) (name : String) (waiting : Bool) :
      Turn C (some (.input prompt name)) { C with waiting := waiting }

/-- Where a run is left by what follows a step: on the line it was on or jumped to, or on the next
one. -/
structure Control.Lands (C C₁ : Control) : Prop where
  program : C₁.program = C.program
  loops : C₁.loops = C.loops
  stack : C₁.stack = C.stack
  cursor : C₁.cursor = C.cursor ∨ C.jumped = false ∧
    ∃ line, C.program.next? C.cursor = some line ∧ C₁.cursor = (line.number : Int)

theorem Control.Lands.refl (C : Control) : C.Lands C := ⟨rfl, rfl, rfl, .inl rfl⟩

namespace Machine

variable {α β : Type} {C C₁ : Control} {Q : Control → Prop}

def control (m : Machine) : Control where
  program := m.program
  cursor := m.cursor
  loops := m.loops
  stack := m.stack
  jumped := m.jumped
  waiting := m.waiting
  delay := m.delay

theorem control_cancelTimer (m : Machine) : (cancelTimer m).control = m.control := by
  unfold cancelTimer
  split <;> rfl

/-- An action leaves the control alone. -/
abbrev Neutral (C : Control) (a : Action α) : Prop :=
  Simulates (Below fun m => m.control = C) a a

theorem neutral_trace (level : Int) (message : String) : Neutral C (trace level message) := by
  refine simulates_trace ?_ ?_ ?_ level message
  · rintro m _ ⟨rfl, h⟩; rfl
  · rintro m _ ⟨rfl, h⟩; rfl
  · rintro m _ r ⟨rfl, h⟩; exact ⟨rfl, h⟩

theorem neutral_finish (fault : Option Fault) : Neutral C (finish fault) := by
  refine simulates_finish neutral_trace ?_ ?_ ?_ ?_ ?_ fault
  · rintro m _ ⟨rfl, h⟩; rfl
  · rintro m _ ⟨rfl, h⟩; rfl
  · rintro m _ ⟨rfl, h⟩; rfl
  · rintro m _ ⟨rfl, h⟩; exact ⟨rfl, (control_cancelTimer m).trans h⟩
  · rintro m _ c ⟨rfl, h⟩; exact ⟨rfl, h⟩

theorem neutral_stop : Neutral C stop := by
  refine simulates_stop (neutral_finish none) ?_ ?_
  · rintro m _ ⟨rfl, h⟩; rfl
  · rintro m _ ⟨rfl, h⟩; exact ⟨rfl, h⟩

/-- Evaluation and commands on data leave the control alone. -/
theorem neutral_plainFrame (C : Control) : PlainFrame (Below fun m => m.control = C) where
  constants := by rintro m _ ⟨rfl, h⟩; rfl
  functions := by rintro m _ ⟨rfl, h⟩; rfl
  heap := by rintro m _ ⟨rfl, h⟩; rfl
  vars := by rintro m _ ⟨rfl, h⟩; rfl
  display := by rintro m _ ⟨rfl, h⟩; rfl
  dice := by rintro m _ ⟨rfl, h⟩; rfl
  setDisplay := by rintro m _ d ⟨rfl, h⟩; exact ⟨rfl, h⟩
  setDice := by rintro m _ d ⟨rfl, h⟩; exact ⟨rfl, h⟩
  push := by rintro m _ r ⟨rfl, h⟩; exact ⟨rfl, h⟩
  stop := fun _ _ _ _ _ => neutral_stop
  setVars := by rintro m _ v ⟨rfl, h⟩; exact ⟨rfl, h⟩
  setHeap := by rintro m _ v ⟨rfl, h⟩; exact ⟨rfl, h⟩
  write := by rintro m _ text ⟨rfl, h⟩; exact ⟨rfl, h⟩
  clear := by rintro m _ ⟨rfl, h⟩; exact ⟨rfl, h⟩

/-- An action leads to a control with a property, whether it succeeds or fails. -/
def Steers (C : Control) (Q : Control → Prop) (a : Action α) : Prop :=
  ∀ ⦃m : Machine⦄, m.control = C → Q (a.run.run m).2.control

namespace Steers

theorem of_neutral {a : Action α} (h : Neutral C a) (hQ : Q C) : Steers C Q a := by
  intro m hm
  have hkeeps : (a.run.run m).2.control = C := h.keeps hm
  rw [hkeeps]
  exact hQ

/-- What comes first leaves the control alone, and may fail. -/
theorem bind {a : Action α} {k : α → Action β} (ha : Neutral C a) (hQ : Q C)
    (hk : ∀ x, Steers C Q (k x)) : Steers C Q (a >>= k) := by
  intro m hm
  have hkeeps : (a.run.run m).2.control = C := ha.keeps hm
  rw [run_bind]
  rcases hrun : a.run.run m with ⟨e | x, m₁⟩
  · rw [hrun] at hkeeps
    dsimp only at hkeeps ⊢
    rw [hkeeps]
    exact hQ
  · rw [hrun] at hkeeps
    exact hk x hkeeps

/-- What comes last leaves the control alone. -/
theorem andThen {a : Action α} {k : α → Action β} (ha : Steers C Q a)
    (hk : ∀ x C₁, Neutral C₁ (k x)) : Steers C Q (a >>= k) := by
  intro m hm
  have hfirst := ha hm
  rw [run_bind]
  rcases hrun : a.run.run m with ⟨e | x, m₁⟩
  · rw [hrun] at hfirst
    exact hfirst
  · rw [hrun] at hfirst
    have hkeeps : ((k x).run.run m₁).2.control = m₁.control := (hk x m₁.control).keeps rfl
    dsimp only at hfirst ⊢
    rw [hkeeps]
    exact hfirst

theorem liftM {x : Except Fault α} {k : α → Action β} (hQ : Q C)
    (hk : ∀ y, x = .ok y → Steers C Q (k y)) : Steers C Q (liftM x >>= k) := by
  intro m hm
  rw [run_bind, run_liftM]
  cases hx : x with
  | error e =>
      dsimp only
      rw [hm]
      exact hQ
  | ok y => exact hk y hx hm

theorem get {k : Machine → Action α} (hk : ∀ m, m.control = C → Steers C Q (k m)) :
    Steers C Q (MonadState.get >>= k) :=
  fun m hm => hk m hm hm

theorem throw {e : Fault} {k : α → Action β} (hQ : Q C) :
    Steers C Q ((throw e : Action α) >>= k) := by
  intro m hm
  rw [run_bind, run_throw]
  dsimp only
  rw [hm]
  exact hQ

theorem modify (C₁ : Control) {f : Machine → Machine} {k : Unit → Action α}
    (hf : ∀ m, m.control = C → (f m).control = C₁) (hk : Steers C₁ Q (k ())) :
    Steers C Q (modify f >>= k) :=
  fun m hm => hk (hf m hm)

theorem set {C₁ : Control} {m₁ : Machine} {k : Unit → Action α} (h : m₁.control = C₁)
    (hk : Steers C₁ Q (k ())) : Steers C Q (set m₁ >>= k) :=
  fun _ _ => hk h

end Steers

theorem steers_jumpTo {line : Int} (hgo : Q (C.go line))
    (hlost : Decimal.writeInt? line = none → Q C) : Steers C Q (jumpTo line) := by
  unfold jumpTo
  cases hline : Decimal.writeInt? line with
  | none => exact .of_neutral (simulates_throw _) (hlost hline)
  | some digits =>
      intro m hm
      obtain ⟨log, hlog⟩ := run_trace 1 ("goto " ++ digits) m
      rw [run_bind, hlog]
      subst hm
      exact hgo

theorem steers_callLine {line : Int} (hgo : Q (C.push.go line))
    (hlost : Decimal.writeInt? line = none → Q C.push) : Steers C Q (callLine line) := by
  refine .modify C.push (fun m hm => ?_) (steers_jumpTo hgo hlost)
  subst hm
  rfl

theorem steers_returnFromCall (hstay : Q C)
    (hgo : ∀ back rest, C.stack = back :: rest → Q (Control.go { C with stack := rest } back))
    (hlost : ∀ back rest, C.stack = back :: rest → Decimal.writeInt? back = none →
      Q { C with stack := rest }) : Steers C Q returnFromCall := by
  refine .get fun m hm => ?_
  have hstack : m.stack = C.stack := by rw [← hm]; rfl
  rw [hstack]
  cases hC : C.stack with
  | nil => exact .of_neutral (simulates_throw _) hstay
  | cons back rest =>
      refine .modify { C with stack := rest } (fun m hm => ?_)
        (steers_jumpTo (hgo back rest hC) (hlost back rest hC))
      subst hm
      rfl

theorem steers_startLoop {name : String} {value increment bound : Value} (hstay : Q C)
    (henter : ∀ line : Line, C.program.next? C.cursor = some line → increment.IsNonzero →
      Q (C.enter name ⟨name, value, increment, bound, line.number⟩)) :
    Steers C Q (startLoop name value increment bound) := by
  have hrest : increment.IsNonzero → Steers C Q (openLoop name value increment bound) := by
    intro hnonzero
    refine .bind ((neutral_plainFrame C).setVariable name value) hstay fun _ => .get fun m hm => ?_
    have hplace : m.program.next? m.cursor = C.program.next? C.cursor := by rw [← hm]; rfl
    rw [hplace]
    cases hnext : C.program.next? C.cursor with
    | none => exact .of_neutral (neutral_finish none) hstay
    | some line =>
        intro m₁ _
        subst hm
        exact henter line hnext hnonzero
  rw [startLoop_eq]
  refine .bind (neutral_trace _ _) hstay fun _ => .get fun m hm => ?_
  refine .liftM hstay fun zero hzero => ?_
  dsimp only
  split
  · exact .throw hstay
  · next hfalse =>
    refine hrest fun h => ?_
    rw [Heap.equal_number h m.heap, hzero]
    simpa using hfalse

theorem steers_advanceLoop {name : String} (hstay : Q C)
    (hnext : ∀ loop value, C.loops.get? name = some loop →
      Q (C.enter name { loop with value := value }))
    (hback : ∀ loop value, C.loops.get? name = some loop →
      Q (Control.go (C.enter name { loop with value := value }) loop.line)) :
    Steers C Q (advanceLoop name) := by
  refine .bind (neutral_trace _ _) hstay fun _ => .get fun m hm => ?_
  have hloops : m.loops = C.loops := by rw [← hm]; rfl
  rw [hloops]
  cases hloop : C.loops.get? name with
  | none => exact .of_neutral (simulates_throw _) hstay
  | some loop =>
      refine .liftM hstay fun value _ => ?_
      refine .modify (C.enter name { loop with value := value }) (fun m hm => ?_) ?_
      · subst hm
        rfl
      · have hentered := hnext loop value hloop
        refine .bind ((neutral_plainFrame _).setVariable _ _) hentered fun _ => ?_
        refine .liftM hentered fun done _ => ?_
        split
        · exact .of_neutral (simulates_pure _) hentered
        · exact steers_jumpTo (hback loop value hloop) fun _ => hentered

theorem steers_pauseFor {millis : Value} (hstay : Q C)
    (hdelay : ∀ delay, Q { C with delay := some delay }) : Steers C Q (pauseFor millis) := by
  refine .get fun m hm => .liftM hstay fun text _ => ?_
  refine .bind (neutral_trace _ _) hstay fun _ => .liftM hstay fun positive _ => ?_
  intro m₁ hm₁
  subst hm₁
  exact hdelay _

theorem steers_receive {name : String} {reply : Reply} (hstay : Q C)
    (hreply : Q { C with waiting := false }) : Steers C Q (receive name reply) := by
  refine .get fun m hm => ?_
  split
  · exact .of_neutral (simulates_pure _) hstay
  · split
    · exact .andThen (.of_neutral (neutral_finish _) hstay) fun _ _ => simulates_pure _
    · refine .bind ((neutral_plainFrame C).setVariable _ _) hstay fun _ => ?_
      refine .modify { C with waiting := false } (fun m hm => ?_)
        (.of_neutral (simulates_pure _) hreply)
      subst hm
      rfl

/-- A question only changes whether a reply is due. -/
theorem steers_ask {name : String} (hwaiting : ∀ waiting, Q { C with waiting := waiting }) :
    Steers C Q (ask name) := by
  refine .modify { C with waiting := true } (fun m hm => ?_) (.get fun m hm => ?_)
  · subst hm
    rfl
  · refine .bind (simulates_set ⟨rfl, hm⟩) (hwaiting true) fun _ => ?_
    split
    · exact steers_receive (hwaiting true) (hwaiting false)
    · exact .of_neutral (simulates_pure _) (hwaiting true)

/-- What a command can do to the control of a machine. -/
theorem turn_performCommand (c : Command) (C : Control) :
    Steers C (Turn C (some c)) (performCommand c) := by
  have F := neutral_plainFrame C
  have hstay : (∀ target, c ≠ .call target) → Turn C (some c) C := fun h => .stay (by simpa using h)
  cases c with
  | jump target =>
      exact .andThen (steers_jumpTo (.jump target) fun _ => (hstay nofun)) fun _ _ => simulates_pure _
  | call target =>
      exact .andThen (steers_callLine (.call target) (.callLost target)) fun _ _ => simulates_pure _
  | comeBack =>
      exact .andThen (steers_returnFromCall (hstay nofun) (fun _ _ => .comeBack) fun _ _ => .comeBackLost)
        fun _ _ => simulates_pure _
  | halt => exact .modify C (fun _ hm => hm) (.of_neutral (simulates_pure _) (hstay nofun))
  | loop name start stop step =>
      refine .bind (F.evaluate start) (hstay nofun) fun value => ?_
      refine .bind (F.evaluate step) (hstay nofun) fun increment => ?_
      refine .bind (F.evaluate stop) (hstay nofun) fun bound => ?_
      exact .andThen (steers_startLoop (hstay nofun) fun _ => .loop) fun _ _ => simulates_pure _
  | next name =>
      refine .andThen (steers_advanceLoop (hstay nofun) ?_ ?_) fun _ _ => simulates_pure _
      · exact fun loop value hloop => .next hloop value
      · exact fun loop value hloop => .nextBack hloop value
  | pause millis =>
      refine .bind (F.evaluate millis) (hstay nofun) fun v => ?_
      exact .andThen (steers_pauseFor (hstay nofun) (.pause millis)) fun _ _ => simulates_pure _
  | input prompt name =>
      cases prompt with
      | none => exact steers_ask (.input none name)
      | some text => exact .bind (F.writeText text) (hstay nofun) fun _ => steers_ask (.input _ name)
  | _ => exact .of_neutral (F.performCommand rfl) (hstay nofun)

theorem turn_performChosen (c : Option Command) (C : Control) :
    Steers C (Turn C c) (performChosen c) := by
  cases c with
  | none => exact .of_neutral (simulates_pure _) (.stay nofun)
  | some c => exact turn_performCommand c C

theorem neutral_commandHere : Neutral C commandHere := by
  refine simulates_get ?_
  rintro m _ ⟨rfl, h⟩
  split
  · exact simulates_pure _
  · refine simulates_bind (neutral_trace _ _) fun _ => simulates_bind (neutral_trace _ _) fun _ => ?_
    exact (neutral_plainFrame C).choose _

theorem neutral_fail (fault : Fault) : Neutral C (do
    finish (some fault)
    return .quiet : Action Reaction) :=
  simulates_bind (neutral_finish _) fun _ => simulates_pure _

theorem neutral_missing (n : Int) : Neutral C (missing n) := by
  unfold missing
  split
  · exact simulates_bind (simulates_throw _) fun _ => neutral_fail _
  · exact neutral_fail _

/-- What a step can do to the control of a machine: no more than the command that the statement
comes down to, and nothing if there is none. -/
theorem turn_step {k k' : Machine} {x : Except Fault (Option Command)}
    (h : commandHere.run.run k = (x, k')) :
    (∀ c, x = .ok c → Turn k.control c (step.run.run k).2.control) ∧
      ∀ e, x = .error e → (step.run.run k).2.control = k.control := by
  have hend : ∀ (fault : Fault) (m : Machine), ((do
      finish (some fault)
      return .quiet : Action Reaction).run.run m).2.control = m.control :=
    fun fault m => (neutral_fail (C := m.control) fault).keeps rfl
  have hkeeps : k'.control = k.control := by
    have hhere := (neutral_commandHere (C := k.control)).keeps rfl
    rwa [h] at hhere
  cases hline : k.program.find? k.cursor with
  | none =>
      have hnone : commandHere.run.run k = (.ok none, k) := by
        unfold commandHere
        rw [run_bind, run_get]
        simp only [hline]
        rfl
      rw [hnone] at h
      cases h
      refine ⟨?_, nofun⟩
      rintro _ ⟨⟩
      have hmissing : ((missing k.cursor).run.run k).2.control = k.control :=
        (neutral_missing (C := k.control) k.cursor).keeps rfl
      rw [run_step_missing hline, hmissing]
      exact .stay nofun
  | some line =>
      rw [run_step hline, run_bind, h]
      cases x with
      | error e =>
          refine ⟨nofun, fun _ _ => ?_⟩
          exact (hend e k').trans hkeeps
      | ok c =>
          refine ⟨?_, nofun⟩
          rintro _ ⟨⟩
          have hturn := turn_performChosen c k.control hkeeps
          dsimp only
          rcases hrun : (performChosen c).run.run k' with ⟨e | reaction, m₁⟩
          · rw [hrun] at hturn
            dsimp only
            rw [hend e m₁]
            exact hturn
          · rw [hrun] at hturn
            exact hturn

theorem neutral_awaitReply : Neutral C awaitReply := by
  refine simulates_get ?_
  rintro m _ ⟨rfl, h⟩
  split
  · refine simulates_bind (simulates_modify ?_) fun _ => simulates_pure _
    rintro m _ ⟨rfl, h⟩
    exact ⟨rfl, h⟩
  · exact simulates_pure _

theorem neutral_suspend (millis : Value) : Neutral C (suspend millis) := by
  refine simulates_bind (simulates_modify ?_) fun _ => simulates_bind (simulates_liftM _) fun _ =>
    simulates_bind (simulates_modify ?_) fun _ => simulates_pure _
  · rintro m _ ⟨rfl, h⟩
    exact ⟨rfl, h⟩
  · rintro m _ ⟨rfl, h⟩
    exact ⟨rfl, h⟩

theorem steers_boundary (hstay : Q C) (hclear : Q { C with delay := none }) :
    Steers C Q boundary := by
  refine .get fun m hm => ?_
  split
  · exact .andThen (.of_neutral (neutral_finish none) hstay) fun _ _ => simulates_pure _
  · have hset : { m with delay := none }.control = { C with delay := none } := by
      subst hm
      rfl
    refine .set hset ?_
    split
    · split
      · exact .of_neutral (neutral_suspend _) hclear
      · exact .of_neutral neutral_awaitReply hclear
    · exact .of_neutral neutral_awaitReply hclear

/-- A cycle changes no loop and no call beyond what its step does, and leaves the run where the step
has jumped to or on the next line. -/
theorem lands_cycle (k : Machine) :
    (step.run.run k).2.control.Lands (cycle.run.run k).2.control := by
  unfold cycle
  rw [run_bind]
  rcases step.run.run k with ⟨e | reaction, m₁⟩
  · exact .refl _
  · dsimp only
    rw [run_bind, run_get]
    dsimp only
    have hends : Steers m₁.control m₁.control.Lands (do
        finish none
        return .stops : Action Progress) :=
      .andThen (.of_neutral (neutral_finish none) (.refl _)) fun _ _ => simulates_pure _
    split
    · exact .refl _
    · split
      · exact steers_boundary (C := { m₁.control with jumped := false })
          ⟨rfl, rfl, rfl, .inl rfl⟩ ⟨rfl, rfl, rfl, .inl rfl⟩ rfl
      · next hjumped =>
        have hstays : m₁.jumped = false := by simpa using hjumped
        split
        · exact hends rfl
        · next line hnext =>
          exact steers_boundary (C := { m₁.control with cursor := (line.number : Int) })
            ⟨rfl, rfl, rfl, .inr ⟨hstays, line, hnext, rfl⟩⟩
            ⟨rfl, rfl, rfl, .inr ⟨hstays, line, hnext, rfl⟩⟩ rfl

end Machine

end LineBasic

import LineBasic.Machine.Evaluate

/-!
# Simulation of actions

Many facts about machines compare two of them: with and without a timer, with a reply more in the
queue, with another program. `Simulates R a b` says that two actions take machines related by `R`
to the same result and to machines that are related again. Simulation is closed under the ways in
which actions are put together, so it is enough to look at what the single actions read and write.

`EvalFrame R` lists what evaluation reads, on which related machines have to agree, and what it
writes, after which they have to be related still. Every evaluation then simulates itself. A
property of one machine is the case of a relation below equality, so that invariants come out of the
same lemmas.
-/

namespace LineBasic

namespace Machine

variable {α β : Type} {R : Machine → Machine → Prop}

theorem run_bind (a : Action α) (k : α → Action β) (m : Machine) :
    (a >>= k).run.run m =
      match a.run.run m with
      | (.ok x, m₁) => (k x).run.run m₁
      | (.error e, m₁) => (.error e, m₁) := by
  simp only [ExceptT.run_bind, StateT.run_bind]
  rcases a.run.run m with ⟨_ | _, _⟩ <;> rfl

theorem run_tryCatch (a : Action α) (k : Fault → Action α) (m : Machine) :
    (tryCatch a k : Action α).run.run m =
      match a.run.run m with
      | (.ok x, m₁) => (.ok x, m₁)
      | (.error e, m₁) => (k e).run.run m₁ := by
  simp only [ExceptT.run_tryCatch, StateT.run_bind]
  rcases a.run.run m with ⟨_ | _, _⟩ <;> rfl

@[simp] theorem run_pure (x : α) (m : Machine) :
    (pure x : Action α).run.run m = (.ok x, m) := rfl

@[simp] theorem run_throw (e : Fault) (m : Machine) :
    (throw e : Action α).run.run m = (.error e, m) := rfl

@[simp] theorem run_get (m : Machine) : (get : Action Machine).run.run m = (.ok m, m) := rfl

@[simp] theorem run_set (m m₁ : Machine) :
    (set m₁ : Action Unit).run.run m = (.ok (), m₁) := rfl

@[simp] theorem run_modify (f : Machine → Machine) (m : Machine) :
    (modify f : Action Unit).run.run m = (.ok (), f m) := rfl

@[simp] theorem run_liftM (x : Except Fault α) (m : Machine) :
    (liftM x : Action α).run.run m = (x, m) := by
  cases x <;> rfl

/-- Two actions keep machines related: they come to the same result, and related machines stay
related. -/
def Simulates (R : Machine → Machine → Prop) (a b : Action α) : Prop :=
  ∀ ⦃m m' : Machine⦄, R m m' →
    (a.run.run m).1 = (b.run.run m').1 ∧ R (a.run.run m).2 (b.run.run m').2

/-- Two actions take machines related by one relation to the same result and to machines related by
another one. -/
def Transfers (R R' : Machine → Machine → Prop) (a b : Action α) : Prop :=
  ∀ ⦃m m' : Machine⦄, R m m' →
    (a.run.run m).1 = (b.run.run m').1 ∧ R' (a.run.run m).2 (b.run.run m').2

/-- What the second action does, from what the first one did. -/
theorem Simulates.result {a b : Action α} (h : Simulates R a b) {m m' m₁ : Machine} (hm : R m m')
    {x : Except Fault α} (hrun : a.run.run m = (x, m₁)) :
    ∃ m₁', b.run.run m' = (x, m₁') ∧ R m₁ m₁' := by
  obtain ⟨hres, hrel⟩ := h hm
  rw [hrun] at hres hrel
  exact ⟨(b.run.run m').2, Prod.ext hres.symm rfl, hrel⟩

theorem simulates_pure (x : α) : Simulates R (pure x : Action α) (pure x) :=
  fun _ _ h => ⟨rfl, h⟩

theorem simulates_throw (e : Fault) : Simulates R (throw e : Action α) (throw e) :=
  fun _ _ h => ⟨rfl, h⟩

theorem simulates_liftM (x : Except Fault α) :
    Simulates R (liftM x : Action α) (liftM x) := by
  intro m m' h
  rw [run_liftM, run_liftM]
  exact ⟨rfl, h⟩

theorem simulates_bind {a b : Action α} {k l : α → Action β} (h : Simulates R a b)
    (hk : ∀ x, Simulates R (k x) (l x)) : Simulates R (a >>= k) (b >>= l) := by
  intro m m' hm
  obtain ⟨hres, hrel⟩ := h hm
  rw [run_bind, run_bind]
  rcases ha : a.run.run m with ⟨x, m₁⟩
  rcases hb : b.run.run m' with ⟨y, m₁'⟩
  rw [ha, hb] at hres hrel
  cases hres
  cases x with
  | ok x => exact hk x hrel
  | error e => exact ⟨rfl, hrel⟩

theorem simulates_tryCatch {a b : Action α} {k l : Fault → Action α} (h : Simulates R a b)
    (hk : ∀ e, Simulates R (k e) (l e)) :
    Simulates R (tryCatch a k) (tryCatch b l) := by
  intro m m' hm
  obtain ⟨hres, hrel⟩ := h hm
  rw [run_tryCatch, run_tryCatch]
  rcases ha : a.run.run m with ⟨x, m₁⟩
  rcases hb : b.run.run m' with ⟨y, m₁'⟩
  rw [ha, hb] at hres hrel
  cases hres
  cases x with
  | ok x => exact ⟨rfl, hrel⟩
  | error e => exact hk e hrel

/-- What follows a look at the machine may depend on the machine it saw, as long as the two
continuations simulate each other. -/
theorem simulates_get {k l : Machine → Action α}
    (h : ∀ ⦃m m' : Machine⦄, R m m' → Simulates R (k m) (l m')) :
    Simulates R (get >>= k) (get >>= l) :=
  fun _ _ hm => h hm hm

theorem simulates_modify {f g : Machine → Machine}
    (h : ∀ ⦃m m' : Machine⦄, R m m' → R (f m) (g m')) :
    Simulates R (modify f : Action Unit) (modify g) :=
  fun _ _ hm => ⟨rfl, h hm⟩

theorem simulates_set {m₁ m₁' : Machine} (h : R m₁ m₁') :
    Simulates R (set m₁ : Action Unit) (set m₁') :=
  fun _ _ _ => ⟨rfl, h⟩

/-- The relation of every machine with a property to itself. What simulates itself below equality
keeps the property. -/
def Below (P : Machine → Prop) (m m' : Machine) : Prop := m = m' ∧ P m

theorem Simulates.keeps {P : Machine → Prop} {a b : Action α} (h : Simulates (Below P) a b)
    {m : Machine} (hm : P m) : P (a.run.run m).2 :=
  (h ⟨rfl, hm⟩).2.2

/-- What evaluation needs of a relation between machines: they agree on everything that an
expression reads, and stay related when an expression takes a key, throws the dice or is logged as
failed. A function that stops the machine matters only where one can be called. -/
structure EvalFrame (R : Machine → Machine → Prop) : Prop where
  constants : ∀ ⦃m m'⦄, R m m' → m.constants = m'.constants
  functions : ∀ ⦃m m'⦄, R m m' → m.functions = m'.functions
  heap : ∀ ⦃m m'⦄, R m m' → m.heap = m'.heap
  vars : ∀ ⦃m m'⦄, R m m' → m.vars = m'.vars
  display : ∀ ⦃m m'⦄, R m m' → m.display = m'.display
  dice : ∀ ⦃m m'⦄, R m m' → m.dice = m'.dice
  setDisplay : ∀ ⦃m m'⦄ (d : Option Display), R m m' →
    R { m with display := d } { m' with display := d }
  setDice : ∀ ⦃m m'⦄ (d : Dice), R m m' → R { m with dice := d } { m' with dice := d }
  push : ∀ ⦃m m'⦄ (r : LogRecord), R m m' →
    R { m with log := m.log.push r } { m' with log := m'.log.push r }
  stop : ∀ ⦃m m'⦄ (name : String), R m m' → m.functions.get? name = some .stop →
    Simulates R stop stop

namespace EvalFrame

theorem record (F : EvalFrame R) (level : LogLevel) (message : String) :
    Simulates R (record level message) (record level message) :=
  simulates_modify fun _ _ h => F.push _ h

theorem getVariable (F : EvalFrame R) (name : String) :
    Simulates R (getVariable name) (getVariable name) := by
  refine simulates_get fun m m' h => ?_
  rw [F.vars h]
  exact simulates_pure _

theorem arrayOf (F : EvalFrame R) (name : String) :
    Simulates R (arrayOf name) (arrayOf name) := by
  refine simulates_get fun m m' h => ?_
  rw [F.vars h]
  split
  · exact simulates_pure _
  · exact simulates_throw _

theorem getElement (F : EvalFrame R) (name : String) (index : Value) :
    Simulates R (getElement name index) (getElement name index) := by
  refine simulates_bind (F.arrayOf name) fun ref => ?_
  refine simulates_bind (simulates_liftM _) fun key => ?_
  refine simulates_get fun m m' h => ?_
  rw [F.heap h]
  exact simulates_pure _

theorem getConstant (F : EvalFrame R) (name : String) :
    Simulates R (getConstant name) (getConstant name) := by
  refine simulates_get fun m m' h => ?_
  rw [F.constants h]
  split
  · exact simulates_pure _
  · exact simulates_throw _

theorem needDisplay (F : EvalFrame R) : Simulates R needDisplay needDisplay := by
  refine simulates_get fun m m' h => ?_
  rw [F.display h]
  split
  · exact simulates_pure _
  · exact simulates_throw _

theorem colorAt (F : EvalFrame R) (x y : Value) :
    Simulates R (colorAt x y) (colorAt x y) :=
  simulates_bind F.needDisplay fun _ => simulates_liftM _

theorem readKey (F : EvalFrame R) : Simulates R readKey readKey := by
  refine simulates_bind F.needDisplay fun d => ?_
  refine simulates_bind (simulates_modify fun m m' h => F.setDisplay _ h) fun _ => ?_
  exact simulates_pure _

theorem rollDice (F : EvalFrame R) : Simulates R rollDice rollDice := by
  refine simulates_bind (simulates_modify fun m m' h => ?_) fun _ => ?_
  · rw [F.dice h]
    exact F.setDice _ h
  · refine simulates_get fun m m' h => ?_
    rw [F.dice h]
    exact simulates_pure _

/-- A function of the table simulates itself; one that stops the machine does so because it is in
the table. -/
theorem applyFunction (F : EvalFrame R) {m m' : Machine} (hm : R m m') {name : String}
    {f : Function} (hf : m.functions.get? name = some f) (args : List Value) :
    Simulates R (applyFunction f args) (applyFunction f args) := by
  unfold Machine.applyFunction
  split
  next builtin =>
    have hrest : ∀ roll, Simulates R
        (do liftM (builtin.apply (← get).heap roll args) : Action Value)
        (do liftM (builtin.apply (← get).heap roll args)) := by
      refine fun roll => simulates_get fun m m' h => ?_
      rw [F.heap h]
      exact simulates_liftM _
    dsimp only
    split
    · exact simulates_bind F.rollDice hrest
    · exact simulates_bind (simulates_pure _) hrest
  next v => exact simulates_liftM _
  next => exact simulates_bind (F.stop name hm hf) fun _ => simulates_pure _
  next => exact simulates_throw _

theorem callFunction (F : EvalFrame R) (name : String) (args : List Value) :
    Simulates R (callFunction name args) (callFunction name args) := by
  unfold Machine.callFunction
  dsimp only
  split
  · split
    · exact F.colorAt _ _
    · exact simulates_throw _
  · split
    · split
      · exact F.readKey
      · exact simulates_throw _
    · refine simulates_get fun m m' h => ?_
      rw [F.functions h]
      split
      next f hf => exact F.applyFunction h (by rw [F.functions h]; exact hf) args
      next => exact simulates_throw _

mutual

theorem evalExpr (F : EvalFrame R) : ∀ e : Expr, Simulates R (evalExpr e) (evalExpr e)
  | .number digits => by
      rw [Machine.evalExpr]
      exact simulates_liftM _
  | .literal quoted => by
      rw [Machine.evalExpr]
      exact simulates_bind (simulates_liftM _) fun _ => simulates_pure _
  | .var name => by
      rw [Machine.evalExpr]
      exact F.getVariable name
  | .element name index => by
      rw [Machine.evalExpr]
      exact simulates_bind (F.evalExpr index) fun v => F.getElement name v
  | .constant name => by
      rw [Machine.evalExpr]
      exact F.getConstant name
  | .call name args => by
      rw [Machine.evalExpr]
      exact simulates_bind (F.evalAll args) fun vs => F.callFunction name vs
  | .unary op operand => by
      rw [Machine.evalExpr]
      refine simulates_bind (F.evalExpr operand) fun v => simulates_get fun m m' h => ?_
      rw [F.heap h]
      exact simulates_liftM _
  | .binary op left right => by
      rw [Machine.evalExpr]
      refine simulates_bind (F.evalExpr left) fun a => ?_
      refine simulates_bind (F.evalExpr right) fun b => simulates_get fun m m' h => ?_
      rw [F.heap h]
      exact simulates_liftM _

theorem evalAll (F : EvalFrame R) : ∀ es : List Expr, Simulates R (evalAll es) (evalAll es)
  | [] => by
      rw [Machine.evalAll]
      exact simulates_pure _
  | e :: rest => by
      rw [Machine.evalAll]
      refine simulates_bind (F.evalExpr e) fun v => ?_
      exact simulates_bind (F.evalAll rest) fun vs => simulates_pure _

end

/-- The evaluation of an expression keeps related machines related. -/
theorem evaluate (F : EvalFrame R) (f : Formula) : Simulates R (evaluate f) (evaluate f) := by
  refine simulates_tryCatch (F.evalExpr f.tree) fun fault => ?_
  exact simulates_bind (F.record _ _) fun _ => simulates_throw _

end EvalFrame

end Machine

end LineBasic

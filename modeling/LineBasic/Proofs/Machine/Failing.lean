import LineBasic.Proofs.Machine.Performing
import LineBasic.Proofs.Value.Faults

/-!
# Statements that fail

A statement may fail at any point, and what it did up to then stays done. `Upholds E P a` says of an
action that it keeps a property of the machine whether it succeeds or fails, and that it fails with
faults of the kind `E` only.

`Enduring E P` lists what statements write, after which the property has to hold still, and asks the
same of a request to stop and of the end of a run. Every statement then upholds the property, as
long as `E` holds of the faults of the string literals in it, which are decoded when they are
evaluated.

`Keeps P a` and `Lasting P` are the case of bare faults: such a fault names no line, and it is not
that a run was completed twice. The faults of all string literals are bare.
-/

namespace LineBasic

mutual

/-- The string literals of an expression, as they are written. -/
def Expr.literals : Expr → List String
  | .literal quoted => [quoted]
  | .element _ index => index.literals
  | .call _ args => literalsOf args
  | .unary _ operand => operand.literals
  | .binary _ left right => left.literals ++ right.literals
  | _ => []

def literalsOf : List Expr → List String
  | [] => []
  | e :: rest => e.literals ++ literalsOf rest

end

/-- The faults of all literals in some formulas are of one kind. -/
def Decodes (E : Fault → Prop) (formulas : List Formula) : Prop :=
  ∀ f ∈ formulas, ∀ quoted ∈ f.tree.literals, Raises E (decodeText quoted)

namespace Machine

variable {α β : Type} {E : Fault → Prop} {P : Machine → Prop}

/-- An action keeps a property and raises faults of one kind only. -/
def Upholds (E : Fault → Prop) (P : Machine → Prop) (a : Action α) : Prop :=
  ∀ ⦃m : Machine⦄, P m → P (a.run.run m).2 ∧ Raises E (a.run.run m).1

namespace Upholds

theorem pure (x : α) : Upholds E P (Pure.pure x : Action α) :=
  fun _ h => ⟨h, raises_ok x⟩

theorem throw {e : Fault} (he : E e) : Upholds E P (throw e : Action α) :=
  fun _ h => ⟨h, raises_error.mpr he⟩

theorem liftM {x : Except Fault α} (hx : Raises E x) : Upholds E P (liftM x : Action α) := by
  intro m h
  rw [run_liftM]
  exact ⟨h, hx⟩

theorem bind {a : Action α} {k : α → Action β} (ha : Upholds E P a)
    (hk : ∀ x, Upholds E P (k x)) : Upholds E P (a >>= k) := by
  intro m h
  obtain ⟨hm, hraises⟩ := ha h
  rw [run_bind]
  rcases hrun : a.run.run m with ⟨e | x, m₁⟩
  · rw [hrun] at hm hraises
    exact ⟨hm, by simpa using hraises⟩
  · rw [hrun] at hm
    exact hk x hm

theorem tryCatch {a : Action α} {k : Fault → Action α} (ha : Upholds E P a)
    (hk : ∀ e, E e → Upholds E P (k e)) : Upholds E P (tryCatch a k) := by
  intro m h
  obtain ⟨hm, hraises⟩ := ha h
  rw [run_tryCatch]
  rcases hrun : a.run.run m with ⟨e | x, m₁⟩
  · rw [hrun] at hm hraises
    exact hk e (by simpa using hraises) hm
  · rw [hrun] at hm
    exact ⟨hm, raises_ok x⟩

/-- What follows a look at the machine may use that the property holds of what it saw. -/
theorem get {k : Machine → Action α} (hk : ∀ m, P m → Upholds E P (k m)) :
    Upholds E P (MonadState.get >>= k) :=
  fun m h => hk m h h

theorem modify {f : Machine → Machine} (hf : ∀ m, P m → P (f m)) :
    Upholds E P (modify f : Action Unit) :=
  fun m h => ⟨hf m h, raises_ok ()⟩

theorem set {m₁ : Machine} (h₁ : P m₁) : Upholds E P (set m₁ : Action Unit) :=
  fun _ _ => ⟨h₁, raises_ok ()⟩

theorem simulates {a : Action α} (ha : Upholds E P a) : Simulates (Below P) a a := by
  rintro m _ ⟨rfl, h⟩
  exact ⟨rfl, rfl, (ha h).1⟩

end Upholds

/-- A property and a kind of faults that endure statements: the property survives what they write, a
request to stop, and the end of the run; the kind includes the faults of operations and of the
language. A jump is made only to a line whose number can be written. -/
structure Enduring (E : Fault → Prop) (P : Machine → Prop) : Prop where
  primitive : ∀ ⦃e : Fault⦄, e.isPrimitive = true → E e
  run : ∀ cause : RunCause, E (.run cause none)
  display : ∀ ⦃m⦄ (d : Option Display), P m → P { m with display := d }
  dice : ∀ ⦃m⦄ (d : Dice), P m → P { m with dice := d }
  log : ∀ ⦃m⦄ (l : Array LogRecord), P m → P { m with log := l }
  vars : ∀ ⦃m⦄ (v : Table String Value), P m → P { m with vars := v }
  heap : ∀ ⦃m⦄ (h : Heap), P m → P { m with heap := h }
  loops : ∀ ⦃m⦄ (l : Table String Loop), P m → P { m with loops := l }
  stack : ∀ ⦃m⦄ (s : List Int), P m → P { m with stack := s }
  jump : ∀ ⦃m⦄ (line : Int), (Decimal.writeInt? line).isSome = true → P m →
    P { m with cursor := line, jumped := true }
  halt : ∀ ⦃m⦄, P m → P { m with halted := true }
  delay : ∀ ⦃m⦄ (d : Option Value), P m → P { m with delay := d }
  waiting : ∀ ⦃m⦄ (b : Bool), P m → P { m with waiting := b }
  console : ∀ ⦃m⦄ (c : Console), P m → P { m with console := c }
  stop : Upholds E P stop
  finish : ∀ fault : Option Fault, (∀ e ∈ fault, E e) → Upholds E P (finish fault)

theorem primitive_numeral (digits : String) : Primitive (numeral digits) := by
  unfold numeral
  split
  · split <;> simp
  · split <;> simp

theorem primitive_applyUnary (h : Heap) (op : UnaryOp) (v : Value) :
    Primitive (applyUnary h op v) := by
  cases op with
  | not => simp [applyUnary]
  | neg => exact v.primitive_neg
  | pos => exact v.primitive_pos

theorem primitive_applyBinary (h : Heap) (op : BinaryOp) (a b : Value) :
    Primitive (applyBinary h op a b) := by
  cases op with
  | or | and => simp [applyBinary]
  | eq | ne => exact (h.primitive_equal a b).bind fun _ => raises_pure _
  | lt => exact (a.primitive_less b).bind fun _ => raises_pure _
  | gt => exact (a.primitive_greater b).bind fun _ => raises_pure _
  | le => exact (a.primitive_lessEq b).bind fun _ => raises_pure _
  | ge => exact (a.primitive_greaterEq b).bind fun _ => raises_pure _
  | add => exact h.primitive_add a b
  | sub => exact a.primitive_sub b
  | mul => exact a.primitive_mul b
  | div => exact a.primitive_div b
  | mod => exact h.primitive_mod a b
  | pow => exact a.primitive_pow b

theorem primitive_finished (l : Loop) : Primitive l.finished := by
  refine (l.increment.primitive_greater _).bind fun up => ?_
  split
  · exact l.value.primitive_greaterEq l.bound
  · exact l.value.primitive_lessEq l.bound

theorem primitive_seconds (millis : Value) : Primitive (seconds millis) := by
  refine (millis.primitive_div _).bind fun v => ?_
  split
  · exact raises_pure _
  · simp

theorem primitive_replyValue (name : String) (reply : Reply) :
    Primitive (replyValue name reply) := by
  unfold replyValue
  split
  · simp
  · simp
  · simp
  · split <;> simp

namespace Enduring

/-- What an operation does not give is a primitive fault. -/
theorem lift (L : Enduring E P) {x : Except Fault α} (hx : Primitive x) :
    Upholds E P (liftM x : Action α) :=
  .liftM (hx.imp fun _ he => L.primitive he)

theorem record (L : Enduring E P) (level : LogLevel) (message : String) :
    Upholds E P (record level message) :=
  .modify fun _ h => L.log _ h

theorem trace (L : Enduring E P) (level : Int) (message : String) :
    Upholds E P (trace level message) := by
  refine .get fun m _ => ?_
  split
  · exact L.record _ _
  · exact .pure _

theorem getVariable (name : String) : Upholds E P (getVariable name) :=
  .get fun _ _ => .pure _

theorem arrayOf (L : Enduring E P) (name : String) : Upholds E P (arrayOf name) := by
  refine .get fun m _ => ?_
  split
  · exact .pure _
  · exact .throw (L.run _)

theorem getElement (L : Enduring E P) (name : String) (index : Value) :
    Upholds E P (getElement name index) :=
  .bind (L.arrayOf name) fun _ => .bind (L.lift index.primitive_asKey) fun _ =>
    .get fun _ _ => .pure _

theorem getConstant (L : Enduring E P) (name : String) : Upholds E P (getConstant name) := by
  refine .get fun m _ => ?_
  split
  · exact .pure _
  · exact .throw (L.run _)

theorem needDisplay (L : Enduring E P) : Upholds E P needDisplay := by
  refine .get fun m _ => ?_
  split
  · exact .pure _
  · exact .throw (L.run _)

theorem colorAt (L : Enduring E P) (x y : Value) : Upholds E P (colorAt x y) :=
  .bind L.needDisplay fun d => L.lift (d.primitive_color x y)

theorem readKey (L : Enduring E P) : Upholds E P readKey :=
  .bind L.needDisplay fun _ => .bind (.modify fun _ h => L.display _ h) fun _ => .pure _

theorem rollDice (L : Enduring E P) : Upholds E P rollDice :=
  .bind (.modify fun _ h => L.dice _ h) fun _ => .get fun _ _ => .pure _

theorem applyFunction (L : Enduring E P) (f : Function) (args : List Value) :
    Upholds E P (applyFunction f args) := by
  unfold Machine.applyFunction
  split
  next builtin =>
    have hrest : ∀ roll, Upholds E P (do liftM (builtin.apply (← get).heap roll args)) :=
      fun roll => .get fun m _ => L.lift (builtin.primitive_apply m.heap roll args)
    dsimp only
    split
    · exact .bind L.rollDice hrest
    · exact .bind (.pure _) hrest
  next v => exact L.lift (v.primitive_mul _)
  next => exact .bind L.stop fun _ => .pure _
  next => exact .throw (L.primitive rfl)

theorem callFunction (L : Enduring E P) (name : String) (args : List Value) :
    Upholds E P (callFunction name args) := by
  unfold Machine.callFunction
  dsimp only
  split
  · split
    · exact L.colorAt _ _
    · exact .throw (L.primitive rfl)
  · split
    · split
      · exact L.readKey
      · exact .throw (L.primitive rfl)
    · refine .get fun m _ => ?_
      split
      · exact L.applyFunction _ args
      · exact .throw (L.run _)

mutual

theorem evalExpr (L : Enduring E P) :
    ∀ e : Expr, (∀ quoted ∈ e.literals, Raises E (decodeText quoted)) → Upholds E P (evalExpr e)
  | .number digits, _ => by
      rw [Machine.evalExpr]
      exact L.lift (primitive_numeral digits)
  | .literal quoted, h => by
      rw [Machine.evalExpr]
      exact .bind (.liftM (h quoted (by simp [Expr.literals]))) fun _ => .pure _
  | .var name, _ => by
      rw [Machine.evalExpr]
      exact getVariable name
  | .element name index, h => by
      rw [Machine.evalExpr]
      exact .bind (L.evalExpr index h) fun v => L.getElement name v
  | .constant name, _ => by
      rw [Machine.evalExpr]
      exact L.getConstant name
  | .call name args, h => by
      rw [Machine.evalExpr]
      exact .bind (L.evalAll args h) fun vs => L.callFunction name vs
  | .unary op operand, h => by
      rw [Machine.evalExpr]
      refine .bind (L.evalExpr operand h) fun v => ?_
      exact .get fun m _ => L.lift (primitive_applyUnary _ op v)
  | .binary op left right, h => by
      rw [Machine.evalExpr]
      obtain ⟨hleft, hright⟩ := List.forall_mem_append.mp h
      refine .bind (L.evalExpr left hleft) fun a => .bind (L.evalExpr right hright) fun b => ?_
      exact .get fun m _ => L.lift (primitive_applyBinary _ op a b)

theorem evalAll (L : Enduring E P) : ∀ es : List Expr,
    (∀ quoted ∈ literalsOf es, Raises E (decodeText quoted)) → Upholds E P (evalAll es)
  | [], _ => by
      rw [Machine.evalAll]
      exact .pure _
  | e :: rest, h => by
      rw [Machine.evalAll]
      obtain ⟨he, hrest⟩ := List.forall_mem_append.mp h
      exact .bind (L.evalExpr e he) fun _ => .bind (L.evalAll rest hrest) fun _ => .pure _

end

theorem evaluate (L : Enduring E P) {f : Formula}
    (h : ∀ quoted ∈ f.tree.literals, Raises E (decodeText quoted)) : Upholds E P (evaluate f) :=
  .tryCatch (L.evalExpr f.tree h) fun _ he => .bind (L.record _ _) fun _ => .throw he

theorem setVariable (L : Enduring E P) (name : String) (value : Value) :
    Upholds E P (setVariable name value) :=
  .modify fun _ h => L.vars _ h

theorem write (L : Enduring E P) (text : String) : Upholds E P (write text) :=
  .modify fun _ h => L.console _ h

theorem clearConsole (L : Enduring E P) : Upholds E P clearConsole :=
  .modify fun _ h => L.console _ h

theorem clearDisplay (L : Enduring E P) : Upholds E P clearDisplay :=
  .bind L.needDisplay fun _ => .modify fun _ h => L.display _ h

theorem itemTexts (L : Enduring E P) {items : List PrintItem}
    (h : Decodes E (items.map (·.formula))) : Upholds E P (itemTexts items) := by
  induction items with
  | nil => exact .pure _
  | cons item rest ih =>
      obtain ⟨hitem, hrest⟩ := List.forall_mem_cons.mp h
      refine .bind (L.evaluate hitem) fun v => .get fun m _ => ?_
      exact .bind (L.lift (m.heap.primitive_displayText v)) fun _ =>
        .bind (ih hrest) fun _ => .pure _

theorem jumpTo (L : Enduring E P) (line : Int) : Upholds E P (jumpTo line) := by
  unfold Machine.jumpTo
  split
  · exact .throw (L.primitive rfl)
  · next digits hdigits =>
    exact .bind (L.trace _ _) fun _ => .modify fun _ h => L.jump line (by rw [hdigits]; rfl) h

theorem callLine (L : Enduring E P) (line : Int) : Upholds E P (callLine line) :=
  .bind (.modify fun _ h => L.stack _ h) fun _ => L.jumpTo line

theorem returnFromCall (L : Enduring E P) : Upholds E P returnFromCall := by
  refine .get fun m _ => ?_
  split
  · exact .throw (L.run _)
  · exact .bind (.modify fun _ h => L.stack _ h) fun _ => L.jumpTo _

theorem startLoop (L : Enduring E P) (name : String) (value increment bound : Value) :
    Upholds E P (startLoop name value increment bound) := by
  have hrest : Upholds E P (openLoop name value increment bound) := by
    refine .bind (L.setVariable name value) fun _ => .get fun m h => ?_
    split
    · exact L.finish none nofun
    · exact .set (L.loops _ h)
  rw [startLoop_eq]
  refine .bind (L.trace _ _) fun _ => .get fun m _ => ?_
  refine .bind (L.lift (m.heap.primitive_equal increment (.int 0))) fun zero => ?_
  dsimp only
  split
  · exact .bind (.throw (L.run _)) fun _ => hrest
  · exact hrest

theorem advanceLoop (L : Enduring E P) (name : String) : Upholds E P (advanceLoop name) := by
  refine .bind (L.trace _ _) fun _ => .get fun m _ => ?_
  split
  · exact .throw (L.run _)
  · next loop _ =>
    refine .bind (L.lift (loop.value.primitive_plus loop.increment)) fun value => ?_
    refine .bind (.modify fun _ h => L.loops _ h) fun _ => ?_
    refine .bind (L.setVariable _ value) fun _ => ?_
    refine .bind (L.lift (primitive_finished _)) fun done => ?_
    split
    · exact .pure _
    · exact L.jumpTo _

theorem pauseFor (L : Enduring E P) (millis : Value) : Upholds E P (pauseFor millis) := by
  refine .get fun m _ => .bind (L.lift (m.heap.primitive_plainText millis)) fun text => ?_
  refine .bind (L.trace _ _) fun _ => .bind (L.lift (millis.primitive_greater _)) fun positive => ?_
  exact .modify fun _ h => L.delay _ h

theorem receive (L : Enduring E P) (name : String) (reply : Reply) :
    Upholds E P (receive name reply) := by
  refine .get fun m _ => ?_
  split
  · exact .pure _
  · split
    · next e he =>
      refine .bind (L.finish (some e) ?_) fun _ => .pure _
      rintro _ ⟨⟩
      exact L.primitive (primitive_replyValue name reply e he)
    · refine .bind (L.setVariable name _) fun _ => ?_
      exact .bind (.modify fun _ h => L.waiting false h) fun _ => .pure _

theorem ask (L : Enduring E P) (name : String) : Upholds E P (ask name) := by
  refine .bind (.modify fun _ h => L.waiting true h) fun _ => .get fun m h => ?_
  refine .bind (.set (L.console _ h)) fun _ => ?_
  split
  · exact L.receive name _
  · exact .pure _

theorem setElement (L : Enduring E P) (name : String) (index value : Value) :
    Upholds E P (setElement name index value) :=
  .bind (L.arrayOf name) fun _ => .bind (L.lift index.primitive_asKey) fun _ =>
    .modify fun _ h => L.heap _ h

theorem declareArray (L : Enduring E P) (name : String) : Upholds E P (declareArray name) :=
  .modify fun m h => L.vars (m.vars.insert name _) (L.heap (m.heap.alloc .empty).2 h)

theorem plot (L : Enduring E P) (x y color : Value) : Upholds E P (plot x y color) :=
  .bind L.needDisplay fun d => .bind (L.lift (d.primitive_plot x y color)) fun _ =>
    .modify fun _ h => L.display _ h

/-- Every command upholds what endures, if the faults of the literals in it are of the kind. -/
theorem performCommand (L : Enduring E P) (c : Command) (h : Decodes E c.formulas) :
    Upholds E P (performCommand c) := by
  cases c with
  | print items => exact .bind (L.itemTexts h) fun _ => .bind (L.write _) fun _ => .pure _
  | assign name index value =>
      obtain ⟨hindex, hvalue⟩ := List.forall_mem_append.mp h
      have hvalue := List.forall_mem_singleton.mp hvalue
      cases index with
      | none =>
          exact .bind (L.evaluate hvalue) fun v => .bind (L.setVariable name v) fun _ => .pure _
      | some index =>
          have hindex := List.forall_mem_singleton.mp hindex
          refine .bind (L.evaluate hvalue) fun v => .bind (L.evaluate hindex) fun i => ?_
          exact .bind (L.setElement name i v) fun _ => .pure _
  | remark text => exact .pure _
  | jump target => exact .bind (L.jumpTo target) fun _ => .pure _
  | call target => exact .bind (L.callLine target) fun _ => .pure _
  | comeBack => exact .bind L.returnFromCall fun _ => .pure _
  | halt => exact .bind (.modify fun _ h => L.halt h) fun _ => .pure _
  | loop name start stop step =>
      refine .bind (L.evaluate (h start (by simp [Command.formulas]))) fun value => ?_
      refine .bind (L.evaluate (h step (by simp [Command.formulas]))) fun increment => ?_
      refine .bind (L.evaluate (h stop (by simp [Command.formulas]))) fun bound => ?_
      exact .bind (L.startLoop name value increment bound) fun _ => .pure _
  | next name => exact .bind (L.advanceLoop name) fun _ => .pure _
  | pause millis =>
      refine .bind (L.evaluate (h millis (by simp [Command.formulas]))) fun v => ?_
      exact .bind (L.pauseFor v) fun _ => .pure _
  | input prompt name =>
      cases prompt with
      | none => exact L.ask name
      | some text => exact .bind (L.write text) fun _ => L.ask name
  | array name => exact .bind (L.declareArray name) fun _ => .pure _
  | plot x y color =>
      refine .bind (L.evaluate (h x (by simp [Command.formulas]))) fun vx => ?_
      refine .bind (L.evaluate (h y (by simp [Command.formulas]))) fun vy => ?_
      refine .bind (L.evaluate (h color (by simp [Command.formulas]))) fun vc => ?_
      exact .bind (L.plot vx vy vc) fun _ => .pure _
  | clearAll =>
      exact .bind L.clearConsole fun _ => .bind L.clearDisplay fun _ => .pure _
  | clearConsole => exact .bind L.clearConsole fun _ => .pure _
  | clearDisplay => exact .bind L.clearDisplay fun _ => .pure _

theorem performInstruction (L : Enduring E P) (i : Instruction) (h : Decodes E i.formulas) :
    Upholds E P (performInstruction i) := by
  cases i with
  | command c => exact L.performCommand c h
  | branch condition yes no =>
      obtain ⟨hcondition, hcommands⟩ := List.forall_mem_cons.mp h
      obtain ⟨hyes, hno⟩ := List.forall_mem_append.mp hcommands
      refine .bind (L.evaluate hcondition) fun v => .get fun m _ => ?_
      split
      · exact L.performCommand yes hyes
      · cases no with
        | none => exact .pure _
        | some c => exact L.performCommand c hno

/-- A step upholds what endures: a fault of the statement ends the run, and so does a missing line.
-/
theorem step (L : Enduring E P)
    (hdecodes : ∀ ⦃m⦄ ⦃line⦄, P m → m.program.find? m.cursor = some line →
      Decodes E line.instruction.formulas)
    (hmissing : ∀ ⦃m⦄, P m →
      Upholds E P (Machine.finish (some (.run (.missingLine m.cursor) (some m.cursor))))) :
    Upholds E P step := by
  refine .get fun m h => ?_
  split
  · have hend : Upholds E P (do
        Machine.finish (some (.run (.missingLine m.cursor) (some m.cursor)))
        return Reaction.quiet : Action Reaction) :=
      .bind (hmissing h) fun _ => .pure _
    dsimp only
    split
    · exact .bind (.throw (L.primitive rfl)) fun _ => hend
    · exact hend
  · next line hline =>
    refine .bind (L.trace _ _) fun _ => .bind (L.trace _ _) fun _ => ?_
    refine .tryCatch (L.performInstruction _ (hdecodes h hline)) fun e he => ?_
    refine .bind (L.finish (some e) ?_) fun _ => .pure _
    rintro _ ⟨⟩
    exact he

end Enduring

/-- An action keeps a property and raises bare faults only. -/
abbrev Keeps (P : Machine → Prop) (a : Action α) : Prop := Upholds (fun e => e.isBare = true) P a

/-- A property that lasts through statements, whose faults are bare. -/
abbrev Lasting (P : Machine → Prop) : Prop := Enduring (fun e => e.isBare = true) P

theorem decodes_bare (formulas : List Formula) : Decodes (fun e => e.isBare = true) formulas :=
  fun _ _ quoted _ => bare_decodeText quoted

theorem Lasting.performInstruction (L : Lasting P) (i : Instruction) :
    Keeps P (performInstruction i) :=
  Enduring.performInstruction L i (decodes_bare i.formulas)

end Machine

end LineBasic

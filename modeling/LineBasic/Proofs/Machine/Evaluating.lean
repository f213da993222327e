import LineBasic.Proofs.Computation
import LineBasic.Proofs.Machine.Stepping

/-!
# What evaluation takes from the machine

Two kinds of calls change the machine: one takes a key off the queue, the other throws the dice.
Where an expression stands in a text, the calls of either kind in front of it are counted by the
text alone, so each call can be numbered in the order of the text. `valueAt` is the value of an
expression on a machine that does not change, where the call with the number `i` gives the key at
the place `i` of the queue. Evaluation comes to this value (`draws_evalExpr`): it evaluates every
operand once, from left to right, and when it succeeds it has taken as many keys as there are calls
for them in the text. When it fails it has taken no more than these.

Functions that stop the machine are left out. The default functions have none.
-/

namespace LineBasic

/-! ## Calls in a text -/

/-- Whether a call reads a key. -/
def readsKey (name : String) (args : List Expr) : Bool :=
  Text.upper name == "GETCHAR" && args.isEmpty

def Function.isRandom : Function → Bool
  | .builtin f => f.isRandom
  | _ => false

/-- Whether a call throws the dice, given the functions that it may call. -/
def throwsDice (functions : Table String Function) (name : String) (_ : List Expr) : Bool :=
  let key := Text.upper name
  key != "COLOR" && key != "GETCHAR" && (functions.get? key).any (·.isRandom)

mutual

/-- The number of calls of one kind in an expression. -/
def Expr.count (kind : String → List Expr → Bool) : Expr → Nat
  | .element _ index => index.count kind
  | .call name args => countOf kind args + (kind name args).toNat
  | .unary _ operand => operand.count kind
  | .binary _ left right => left.count kind + right.count kind
  | _ => 0

def countOf (kind : String → List Expr → Bool) : List Expr → Nat
  | [] => 0
  | e :: rest => e.count kind + countOf kind rest

end

/-- Numbers of calls that read a key, and of calls that throw the dice. -/
@[ext] structure Calls where
  keys : Nat := 0
  throws : Nat := 0

namespace Calls

instance : Add Calls := ⟨fun a b => ⟨a.keys + b.keys, a.throws + b.throws⟩⟩

@[simp] theorem keys_add (a b : Calls) : (a + b).keys = a.keys + b.keys := rfl

@[simp] theorem throws_add (a b : Calls) : (a + b).throws = a.throws + b.throws := rfl

theorem add_assoc (a b c : Calls) : a + b + c = a + (b + c) := by
  ext <;> simp [Nat.add_assoc]

theorem none_add (a : Calls) : ({} : Calls) + a = a := by
  ext <;> simp

end Calls

def Expr.calls (functions : Table String Function) (e : Expr) : Calls :=
  ⟨e.count readsKey, e.count (throwsDice functions)⟩

def callsOf (functions : Table String Function) (es : List Expr) : Calls :=
  ⟨countOf readsKey es, countOf (throwsDice functions) es⟩

/-- A call by itself, without those among its arguments. -/
def callHere (functions : Table String Function) (name : String) (args : List Expr) : Calls :=
  ⟨(readsKey name args).toNat, (throwsDice functions name args).toNat⟩

theorem Expr.calls_call (functions : Table String Function) (name : String) (args : List Expr) :
    (Expr.call name args).calls functions = callsOf functions args + callHere functions name args :=
  rfl

theorem Expr.calls_binary (functions : Table String Function) (op : BinaryOp) (left right : Expr) :
    (Expr.binary op left right).calls functions = left.calls functions + right.calls functions :=
  rfl

theorem callsOf_cons (functions : Table String Function) (e : Expr) (rest : List Expr) :
    callsOf functions (e :: rest) = e.calls functions + callsOf functions rest :=
  rfl

def Display.dropKeys (d : Display) (n : Nat) : Display := { d with keys := d.keys.drop n }

theorem Display.readKey_dropKeys (d : Display) (n : Nat) :
    (d.dropKeys n).readKey = (d.keys.getD n "", d.dropKeys (n + 1)) := by
  unfold readKey dropKeys
  cases hkeys : d.keys.drop n with
  | nil =>
      have hlength := List.drop_eq_nil_iff.mp hkeys
      simp [List.getElem?_eq_none hlength, List.drop_eq_nil_of_le (Nat.le_succ_of_le hlength)]
  | cons key rest =>
      have hget : d.keys[n]? = some key := by
        rw [← List.head?_drop, hkeys]
        rfl
      have hrest : d.keys.drop (n + 1) = rest := by
        rw [← List.tail_drop, hkeys]
        rfl
      simp [hrest, hget]

def Dice.thrown (d : Dice) : Nat → Dice
  | 0 => d
  | n + 1 => (d.thrown n).next

namespace Machine

variable {α β : Type} {m : Machine}

def after (m : Machine) (c : Calls) : Machine :=
  { m with display := m.display.map (·.dropKeys c.keys), dice := m.dice.thrown c.throws }

/-- The key that the call with a number reads: the one at that place of the queue, an empty text
behind its end. -/
def keyAt (m : Machine) (i : Nat) : Except Fault Value :=
  match m.display with
  | some d => .ok (.text (d.keys.getD i ""))
  | none => .error (.run .noDisplay none)

/-- What the throw with a number shows. -/
def rollAt (m : Machine) (i : Nat) : Nat := (m.dice.thrown (i + 1)).roll

/-- What an action gives on a machine. -/
def resultOn (m : Machine) (a : Action α) : Except Fault α := (a.run.run m).1

def applyAt (m : Machine) (before : Calls) : Function → List Value → Except Fault Value
  | .builtin f, args => f.apply m.heap (if f.isRandom then m.rollAt before.throws else 0) args
  | f, args => m.resultOn (applyFunction f args)

/-- What a call gives, with some calls before it. -/
def callAt (m : Machine) (before : Calls) (name : String) (args : List Value) :
    Except Fault Value :=
  let key := Text.upper name
  if key == "COLOR" then
    match args with
    | [x, y] => m.resultOn (colorAt x y)
    | _ => .error .wrongType
  else if key == "GETCHAR" then
    match args with
    | [] => m.keyAt before.keys
    | _ => .error .wrongType
  else
    match m.functions.get? key with
    | some f => m.applyAt before f args
    | none => .error (.run (.unknownFunction name) none)

mutual

/-- The value of an expression on a machine that does not change, with some calls before it in the
text. -/
def valueAt (m : Machine) (before : Calls) : Expr → Except Fault Value
  | .number digits => numeral digits
  | .literal quoted => do return .text (← decodeText quoted)
  | .var name => m.resultOn (getVariable name)
  | .element name index => do m.resultOn (getElement name (← m.valueAt before index))
  | .constant name => m.resultOn (getConstant name)
  | .call name args => do
    m.callAt (before + callsOf m.functions args) name (← m.valuesAt before args)
  | .unary op operand => do applyUnary m.heap op (← m.valueAt before operand)
  | .binary op left right => do
    let a ← m.valueAt before left
    let b ← m.valueAt (before + left.calls m.functions) right
    applyBinary m.heap op a b

def valuesAt (m : Machine) (before : Calls) : List Expr → Except Fault (List Value)
  | [] => return []
  | e :: rest => do
    let v ← m.valueAt before e
    return v :: (← m.valuesAt (before + e.calls m.functions) rest)

end

/-- An action that makes some calls gives a result and leaves the machine as it was, but for the
calls that it has made: all of them when it succeeds, and no more than these when it fails. -/
def Draws (m : Machine) (before calls : Calls) (x : Except Fault α) (a : Action α) : Prop :=
  ∃ made : Calls, a.run.run (m.after before) = (x, m.after (before + made)) ∧
    made.keys ≤ calls.keys ∧ ∀ v, x = .ok v → made = calls

namespace Draws

variable {before calls more : Calls}

/-- What leaves the machine alone makes no calls. -/
theorem of_silent {x : Except Fault α} {a : Action α}
    (h : a.run.run (m.after before) = (x, m.after before)) : Draws m before {} x a :=
  ⟨{}, h, Nat.le_refl 0, fun _ _ => rfl⟩

theorem liftM (x : Except Fault α) : Draws m before {} x (liftM x) :=
  of_silent (run_liftM x _)

theorem bind {x : Except Fault α} {a : Action α} {y : α → Except Fault β} {k : α → Action β}
    (ha : Draws m before calls x a)
    (hk : ∀ v, x = .ok v → Draws m (before + calls) more (y v) (k v)) :
    Draws m before (calls + more) (x >>= y) (a >>= k) := by
  obtain ⟨made, hrun, hkeys, hmade⟩ := ha
  cases x with
  | error e =>
      refine ⟨made, ?_, ?_, nofun⟩
      · rw [run_bind, hrun]
        rfl
      · simp only [Calls.keys_add]
        omega
  | ok v =>
      cases hmade v rfl
      obtain ⟨made', hrun', hkeys', hmade'⟩ := hk v rfl
      refine ⟨calls + made', ?_, ?_, fun w hw => ?_⟩
      · rw [run_bind, hrun, ← Calls.add_assoc]
        exact hrun'
      · simp only [Calls.keys_add]
        omega
      · rw [hmade' w hw]

/-- What follows makes no calls. -/
theorem map {x : Except Fault α} {a : Action α} {y : α → Except Fault β} {k : α → Action β}
    (ha : Draws m before calls x a)
    (hk : ∀ v, Draws m (before + calls) {} (y v) (k v)) :
    Draws m before calls (x >>= y) (a >>= k) :=
  ha.bind fun v _ => hk v

/-- What follows a value makes no calls. -/
theorem map_ok {v : α} {a : Action α} {y : Except Fault β} {k : α → Action β}
    (ha : Draws m before calls (.ok v) a) (hk : Draws m (before + calls) {} y (k v)) :
    Draws m before calls y (a >>= k) := by
  have h : Draws m before (calls + {}) (.ok v >>= fun _ => y) (a >>= k) := ha.bind fun w hw => by
    cases hw
    exact hk
  exact h

end Draws

theorem draws_getVariable (before : Calls) (name : String) :
    Draws m before {} (m.resultOn (getVariable name)) (getVariable name) :=
  .of_silent rfl

theorem draws_getConstant (before : Calls) (name : String) :
    Draws m before {} (m.resultOn (getConstant name)) (getConstant name) := by
  refine .of_silent ?_
  simp only [resultOn, getConstant, run_bind, run_get, after]
  split <;> rfl

theorem draws_getElement (before : Calls) (name : String) (index : Value) :
    Draws m before {} (m.resultOn (getElement name index)) (getElement name index) := by
  refine .of_silent ?_
  simp only [resultOn, getElement, arrayOf, run_bind, run_get, run_liftM, after]
  cases m.vars.get? name with
  | none => rfl
  | some v =>
      cases v with
      | array ref =>
          simp only [run_pure]
          cases index.asKey <;> rfl
      | _ => rfl

theorem draws_colorAt (before : Calls) (x y : Value) :
    Draws m before {} (m.resultOn (colorAt x y)) (colorAt x y) := by
  refine .of_silent ?_
  simp only [resultOn, colorAt, needDisplay, run_bind, run_get, after]
  cases m.display <;> rfl

/-- Reading a key is a call that gives the key with its number. -/
theorem draws_readKey (before : Calls) :
    Draws m before { keys := 1 } (m.keyAt before.keys) readKey := by
  cases hdisplay : m.display with
  | none =>
      refine ⟨{}, ?_, by simp, ?_⟩
      · simp only [readKey, needDisplay, run_bind, run_get, after, keyAt, hdisplay]
        rfl
      · simp [keyAt, hdisplay]
  | some d =>
      refine ⟨{ keys := 1 }, ?_, Nat.le_refl 1, fun _ _ => rfl⟩
      simp only [readKey, needDisplay, run_bind, run_get, after, keyAt, hdisplay, Option.map_some,
        run_pure, run_modify, Display.readKey_dropKeys]
      rfl

/-- Throwing the dice is a call that gives the throw with its number. -/
theorem draws_rollDice (before : Calls) :
    Draws m before { throws := 1 } (.ok (m.rollAt before.throws)) rollDice := by
  refine ⟨{ throws := 1 }, ?_, Nat.le_refl 0, fun _ _ => rfl⟩
  simp only [rollDice, run_bind, run_modify, run_get, run_pure, rollAt, after, Dice.thrown,
    Calls.keys_add, Nat.add_zero]

/-- A function that does not stop the machine throws the dice, or leaves the machine alone. -/
theorem draws_applyFunction (before : Calls) {f : Function} (hf : f ≠ .stop) (args : List Value) :
    Draws m before { throws := f.isRandom.toNat } (m.applyAt before f args)
      (applyFunction f args) := by
  cases f with
  | builtin b =>
      have happly (k : Calls) (roll : Nat) :
          Draws m k {} (b.apply m.heap roll args)
            (do liftM (b.apply (← get).heap roll args)) := by
        refine .of_silent ?_
        simp only [run_bind, run_get, run_liftM, after]
      cases hrandom : b.isRandom with
      | false =>
          simp only [applyFunction, applyAt, Function.isRandom, hrandom, Bool.false_eq_true,
            if_false, pure_bind, Bool.toNat_false]
          exact happly before 0
      | true =>
          simp only [applyFunction, applyAt, Function.isRandom, hrandom, if_true, Bool.toNat_true]
          refine (draws_rollDice before).map_ok ?_
          exact happly _ _
  | double =>
      refine .of_silent ?_
      simp only [applyAt, resultOn]
      match args with
      | [] => rfl
      | [v] => simp only [applyFunction, run_liftM]
      | _ :: _ :: _ => rfl
  | stop => exact absurd rfl hf

/-- A call draws for itself alone once its arguments have their values. -/
theorem draws_callFunction (before : Calls)
    (hfunctions : ∀ name, m.functions.get? name ≠ some .stop) (name : String) (args : List Expr)
    {vs : List Value} (hvs : vs = [] ↔ args = []) :
    Draws m before (callHere m.functions name args) (m.callAt before name vs)
      (callFunction name vs) := by
  unfold callFunction callAt callHere readsKey throwsDice
  dsimp only
  by_cases hcolor : Text.upper name = "COLOR"
  · have hother : ("COLOR" == "GETCHAR") = false := by decide
    simp only [hcolor, beq_self_eq_true, bne_self_eq_false, hother, Bool.false_and, if_true]
    rcases vs with - | ⟨x, - | ⟨y, - | ⟨z, zs⟩⟩⟩
    · exact .of_silent rfl
    · exact .of_silent rfl
    · exact draws_colorAt before x y
    · exact .of_silent rfl
  · have hcolor' : (Text.upper name == "COLOR") = false := beq_false_of_ne hcolor
    by_cases hgetchar : Text.upper name = "GETCHAR"
    · have hother : ("GETCHAR" == "COLOR") = false := by decide
      simp only [hgetchar, beq_self_eq_true, bne_self_eq_false, hother, Bool.false_and,
        Bool.and_false, Bool.true_and, if_true, if_false, Bool.false_eq_true]
      cases vs with
      | nil =>
          cases hvs.mp rfl
          exact draws_readKey before
      | cons v vs =>
          obtain ⟨arg, rest, rfl⟩ := List.exists_cons_of_ne_nil (mt hvs.mpr (List.cons_ne_nil v vs))
          exact .of_silent rfl
    · have hgetchar' : (Text.upper name == "GETCHAR") = false := beq_false_of_ne hgetchar
      simp only [hcolor', hgetchar', bne, Bool.false_and, Bool.not_false, Bool.true_and, if_false,
        Bool.false_eq_true, Bool.toNat_false]
      cases hfound : m.functions.get? (Text.upper name) with
      | none =>
          refine .of_silent ?_
          simp only [run_bind, run_get, after, hfound]
          rfl
      | some f =>
          have hne : f ≠ .stop := fun hstop => hfunctions _ (hstop ▸ hfound)
          obtain ⟨made, hrun, hmade⟩ := draws_applyFunction (m := m) before hne vs
          refine ⟨made, ?_, hmade⟩
          simp only [run_bind, run_get, after, hfound]
          exact hrun

/-- There are as many values as expressions; for the calls it is enough that none come of none. -/
theorem valuesAt_eq_nil_iff {before : Calls} {es : List Expr} {vs : List Value}
    (h : m.valuesAt before es = .ok vs) : vs = [] ↔ es = [] := by
  cases es with
  | nil =>
      rw [valuesAt] at h
      cases h
      simp
  | cons e rest =>
      rw [valuesAt] at h
      obtain ⟨v, -, h⟩ := bind_eq_ok.mp h
      obtain ⟨others, -, h⟩ := bind_eq_ok.mp h
      cases h
      simp

mutual

/-- Evaluation comes to the value of the expression, and draws for all the calls in it. -/
theorem draws_evalExpr (hfunctions : ∀ name, m.functions.get? name ≠ some .stop) :
    ∀ (e : Expr) (before : Calls),
      Draws m before (e.calls m.functions) (m.valueAt before e) (evalExpr e)
  | .number digits, before => .liftM (numeral digits)
  | .literal quoted, before => by
    rw [evalExpr, valueAt]
    exact (Draws.liftM (decodeText quoted)).map fun text => .of_silent rfl
  | .var name, before => by
    rw [evalExpr, valueAt]
    exact draws_getVariable before name
  | .element name index, before => by
    rw [evalExpr, valueAt]
    exact (draws_evalExpr hfunctions index before).map fun i => draws_getElement _ name i
  | .constant name, before => by
    rw [evalExpr, valueAt]
    exact draws_getConstant before name
  | .call name args, before => by
    rw [evalExpr, valueAt, Expr.calls_call]
    exact (draws_evalAll hfunctions args before).bind fun vs hvs =>
      draws_callFunction _ hfunctions name args (valuesAt_eq_nil_iff hvs)
  | .unary op operand, before => by
    rw [evalExpr, valueAt]
    exact (draws_evalExpr hfunctions operand before).map fun v => .of_silent (by
      simp only [run_bind, run_get, run_liftM, after])
  | .binary op left right, before => by
    rw [evalExpr, valueAt, Expr.calls_binary]
    exact (draws_evalExpr hfunctions left before).bind fun a _ =>
      (draws_evalExpr hfunctions right _).map fun b => .of_silent (by
        simp only [run_bind, run_get, run_liftM, after])

/-- The values of several expressions in a row draw for all the calls in them. -/
theorem draws_evalAll (hfunctions : ∀ name, m.functions.get? name ≠ some .stop) :
    ∀ (es : List Expr) (before : Calls),
      Draws m before (callsOf m.functions es) (m.valuesAt before es) (evalAll es)
  | [], before => by
    rw [evalAll, valuesAt]
    exact .of_silent rfl
  | e :: rest, before => by
    rw [evalAll, valuesAt, callsOf_cons]
    exact (draws_evalExpr hfunctions e before).bind fun v _ =>
      (draws_evalAll hfunctions rest _).map fun vs => .of_silent rfl

end

/-- The machine that has logged that the evaluation of a text failed. -/
def failing (m : Machine) (code : String) : Machine :=
  { m with log := m.log.push { level := .error, message := "Error evaluating code: " ++ code } }

theorem after_none (m : Machine) : m.after {} = m := by
  have hdisplay : m.display.map (·.dropKeys 0) = m.display := by
    cases m.display <;> rfl
  simp only [after, hdisplay, Dice.thrown]

theorem run_logging_ok {calls : Calls} {v : Value} {a : Action Value}
    (h : Draws m {} calls (.ok v) a) (code : String) :
    (logging code a).run.run m = (.ok v, m.after calls) := by
  obtain ⟨made, hrun, -, hmade⟩ := h
  cases hmade v rfl
  rw [after_none, Calls.none_add] at hrun
  rw [logging, run_tryCatch, hrun]

theorem run_logging_error {calls : Calls} {e : Fault} {a : Action Value}
    (h : Draws m {} calls (.error e) a) (code : String) :
    ∃ made : Calls, made.keys ≤ calls.keys ∧
      (logging code a).run.run m = (.error e, (m.after made).failing code) := by
  obtain ⟨made, hrun, hkeys, -⟩ := h
  rw [after_none, Calls.none_add] at hrun
  refine ⟨made, hkeys, ?_⟩
  rw [logging, run_tryCatch, hrun]
  rfl

/-- A text that is an expression has its value. -/
theorem evaluateText_of_ok {text : String} {e : Expr} {v : Value} {k : Machine}
    (hparse : parseExpression text = .ok e) (hvalue : (evalExpr e).run.run m = (.ok v, k)) :
    (evaluateText text).run.run m = (.ok v, k) := by
  have hread : (do evalExpr (← liftM (parseExpression text)) : Action Value).run.run m =
      (.ok v, k) := by
    rw [hparse]
    exact hvalue
  rw [evaluateText, logging, run_tryCatch, hread]

/-- A text that is no expression fails to be evaluated, which is logged. -/
theorem evaluateText_of_error {text : String} {fault : Fault}
    (hparse : parseExpression text = .error fault) :
    (evaluateText text).run.run m = (.error fault, m.failing text) := by
  have hread : (do evalExpr (← liftM (parseExpression text)) : Action Value).run.run m =
      (.error fault, m) := by
    rw [hparse]
    rfl
  rw [evaluateText, logging, run_tryCatch, hread]
  rfl

/-- Evaluating a text changes nothing but the queue of keys and the dice, and the log when it fails.
When it succeeds, its value is that of an evaluation from left to right where each call for a key
gets the key with its number, and as many keys are gone as there are calls for them in the text.
When it fails, no more keys than these are gone, from the front of the queue, and the failure is
logged once. -/
theorem evaluateText_draws {d : Display} (hdisplay : m.display = some d)
    (hfunctions : ∀ name, m.functions.get? name ≠ some .stop) (code : String) :
    (∀ e, parseExpression code = .error e →
      (evaluateText code).run.run m = (.error e, m.failing code)) ∧
    ∀ tree, parseExpression code = .ok tree →
      (∀ v, m.valueAt {} tree = .ok v →
        (evaluateText code).run.run m =
          (.ok v, { m with
            display := some { d with keys := d.keys.drop (tree.count readsKey) },
            dice := m.dice.thrown (tree.count (throwsDice m.functions)) })) ∧
      ∀ e, m.valueAt {} tree = .error e →
        ∃ taken ≤ tree.count readsKey, ∃ thrown,
          (evaluateText code).run.run m =
            (.error e, { m with
              display := some { d with keys := d.keys.drop taken },
              dice := m.dice.thrown thrown,
              log := m.log.push
                { level := .error, message := "Error evaluating code: " ++ code } }) := by
  have hafter (c : Calls) : m.after c =
      { m with
        display := some { d with keys := d.keys.drop c.keys }
        dice := m.dice.thrown c.throws } := by
    simp only [after, hdisplay, Option.map_some, Display.dropKeys]
  refine ⟨fun e hparse => ?_, fun tree hparse => ?_⟩
  · rw [evaluateText, hparse, logging, run_tryCatch]
    rfl
  · have hdraws := draws_evalExpr hfunctions tree {}
    rw [evaluateText, hparse]
    refine ⟨fun v hv => ?_, fun e he => ?_⟩
    · rw [hv] at hdraws
      exact (run_logging_ok hdraws code).trans (by rw [hafter]; rfl)
    · rw [he] at hdraws
      obtain ⟨made, hkeys, hrun⟩ := run_logging_error hdraws code
      refine ⟨made.keys, hkeys, made.throws, hrun.trans ?_⟩
      rw [hafter]
      rfl

/-- The right side of `OR` takes a key too, though the left side is true, and the fourth call finds
the queue empty. -/
theorem evaluateText_draws_both_sides :
    ∃ v, (Heap.displayText {} v).toOption = some "xx" ∧
      (evaluateText "GETCHAR() * (1 - (GETCHAR() OR GETCHAR())) + GETCHAR()").run.run
          { constants := defaultConstants, functions := defaultFunctions,
            display := some { keys := ["x", "y", "z"] } } =
        (.ok v,
          { constants := defaultConstants, functions := defaultFunctions,
            display := some { keys := [] } }) := by
  let m : Machine :=
    { constants := defaultConstants, functions := defaultFunctions,
      display := some { keys := ["x", "y", "z"] } }
  let key : Expr := .call "GETCHAR" []
  let tree : Expr :=
    .binary .add (.binary .mul key (.binary .sub (.number "1") (.binary .or key key))) key
  have hparse : parseExpression "GETCHAR() * (1 - (GETCHAR() OR GETCHAR())) + GETCHAR()" =
      .ok tree := by
    with_unfolding_all rfl
  have hshown : ((m.valueAt {} tree).toOption.bind fun v => (Heap.displayText {} v).toOption) =
      some "xx" := by
    decide +kernel
  cases hvalue : m.valueAt {} tree with
  | error e => simp [hvalue, Except.toOption] at hshown
  | ok v =>
      rw [hvalue] at hshown
      exact ⟨v, hshown, ((evaluateText_draws rfl defaultFunctions_unstopped _).2 tree hparse).1 v
        hvalue⟩

end Machine

end LineBasic

import LineBasic.Proofs.Machine.Driving
import LineBasic.Proofs.Value.Results

/-!
# What statements store

The memory of a machine is all that values are kept in: constants, variables, arrays, the records of
loops and the points of the display. It is closed when nothing in it refers to an array that is not
in the store.

Evaluation leaves the memory alone and gives values of its store, as no operation makes an array.
`Stores` says once what every command can do to the memory, whether it succeeds or fails. So every
command keeps the memory closed, changes at most the variable that it is about, and writes to the
elements of at most one array.
-/

namespace LineBasic

structure Memory where
  constants : Table String Value
  vars : Table String Value
  heap : Heap
  loops : Table String Loop
  /-- The points of the display, if there is one. -/
  pixels : Option (Table (Int × Int) Value)

namespace Memory

variable {M : Memory} {name : String} {v : Value}

/-- A value that refers to none but the arrays of the store. -/
def Holds (M : Memory) (v : Value) : Prop := v.Within M.heap.arrays.size

def assign (M : Memory) (name : String) (v : Value) : Memory :=
  { M with vars := M.vars.insert name v }

def write (M : Memory) (ref : Nat) (key v : Value) : Memory :=
  { M with heap := M.heap.write ref key v }

def declare (M : Memory) (name : String) : Memory :=
  { M with
    heap := (M.heap.alloc .empty).2, vars := M.vars.insert name (.array M.heap.arrays.size) }

def enter (M : Memory) (name : String) (loop : Loop) : Memory :=
  { M with loops := M.loops.insert name loop }

def paint (M : Memory) (pixels : Table (Int × Int) Value) : Memory :=
  { M with pixels := some pixels }

def clear (M : Memory) : Memory := { M with vars := .empty, loops := .empty }

/-- Nothing refers to an array that is not in the store, and loops are recorded under the variable
that they count with. -/
structure Closed (M : Memory) : Prop where
  heap : M.heap.Closed
  constants : ∀ v ∈ M.constants.values, M.Holds v
  vars : ∀ v ∈ M.vars.values, M.Holds v
  pixels : ∀ pixels ∈ M.pixels, ∀ v ∈ pixels.values, M.Holds v
  loops : ∀ name loop, M.loops.get? name = some loop → loop.name = name

theorem holds_of_isPlain (hv : v.IsPlain) : M.Holds v := hv.within _

/-- What a variable refers to is in the store; one that was never set is zero. -/
theorem Closed.holds_var (hM : M.Closed) (name : String) :
    M.Holds ((M.vars.get? name).getD (.int 0)) := by
  cases hname : M.vars.get? name with
  | none => exact holds_of_isPlain (Value.isPlain_number _)
  | some v => exact hM.vars v (Table.mem_values_of_get? hname)

theorem Closed.lt_of_var (hM : M.Closed) {ref : Nat}
    (hname : M.vars.get? name = some (.array ref)) : ref < M.heap.arrays.size :=
  hM.vars _ (Table.mem_values_of_get? hname) ref rfl

theorem Closed.holds_element (hM : M.Closed) (ref : Nat) (key : Value) :
    M.Holds (((M.heap.cells ref).get? key).getD (.int 0)) := by
  cases hkey : (M.heap.cells ref).get? key with
  | none => exact holds_of_isPlain (Value.isPlain_number _)
  | some v => exact hM.heap.values ref v (Table.mem_values_of_get? hkey)

theorem Closed.assign (hM : M.Closed) (name : String) (hv : M.Holds v) :
    (M.assign name v).Closed where
  heap := hM.heap
  constants := hM.constants
  vars w hw := (Table.mem_values_insert hw).elim (fun h => h ▸ hv) (hM.vars w)
  pixels := hM.pixels
  loops := hM.loops

theorem Closed.write (hM : M.Closed) (ref : Nat) {key : Value} (hkey : key.IsPlain)
    (hv : M.Holds v) : (M.write ref key v).Closed := by
  have hholds (w : Value) (hw : M.Holds w) : (M.write ref key v).Holds w := by
    simpa [Holds, Memory.write] using hw
  exact
    { heap := hM.heap.write hkey hv
      constants := fun w hw => hholds w (hM.constants w hw)
      vars := fun w hw => hholds w (hM.vars w hw)
      pixels := fun pixels hpixels w hw => hholds w (hM.pixels pixels hpixels w hw)
      loops := hM.loops }

theorem Closed.declare (hM : M.Closed) (name : String) : (M.declare name).Closed := by
  have hholds (w : Value) (hw : M.Holds w) : (M.declare name).Holds w :=
    hw.mono (by simp [Memory.declare])
  have hnew : (M.declare name).Holds (.array M.heap.arrays.size) :=
    Value.within_array.mpr (by simp [Memory.declare])
  exact
    { heap := hM.heap.alloc
      constants := fun w hw => hholds w (hM.constants w hw)
      vars := fun w hw =>
        (Table.mem_values_insert hw).elim (fun h => h ▸ hnew) fun h => hholds w (hM.vars w h)
      pixels := fun pixels hpixels w hw => hholds w (hM.pixels pixels hpixels w hw)
      loops := hM.loops }

theorem Closed.enter (hM : M.Closed) {loop : Loop} (hloop : loop.name = name) :
    (M.enter name loop).Closed where
  heap := hM.heap
  constants := hM.constants
  vars := hM.vars
  pixels := hM.pixels
  loops other l hl := by
    rw [Memory.enter, Table.get?_insert] at hl
    split at hl
    · next hname =>
      cases hl
      rw [hloop, eq_of_beq hname]
    · exact hM.loops other l hl

theorem Closed.paint (hM : M.Closed) {pixels : Table (Int × Int) Value}
    (hpixels : ∀ v ∈ pixels.values, M.Holds v) : (M.paint pixels).Closed where
  heap := hM.heap
  constants := hM.constants
  vars := hM.vars
  pixels := by
    rintro _ ⟨⟩
    exact hpixels
  loops := hM.loops

theorem Closed.clear (hM : M.Closed) : M.clear.Closed where
  heap := hM.heap
  constants := hM.constants
  vars _ hv := absurd hv List.not_mem_nil
  pixels := hM.pixels
  loops name loop hloop := by
    rw [Memory.clear, Table.get?_empty] at hloop
    cases hloop

end Memory

/-- What performing a command can do to the memory. -/
inductive Stores (M : Memory) : Command → Memory → Prop where
  | still (c : Command) : Stores M c M
  | assign {name : String} {value : Formula} {v : Value} (hv : M.Holds v) :
      Stores M (.assign name none value) (M.assign name v)
  | element {name : String} {index value : Formula} {ref : Nat} {key v : Value}
      (hname : M.vars.get? name = some (.array ref)) (hkey : key.IsPlain) (hv : M.Holds v) :
      Stores M (.assign name (some index) value) (M.write ref key v)
  | array (name : String) : Stores M (.array name) (M.declare name)
  | loopLast {name : String} {start stop step : Formula} {v : Value} (hv : M.Holds v) :
      Stores M (.loop name start stop step) (M.assign name v)
  | loop {name : String} {start stop step : Formula} {v : Value} (hv : M.Holds v) {loop : Loop}
      (hloop : loop.name = name) :
      Stores M (.loop name start stop step) ((M.assign name v).enter name loop)
  | next {name : String} {loop : Loop} (hloop : M.loops.get? name = some loop) {v : Value}
      (hv : v.IsPlain) :
      Stores M (.next name) ((M.enter name { loop with value := v }).assign loop.name v)
  | input {prompt : Option String} {name : String} {v : Value} (hv : v.IsPlain) :
      Stores M (.input prompt name) (M.assign name v)
  | plot {x y color : Formula} {pixels : Table (Int × Int) Value} (hpixels : M.pixels = some pixels)
      (point : Int × Int) {v : Value} (hv : M.Holds v) :
      Stores M (.plot x y color) (M.paint (pixels.insert point v))
  | clearAll : Stores M .clearAll (M.paint .empty)
  | clearDisplay : Stores M .clearDisplay (M.paint .empty)

/-- Every command keeps the memory closed. -/
theorem Stores.closed {M M' : Memory} {c : Command} (h : Stores M c M') (hM : M.Closed) :
    M'.Closed := by
  cases h with
  | still => exact hM
  | assign hv => exact hM.assign _ hv
  | element _ hkey hv => exact hM.write _ hkey hv
  | array name => exact hM.declare name
  | loopLast hv => exact hM.assign _ hv
  | loop hv hloop => exact (hM.assign _ hv).enter hloop
  | @next name loop hloop v hv =>
      have hentered : (M.enter name { loop with value := v }).Closed :=
        hM.enter (hM.loops name loop hloop)
      exact hentered.assign _ (Memory.holds_of_isPlain hv)
  | input hv => exact hM.assign _ (Memory.holds_of_isPlain hv)
  | plot hpixels _ hv =>
      exact hM.paint fun w hw =>
        (Table.mem_values_insert hw).elim (fun h => h ▸ hv) (hM.pixels _ hpixels w)
  | clearAll | clearDisplay => exact hM.paint nofun

namespace Machine

variable {α β : Type} {M : Memory} {G : α → Prop} {H : β → Prop} {Q : Memory → Prop}

def memory (m : Machine) : Memory where
  constants := m.constants
  vars := m.vars
  heap := m.heap
  loops := m.loops
  pixels := m.display.map (·.pixels)

abbrev Still (M : Memory) (a : Action α) : Prop := Simulates (Below fun m => m.memory = M) a a

/-- An action leaves the memory alone and gives results of one kind only. -/
def Yields (M : Memory) (G : α → Prop) (a : Action α) : Prop :=
  ∀ ⦃m : Machine⦄, m.memory = M → (a.run.run m).2.memory = M ∧ Gives G (a.run.run m).1

namespace Yields

theorem still {a : Action α} (h : Yields M G a) : Still M a := by
  rintro m _ ⟨rfl, hm⟩
  exact ⟨rfl, rfl, (h hm).1⟩

theorem of_still {a : Action α} (h : Still M a) : Yields M (fun _ => True) a :=
  fun _ hm => ⟨h.keeps hm, fun _ _ => trivial⟩

theorem pure {x : α} (hx : G x) : Yields M G (Pure.pure x : Action α) :=
  fun _ hm => ⟨hm, gives_ok.mpr hx⟩

theorem throw (e : Fault) : Yields M G (throw e : Action α) :=
  fun _ hm => ⟨hm, gives_error e⟩

theorem liftM {x : Except Fault α} (hx : Gives G x) : Yields M G (liftM x : Action α) := by
  intro m hm
  rw [run_liftM]
  exact ⟨hm, hx⟩

theorem bind {a : Action α} {k : α → Action β} (ha : Yields M G a)
    (hk : ∀ x, G x → Yields M H (k x)) : Yields M H (a >>= k) := by
  intro m hm
  obtain ⟨hkeeps, hgives⟩ := ha hm
  rw [run_bind]
  rcases hrun : a.run.run m with ⟨e | x, m₁⟩
  · rw [hrun] at hkeeps
    exact ⟨hkeeps, gives_error e⟩
  · rw [hrun] at hkeeps hgives
    exact hk x (hgives x rfl) hkeeps

theorem get {k : Machine → Action α} (hk : ∀ m, m.memory = M → Yields M G (k m)) :
    Yields M G (MonadState.get >>= k) :=
  fun m hm => hk m hm hm

theorem modify {f : Machine → Machine} (hf : ∀ m, m.memory = M → (f m).memory = M) :
    Yields M (fun _ => True) (modify f : Action Unit) :=
  fun m hm => ⟨hf m hm, fun _ _ => trivial⟩

theorem tryCatch {a : Action α} {k : Fault → Action α} (ha : Yields M G a)
    (hk : ∀ e, Yields M G (k e)) : Yields M G (tryCatch a k) := by
  intro m hm
  obtain ⟨hkeeps, hgives⟩ := ha hm
  rw [run_tryCatch]
  rcases hrun : a.run.run m with ⟨e | x, m₁⟩
  · rw [hrun] at hkeeps
    exact hk e hkeeps
  · rw [hrun] at hkeeps hgives
    exact ⟨hkeeps, hgives⟩

end Yields

/-- A change of a part of the machine that the memory does not show. -/
theorem still_modify {f : Machine → Machine} (hf : ∀ m, (f m).memory = m.memory) :
    Still M (modify f : Action Unit) := by
  refine simulates_modify ?_
  rintro m _ ⟨rfl, h⟩
  exact ⟨rfl, (hf m).trans h⟩

/-! ## Evaluation -/

theorem still_record (level : LogLevel) (message : String) : Still M (record level message) :=
  still_modify fun _ => rfl

theorem still_trace (level : Int) (message : String) : Still M (trace level message) := by
  refine simulates_trace ?_ ?_ ?_ level message
  · rintro m _ ⟨rfl, h⟩; rfl
  · rintro m _ ⟨rfl, h⟩; rfl
  · rintro m _ r ⟨rfl, h⟩; exact ⟨rfl, h⟩

theorem memory_cancelTimer (m : Machine) : (cancelTimer m).memory = m.memory := by
  unfold cancelTimer
  split <;> rfl

theorem still_finish (fault : Option Fault) : Still M (finish fault) := by
  refine simulates_finish still_trace ?_ ?_ ?_ ?_ ?_ fault
  · rintro m _ ⟨rfl, h⟩; rfl
  · rintro m _ ⟨rfl, h⟩; rfl
  · rintro m _ ⟨rfl, h⟩; rfl
  · rintro m _ ⟨rfl, h⟩; exact ⟨rfl, (memory_cancelTimer m).trans h⟩
  · rintro m _ c ⟨rfl, h⟩; exact ⟨rfl, h⟩

theorem still_stop : Still M stop := by
  refine simulates_stop (still_finish none) ?_ ?_
  · rintro m _ ⟨rfl, h⟩; rfl
  · rintro m _ ⟨rfl, h⟩; exact ⟨rfl, h⟩

theorem plain_numeral (digits : String) : GivesPlain (numeral digits) := by
  unfold numeral
  split
  · split <;> simp
  · split <;> simp

theorem plain_applyUnary (h : Heap) (op : UnaryOp) (v : Value) :
    GivesPlain (applyUnary h op v) := by
  cases op with
  | not => simp [applyUnary]
  | neg => exact v.plain_neg
  | pos => exact v.plain_pos

theorem plain_applyBinary (h : Heap) (op : BinaryOp) (a b : Value) :
    GivesPlain (applyBinary h op a b) := by
  cases op with
  | or | and => simp [applyBinary]
  | eq | ne | lt | gt | le | ge => exact gives_bind fun _ => by simp
  | add => exact h.plain_add a b
  | sub => exact plain_onNumbers _ a b
  | mul => exact a.plain_mul b
  | div => exact plain_onNumbers _ a b
  | mod => exact h.plain_mod a b
  | pow => exact plain_onNumbers _ a b

/-- What an operation gives is in every store. -/
theorem yields_plain {x : Except Fault Value} (hx : GivesPlain x) :
    Yields M M.Holds (liftM x : Action Value) :=
  .liftM (hx.imp fun _ => Memory.holds_of_isPlain)

theorem yields_getVariable (hM : M.Closed) (name : String) :
    Yields M M.Holds (getVariable name) := by
  refine .get ?_
  rintro m rfl
  exact .pure (hM.holds_var name)

theorem yields_arrayOf (name : String) :
    Yields M (fun ref => M.vars.get? name = some (.array ref)) (arrayOf name) := by
  refine .get ?_
  rintro m rfl
  split
  · next ref hname => exact .pure hname
  · exact .throw _

theorem yields_getElement (hM : M.Closed) (name : String) (index : Value) :
    Yields M M.Holds (getElement name index) := by
  refine .bind (yields_arrayOf name) fun ref _ => ?_
  refine .bind (.liftM (G := fun _ => True) fun _ _ => trivial) fun key _ => .get ?_
  rintro m rfl
  exact .pure (hM.holds_element ref key)

theorem yields_getConstant (hM : M.Closed) (name : String) :
    Yields M M.Holds (getConstant name) := by
  refine .get ?_
  rintro m rfl
  split
  · next v hname => exact .pure (hM.constants v (Table.mem_values_of_get? hname))
  · exact .throw _

theorem yields_needDisplay : Yields M (fun d => M.pixels = some d.pixels) needDisplay := by
  refine .get ?_
  rintro m rfl
  split
  · next d hd => exact .pure (by simp [memory, hd])
  · exact .throw _

theorem yields_colorAt (hM : M.Closed) (x y : Value) : Yields M M.Holds (colorAt x y) := by
  refine .bind yields_needDisplay fun d hd => .liftM ((d.gives_color x y).imp ?_)
  rintro v (hplain | hmem)
  · exact Memory.holds_of_isPlain hplain
  · exact hM.pixels _ hd v hmem

/-- The memory does not depend on the keys that wait to be read. -/
theorem memory_setDisplay {m : Machine} {d : Display} (hd : m.memory.pixels = some d.pixels) :
    { m with display := some d }.memory = m.memory :=
  congrArg (fun pixels => { m.memory with pixels := pixels }) hd.symm

theorem pixels_readKey (d : Display) : d.readKey.2.pixels = d.pixels := by
  unfold Display.readKey
  split <;> rfl

/-- Reading a key changes the queue of keys, but not the points. -/
theorem yields_readKey : Yields M M.Holds readKey := by
  refine .bind yields_needDisplay fun d hd => .bind (.modify ?_) fun _ _ => ?_
  · rintro m rfl
    exact memory_setDisplay (hd.trans (congrArg some (pixels_readKey d).symm))
  · exact .pure (Memory.holds_of_isPlain (Value.isPlain_text _))

theorem memory_setDice (m : Machine) (d : Dice) : { m with dice := d }.memory = m.memory := rfl

theorem yields_rollDice : Yields M (fun _ => True) rollDice := by
  refine .bind (.modify fun m h => ?_) fun _ _ => .get fun m _ => .pure trivial
  exact (memory_setDice m _).trans h

theorem yields_applyFunction (hM : M.Closed) (f : Function) {args : List Value}
    (hargs : ∀ v ∈ args, M.Holds v) : Yields M M.Holds (applyFunction f args) := by
  unfold applyFunction
  split
  next f =>
    have hrest (roll : Nat) : Yields M M.Holds (do liftM (f.apply (← get).heap roll args)) := by
      refine .get ?_
      rintro m rfl
      exact .liftM (f.within_apply hM.heap roll hargs)
    dsimp only
    split
    · exact .bind yields_rollDice fun roll _ => hrest roll
    · exact .bind (.pure (G := fun _ => True) trivial) fun roll _ => hrest roll
  next v => exact yields_plain (v.plain_mul _)
  next => exact .bind (.of_still still_stop) fun _ _ => .pure (Memory.holds_of_isPlain (by simp))
  next => exact .throw _

theorem yields_callFunction (hM : M.Closed) (name : String) {args : List Value}
    (hargs : ∀ v ∈ args, M.Holds v) : Yields M M.Holds (callFunction name args) := by
  unfold callFunction
  dsimp only
  split
  · split
    · exact yields_colorAt hM _ _
    · exact .throw _
  · split
    · split
      · exact yields_readKey
      · exact .throw _
    · refine .get fun m _ => ?_
      split
      · exact yields_applyFunction hM _ hargs
      · exact .throw _

mutual

theorem yields_evalExpr (hM : M.Closed) : ∀ e : Expr, Yields M M.Holds (evalExpr e)
  | .number digits => by
      rw [evalExpr]
      exact yields_plain (plain_numeral digits)
  | .literal quoted => by
      rw [evalExpr]
      refine .bind (.liftM (G := fun _ => True) fun _ _ => trivial) fun s _ => ?_
      exact .pure (Memory.holds_of_isPlain (Value.isPlain_text s))
  | .var name => by
      rw [evalExpr]
      exact yields_getVariable hM name
  | .element name index => by
      rw [evalExpr]
      exact .bind (yields_evalExpr hM index) fun v _ => yields_getElement hM name v
  | .constant name => by
      rw [evalExpr]
      exact yields_getConstant hM name
  | .call name args => by
      rw [evalExpr]
      exact .bind (yields_evalAll hM args) fun vs hvs => yields_callFunction hM name hvs
  | .unary op operand => by
      rw [evalExpr]
      refine .bind (yields_evalExpr hM operand) fun v _ => .get fun m _ => ?_
      exact yields_plain (plain_applyUnary _ op v)
  | .binary op left right => by
      rw [evalExpr]
      refine .bind (yields_evalExpr hM left) fun a _ => ?_
      refine .bind (yields_evalExpr hM right) fun b _ => .get fun m _ => ?_
      exact yields_plain (plain_applyBinary _ op a b)

theorem yields_evalAll (hM : M.Closed) :
    ∀ es : List Expr, Yields M (∀ v ∈ ·, M.Holds v) (evalAll es)
  | [] => by
      rw [evalAll]
      exact .pure nofun
  | e :: rest => by
      rw [evalAll]
      refine .bind (yields_evalExpr hM e) fun v hv => ?_
      refine .bind (yields_evalAll hM rest) fun vs hvs => ?_
      exact .pure (List.forall_mem_cons.mpr ⟨hv, hvs⟩)

end

/-- The value of an expression is in the store. -/
theorem yields_evaluate (hM : M.Closed) (f : Formula) : Yields M M.Holds (evaluate f) := by
  refine .tryCatch (yields_evalExpr hM f.tree) fun fault => ?_
  exact .bind (.of_still (still_record _ _)) fun _ _ => .throw fault

/-! ## Commands -/

/-- An action leaves a memory with a property behind, whether it succeeds or fails. -/
def Leaves (M : Memory) (Q : Memory → Prop) (a : Action α) : Prop :=
  ∀ ⦃m : Machine⦄, m.memory = M → Q (a.run.run m).2.memory

namespace Leaves

theorem of_still {a : Action α} (h : Still M a) (hQ : Q M) : Leaves M Q a := by
  intro m hm
  have hkeeps : (a.run.run m).2.memory = M := h.keeps hm
  rw [hkeeps]
  exact hQ

/-- What comes first leaves the memory alone, and may fail. -/
theorem bind {a : Action α} {k : α → Action β} (ha : Yields M G a) (hQ : Q M)
    (hk : ∀ x, G x → Leaves M Q (k x)) : Leaves M Q (a >>= k) := by
  intro m hm
  obtain ⟨hkeeps, hgives⟩ := ha hm
  rw [run_bind]
  rcases hrun : a.run.run m with ⟨e | x, m₁⟩
  · rw [hrun] at hkeeps
    dsimp only at hkeeps ⊢
    rw [hkeeps]
    exact hQ
  · rw [hrun] at hkeeps hgives
    exact hk x (hgives x rfl) hkeeps

/-- What comes last leaves the memory alone. -/
theorem andThen {a : Action α} {k : α → Action β} (ha : Leaves M Q a)
    (hk : ∀ x M₁, Still M₁ (k x)) : Leaves M Q (a >>= k) := by
  intro m hm
  have hfirst := ha hm
  rw [run_bind]
  rcases hrun : a.run.run m with ⟨e | x, m₁⟩
  · rw [hrun] at hfirst
    exact hfirst
  · rw [hrun] at hfirst
    have hkeeps : ((k x).run.run m₁).2.memory = m₁.memory := (hk x m₁.memory).keeps rfl
    dsimp only at hfirst ⊢
    rw [hkeeps]
    exact hfirst

theorem get {k : Machine → Action α} (hk : ∀ m, m.memory = M → Leaves M Q (k m)) :
    Leaves M Q (MonadState.get >>= k) :=
  fun m hm => hk m hm hm

theorem modify (M₁ : Memory) {f : Machine → Machine} {k : Unit → Action α}
    (hf : ∀ m, m.memory = M → (f m).memory = M₁) (hk : Leaves M₁ Q (k ())) :
    Leaves M Q (modify f >>= k) :=
  fun _ hm => hk (hf _ hm)

end Leaves

theorem leaves_setVariable {name : String} {v : Value} (hQ : Q (M.assign name v)) :
    Leaves M Q (setVariable name v) := by
  rintro m rfl
  exact hQ

theorem leaves_declareArray {name : String} (hQ : Q (M.declare name)) :
    Leaves M Q (declareArray name) := by
  rintro m rfl
  exact hQ

theorem leaves_setElement {name : String} {index v : Value} (hstill : Q M)
    (hwrite : ∀ ref key, M.vars.get? name = some (.array ref) → key.IsPlain →
      Q (M.write ref key v)) : Leaves M Q (setElement name index v) := by
  refine .bind (yields_arrayOf name) hstill fun ref href => ?_
  refine .bind (.liftM fun _ => Value.isPlain_of_asKey) hstill fun key hkey => ?_
  rintro m rfl
  exact hwrite ref key href hkey

theorem yields_itemTexts (hM : M.Closed) (items : List PrintItem) :
    Yields M (fun _ => True) (itemTexts items) := by
  induction items with
  | nil => exact .pure trivial
  | cons item rest ih =>
      refine .bind (yields_evaluate hM item.formula) fun v _ => .get fun m _ => ?_
      refine .bind (.liftM (G := fun _ => True) fun _ _ => trivial) fun text _ => ?_
      exact .bind ih fun _ _ => .pure trivial

theorem still_jumpTo (line : Int) : Still M (jumpTo line) := by
  unfold jumpTo
  split
  · exact simulates_throw _
  · refine simulates_bind (still_trace _ _) fun _ => ?_
    exact still_modify fun _ => rfl

theorem still_callLine (line : Int) : Still M (callLine line) :=
  simulates_bind (still_modify fun _ => rfl) fun _ =>
    still_jumpTo line

theorem still_returnFromCall : Still M returnFromCall := by
  refine simulates_get ?_
  rintro m _ ⟨rfl, h⟩
  split
  · exact simulates_throw _
  · exact simulates_bind (still_modify fun _ => rfl) fun _ => still_jumpTo _

theorem still_pauseFor (millis : Value) : Still M (pauseFor millis) := by
  refine simulates_pauseFor ?_ still_trace ?_ millis
  · rintro m _ ⟨rfl, h⟩; rfl
  · rintro m _ d ⟨rfl, h⟩; exact ⟨rfl, h⟩

theorem leaves_startLoop {name : String} {value increment bound : Value} (hstill : Q M)
    (hlast : Q (M.assign name value))
    (henter : ∀ loop : Loop, loop.name = name → Q ((M.assign name value).enter name loop)) :
    Leaves M Q (startLoop name value increment bound) := by
  have hrest : Leaves M Q (openLoop name value increment bound) := by
    refine .modify (M.assign name value) ?_ (.get ?_)
    · rintro m rfl
      rfl
    · intro m hm
      split
      · exact .of_still (still_finish none) hlast
      · next line _ =>
        rintro m₁ -
        have hentered := henter ⟨name, value, increment, bound, line.number⟩ rfl
        rw [← hm] at hentered
        exact hentered
  rw [startLoop_eq]
  refine .bind (.of_still (still_trace _ _)) hstill fun _ _ => .get fun m _ => ?_
  refine .bind (.liftM (G := fun _ => True) fun _ _ => trivial) hstill fun zero _ => ?_
  split
  · exact .bind (.throw (G := fun _ => False) _) hstill fun _ hfalse => hfalse.elim
  · exact hrest

theorem leaves_advanceLoop {name : String} (hstill : Q M)
    (hnext : ∀ loop v, M.loops.get? name = some loop → v.IsPlain →
      Q ((M.enter name { loop with value := v }).assign loop.name v)) :
    Leaves M Q (advanceLoop name) := by
  refine .bind (.of_still (still_trace _ _)) hstill fun _ _ => .get ?_
  rintro m rfl
  split
  · exact .of_still (simulates_throw _) hstill
  · next loop hloop =>
    refine .bind (.liftM (loop.value.plain_plus loop.increment)) hstill fun v hv => ?_
    refine .modify (m.memory.enter name { loop with value := v }) (fun m₁ hm₁ => ?_) ?_
    · rw [← hm₁]
      rfl
    · refine .andThen (leaves_setVariable (hnext loop v hloop hv)) fun _ M₁ => ?_
      refine simulates_bind (simulates_liftM _) fun done => ?_
      split
      · exact simulates_pure _
      · exact still_jumpTo _

theorem leaves_receive {name : String} {reply : Reply} (hstill : Q M)
    (hreply : ∀ v, replyValue name reply = .ok v → Q (M.assign name v)) :
    Leaves M Q (receive name reply) := by
  refine .get fun m _ => ?_
  split
  · exact .of_still (simulates_pure _) hstill
  · cases hvalue : replyValue name reply with
    | error fault =>
        exact .of_still (simulates_bind (still_finish _) fun _ => simulates_pure _) hstill
    | ok v =>
        refine .andThen (leaves_setVariable (hreply v hvalue)) fun _ M₁ => ?_
        exact simulates_bind (still_modify fun _ => rfl) fun _ => simulates_pure _

theorem leaves_ask {name : String} (hstill : Q M)
    (hreply : ∀ v : Value, v.IsPlain → Q (M.assign name v)) : Leaves M Q (ask name) := by
  rw [ask_eq]
  refine .modify M (fun m h => h) (.get fun m hm => ?_)
  refine .bind (.of_still (simulates_set ⟨rfl, hm⟩)) hstill fun _ _ => ?_
  split
  · next reply _ =>
    exact leaves_receive hstill fun v hv => hreply v (plain_replyValue name reply v hv)
  · exact .of_still (simulates_pure _) hstill

theorem leaves_plot {x y color : Value} (hstill : Q M)
    (hplot : ∀ pixels point, M.pixels = some pixels → Q (M.paint (pixels.insert point color))) :
    Leaves M Q (plot x y color) := by
  refine .bind yields_needDisplay hstill fun d hd => ?_
  unfold Display.plot
  cases hpoint : Display.point x y with
  | error fault => exact .of_still (simulates_throw _) hstill
  | ok point =>
      rintro m rfl
      exact hplot d.pixels point hd

theorem leaves_clearDisplay (hstill : Q M) (hclear : Q (M.paint .empty)) :
    Leaves M Q clearDisplay := by
  refine .bind yields_needDisplay hstill fun d hd => ?_
  rintro m rfl
  exact hclear

/-- Every command does to the memory what `Stores` says, whether it succeeds or fails. -/
theorem leaves_performCommand (hM : M.Closed) (c : Command) :
    Leaves M (Stores M c) (performCommand c) := by
  have hstill := Stores.still (M := M) c
  have hquiet (x : Unit) (M₁ : Memory) : Still M₁ (return .quiet : Action Reaction) :=
    simulates_pure _
  have hwrite (text : String) : Still M (write text) :=
    still_modify fun _ => rfl
  have hclear : Still M clearConsole :=
    still_modify fun _ => rfl
  have hthen {a : Action Unit} (ha : Still M a) :
      Leaves M (Stores M c) (do a; return .quiet : Action Reaction) :=
    .of_still (simulates_bind ha fun _ => simulates_pure _) hstill
  cases c with
  | print items =>
      refine .bind (yields_itemTexts hM items) hstill fun text _ => ?_
      exact hthen (hwrite _)
  | assign name index value =>
      cases index with
      | none =>
          refine .bind (yields_evaluate hM value) hstill fun v hv => ?_
          exact .andThen (leaves_setVariable (.assign hv)) hquiet
      | some index =>
          refine .bind (yields_evaluate hM value) hstill fun v hv => ?_
          refine .bind (yields_evaluate hM index) hstill fun i _ => ?_
          exact .andThen (leaves_setElement hstill fun ref key href hkey => .element href hkey hv)
            hquiet
  | remark text => exact .of_still (simulates_pure _) hstill
  | jump target => exact hthen (still_jumpTo _)
  | call target => exact hthen (still_callLine _)
  | comeBack => exact hthen still_returnFromCall
  | halt => exact hthen (still_modify fun _ => rfl)
  | loop name start stop step =>
      refine .bind (yields_evaluate hM start) hstill fun value hvalue => ?_
      refine .bind (yields_evaluate hM step) hstill fun increment _ => ?_
      refine .bind (yields_evaluate hM stop) hstill fun bound _ => ?_
      exact .andThen (leaves_startLoop hstill (.loopLast hvalue) fun l hl => .loop hvalue hl) hquiet
  | next name =>
      exact .andThen (leaves_advanceLoop hstill fun l v hl hv => .next hl hv) hquiet
  | pause millis =>
      refine .bind (yields_evaluate hM millis) hstill fun v _ => ?_
      exact hthen (still_pauseFor v)
  | input prompt name =>
      have hask : Leaves M (Stores M (.input prompt name)) (ask name) :=
        leaves_ask hstill fun v hv => .input hv
      cases prompt with
      | none => exact hask
      | some text => exact .bind (.of_still (hwrite text)) hstill fun _ _ => hask
  | array name => exact .andThen (leaves_declareArray (.array name)) hquiet
  | plot x y color =>
      refine .bind (yields_evaluate hM x) hstill fun vx _ => ?_
      refine .bind (yields_evaluate hM y) hstill fun vy _ => ?_
      refine .bind (yields_evaluate hM color) hstill fun v hv => ?_
      exact .andThen (leaves_plot hstill fun pixels point hp => .plot hp point hv) hquiet
  | clearAll =>
      refine .bind (.of_still hclear) hstill fun _ _ => ?_
      exact .andThen (leaves_clearDisplay hstill .clearAll) hquiet
  | clearConsole => exact hthen hclear
  | clearDisplay => exact .andThen (leaves_clearDisplay hstill .clearDisplay) hquiet

end Machine

end LineBasic

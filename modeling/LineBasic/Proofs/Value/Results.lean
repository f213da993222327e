import LineBasic.Builtin
import LineBasic.Console
import LineBasic.Display
import LineBasic.Proofs.Computation
import LineBasic.Proofs.Value.Arrays

/-!
# What operations give

No operation makes an array. Arithmetic, text functions and comparisons give numbers and texts;
`MIN` and `MAX` give one of the values that they choose from, and the colour of a point is one that
was plotted. So operations on values of a closed store give values of that store.
-/

namespace LineBasic

abbrev GivesPlain (x : Except Fault Value) : Prop := Gives Value.IsPlain x

/-! ## Operators -/

theorem plain_onNumbers (op : Number → Number → Except Fault Number) (a b : Value) :
    GivesPlain (onNumbers op a b) := by
  unfold onNumbers
  split
  · exact gives_bind fun x => by simp
  · simp

theorem plain_repeatText (s : String) (n : Int) : GivesPlain (repeatText s n) := by
  unfold repeatText
  split
  · simp
  · split <;> simp

namespace Value

@[simp] theorem isPlain_flag (b : Bool) : (flag b).IsPlain := isPlain_number _

theorem plain_plus (a b : Value) : GivesPlain (a.plus b) := by
  unfold plus
  split
  · simp
  · exact plain_onNumbers _ a b

theorem plain_mul (a b : Value) : GivesPlain (a.mul b) := by
  unfold mul
  split
  · split
    · exact plain_repeatText _ _
    · simp
  · split
    · exact plain_repeatText _ _
    · simp
  · exact plain_onNumbers _ _ _

theorem plain_neg (a : Value) : GivesPlain a.neg := by
  unfold neg
  split <;> simp

theorem plain_pos (a : Value) : GivesPlain a.pos := by
  unfold pos
  split <;> simp

end Value

namespace Heap

variable (h : Heap)

theorem plain_joinShown (a b : Value) : GivesPlain (h.joinShown a b) :=
  gives_bind fun s => gives_bind fun t => by simp

theorem plain_add (a b : Value) : GivesPlain (h.add a b) := by
  unfold add
  split
  · exact h.plain_joinShown _ _
  · exact h.plain_joinShown _ _
  · exact plain_onNumbers _ _ _

theorem plain_mod (a b : Value) : GivesPlain (h.mod a b) := by
  unfold mod
  split
  · exact gives_bind fun s => by simp
  · exact plain_onNumbers _ _ _

end Heap

/-! ## Functions -/

namespace Builtin

theorem plain_onNumber (f : Number → Except Fault Number) (v : Value) :
    GivesPlain (onNumber f v) :=
  gives_bind fun x => gives_bind fun y => by simp

theorem plain_roundValue (v places : Value) : GivesPlain (roundValue v places) := by
  unfold roundValue
  split
  · exact plain_onNumber _ v
  · refine gives_bind fun x => ?_
    split
    · exact gives_bind fun y => by simp
    · simp

theorem plain_drawBelow (roll : Nat) (v : Value) : GivesPlain (drawBelow roll v) := by
  refine gives_bind fun n => ?_
  split <;> simp

theorem plain_valueOf (h : Heap) (v : Value) : GivesPlain (valueOf h v) := by
  refine gives_bind fun s => ?_
  split <;> simp

theorem plain_leftPart (h : Heap) (v n : Value) : GivesPlain (leftPart h v n) :=
  gives_bind fun s => gives_bind fun n => by simp

theorem plain_rightPart (h : Heap) (v n : Value) : GivesPlain (rightPart h v n) := by
  refine gives_bind fun n => ?_
  split
  · exact gives_bind fun s => by simp
  · simp

theorem plain_middlePart (v start length : Value) : GivesPlain (middlePart v start length) := by
  refine gives_bind fun first => ?_
  dsimp only
  split
  · refine gives_bind fun stop => ?_
    split <;> simp
  · refine gives_bind fun n => gives_bind fun stop => ?_
    split <;> simp

theorem plain_charOf (v : Value) : GivesPlain (charOf v) := by
  refine gives_bind fun n => ?_
  split
  · simp
  · split
    · simp
    · split <;> simp

theorem plain_codeOf (h : Heap) (v : Value) : GivesPlain (codeOf h v) := by
  refine gives_bind fun s => ?_
  split <;> simp

/-- The best of some values is one of them. -/
theorem gives_best (beats : Value → Value → Except Fault Bool) (values : List Value) :
    Gives (· ∈ values) (best beats values) := by
  cases values with
  | nil => exact gives_error _
  | cons first others =>
      refine gives_foldlM List.mem_cons_self fun winner hwinner v hv => ?_
      refine gives_bind fun wins => gives_pure.mpr ?_
      split
      · exact List.mem_cons_of_mem _ hv
      · exact hwinner

/-- A single argument offers characters or subscripts, which are no arrays. -/
theorem gives_choices {h : Heap} (hclosed : h.Closed) (v : Value) :
    Gives (∀ u ∈ ·, u.IsPlain) (choices h v) := by
  unfold choices
  split
  · simp
  · exact gives_ok.mpr (hclosed.keys _)
  · simp

theorem within_bestOf {h : Heap} (hclosed : h.Closed) (beats : Value → Value → Except Fault Bool)
    {args : List Value} (hargs : ∀ v ∈ args, v.Within h.arrays.size) :
    Gives (Value.Within h.arrays.size) (bestOf beats h args) := by
  unfold bestOf
  split
  · exact gives_error _
  · next v =>
    refine (gives_choices hclosed v).bind fun values hvalues => ?_
    exact (gives_best beats values).imp fun u hu => (hvalues u hu).within _
  · exact (gives_best beats _).imp hargs

variable {h : Heap} {args : List Value}

/-- A function applied to values of a closed store gives a value of that store. -/
theorem within_apply (hclosed : h.Closed) (roll : Nat) (f : Builtin)
    (hargs : ∀ v ∈ args, v.Within h.arrays.size) :
    Gives (Value.Within h.arrays.size) (apply h roll f args) := by
  have hplain {x : Except Fault Value} (hx : GivesPlain x) : Gives (Value.Within h.arrays.size) x :=
    hx.imp fun _ hv => hv.within _
  -- one case for each function, in the order of `apply`
  unfold apply
  split
  · exact hplain (plain_onNumber _ _)
  · exact hplain (plain_onNumber _ _)
  · exact hplain (plain_onNumber _ _)
  · exact hplain (plain_onNumber _ _)
  · exact hplain (plain_onNumber _ _)
  · exact hplain (plain_onNumber _ _)
  · exact hplain (plain_onNumber _ _)
  · exact hplain (plain_onNumber _ _)
  · refine hplain (gives_bind fun _ => gives_bind fun x => gives_bind fun _ => gives_bind fun y => ?_)
    split <;> simp
  · exact hplain (plain_onNumber _ _)
  · exact hplain (plain_roundValue _ _)
  · exact hplain (plain_roundValue _ _)
  · exact hplain (plain_onNumber _ _)
  · exact hplain (gives_ok.mpr (Value.isPlain_number _))
  · exact hplain (plain_drawBelow roll _)
  · exact within_bestOf hclosed _ hargs
  · exact within_bestOf hclosed _ hargs
  · exact hplain (gives_bind fun s => by simp)
  · exact hplain (gives_bind fun s => by simp)
  · exact hplain (plain_valueOf h _)
  · exact hplain (gives_bind fun s => by simp)
  · exact hplain (gives_bind fun s => by simp)
  · exact hplain (plain_leftPart h _ _)
  · exact hplain (plain_rightPart h _ _)
  · exact hplain (plain_middlePart _ _ _)
  · exact hplain (plain_middlePart _ _ _)
  · exact hplain (plain_charOf _)
  · exact hplain (plain_codeOf h _)
  · exact gives_error _

end Builtin

/-! ## Points and replies -/

/-- The colour of a point is one that was plotted, or zero. -/
theorem Display.gives_color (d : Display) (x y : Value) :
    Gives (fun v => v.IsPlain ∨ v ∈ d.pixels.values) (d.color x y) := by
  refine gives_bind fun p => gives_pure.mpr ?_
  cases hp : d.pixels.get? p with
  | none => exact .inl (Value.isPlain_number _)
  | some v => exact .inr (Table.mem_values_of_get? hp)

theorem plain_replyValue (name : String) (reply : Reply) : GivesPlain (replyValue name reply) := by
  unfold replyValue
  split
  · simp
  · simp
  · simp
  · split <;> simp

end LineBasic

import LineBasic.Builtin
import LineBasic.Display
import LineBasic.Grammar.StatementParser
import LineBasic.Proofs.Computation

/-!
# Faults of operations

The operations on numbers, texts and values know nothing of programs: a fault that they raise is
primitive, which is to say that it is neither a fault of the language nor one of the machine.

A statement also raises faults of the language, but without the line that they belong to, which the
machine adds when the fault ends a run. Such faults and primitive ones are bare.
-/

namespace LineBasic

/-- Whether a fault is one that operations on values raise. -/
def Fault.isPrimitive : Fault → Bool
  | .divisionByZero | .wrongType | .badValue | .tooLarge | .emptyText | .absent | .endless => true
  | _ => false

@[simp] theorem Fault.isPrimitive_kinds :
    divisionByZero.isPrimitive = true ∧ wrongType.isPrimitive = true ∧
      badValue.isPrimitive = true ∧ tooLarge.isPrimitive = true ∧ emptyText.isPrimitive = true ∧
      absent.isPrimitive = true ∧ endless.isPrimitive = true := by
  simp [isPrimitive]

abbrev Primitive {α : Type} (x : Except Fault α) : Prop := Raises (fun e => e.isPrimitive = true) x

namespace Number

theorem primitive_widen (n : Int) : Primitive (widen n) := by
  unfold widen
  split <;> simp

theorem primitive_pair (a b : Number) : Primitive (pair a b) := by
  cases a <;> cases b <;> simp only [pair, raises_ok] <;>
    exact (primitive_widen _).bind fun _ => raises_pure _

theorem primitive_text (a : Number) : Primitive a.text := by
  unfold text
  split
  · split <;> simp
  · simp
  · simp

theorem primitive_displayText (a : Number) : Primitive a.displayText := by
  unfold displayText
  split
  · split <;> exact primitive_text _
  · exact primitive_text _

theorem primitive_order (a b : Number) : Primitive (order a b) := by
  unfold order
  split <;> simp

theorem primitive_add (a b : Number) : Primitive (add a b) := by
  refine (primitive_pair a b).bind fun p => ?_
  cases p <;> simp

theorem primitive_sub (a b : Number) : Primitive (sub a b) := by
  refine (primitive_pair a b).bind fun p => ?_
  cases p <;> simp

theorem primitive_mul (a b : Number) : Primitive (mul a b) := by
  refine (primitive_pair a b).bind fun p => ?_
  cases p <;> simp

theorem primitive_div (a b : Number) : Primitive (div a b) := by
  refine (primitive_pair a b).bind fun p => ?_
  cases p with
  | ints m n =>
      dsimp only
      split
      · simp
      · split <;> simp
  | reals x y =>
      dsimp only
      split <;> simp
  | complexes re im re' im' =>
      dsimp only
      split <;> simp

theorem primitive_mod (a b : Number) : Primitive (mod a b) := by
  unfold mod
  split
  · simp
  · simp
  · refine (primitive_pair a b).bind fun p => ?_
    cases p with
    | ints m n =>
        dsimp only
        split <;> simp
    | reals x y =>
        dsimp only
        split <;> simp
    | complexes re im re' im' => simp

theorem primitive_abs (a : Number) : Primitive (abs a) := by
  unfold abs
  split
  · simp
  · simp
  · split <;> simp

theorem primitive_toReal (a : Number) : Primitive (toReal a) := by
  cases a with
  | int n => exact primitive_widen n
  | real x => simp [toReal]
  | complex re im => simp [toReal]

theorem primitive_applyReal (f : Float → Float) {infinite : Fault} (h : infinite.isPrimitive = true)
    (a : Number) : Primitive (applyReal f infinite a) := by
  refine (primitive_toReal a).bind fun x => ?_
  dsimp only
  split
  · simp
  · split <;> simp [h]

theorem primitive_log (a : Number) : Primitive (log a) := by
  unfold log
  split
  · split <;> simp
  · split <;> simp
  · simp

theorem primitive_sign (a : Number) : Primitive (sign a) := by
  cases a <;> simp [sign]

theorem isPrimitive_notFinite (x : Float) : (notFinite x).isPrimitive = true := by
  unfold notFinite
  split <;> rfl

theorem primitive_floor (a : Number) : Primitive (floor a) := by
  unfold floor
  split
  · simp
  · split <;> simp [isPrimitive_notFinite]
  · simp

theorem primitive_truncate (a : Number) : Primitive (truncate a) := by
  unfold truncate
  split
  · simp
  · split <;> simp [isPrimitive_notFinite]
  · simp

theorem primitive_round (a : Number) : Primitive (round a) := by
  unfold round
  split
  · simp
  · split <;> simp [isPrimitive_notFinite]
  · simp

theorem primitive_roundTo (a : Number) (places : Int) : Primitive (roundTo a places) := by
  unfold roundTo
  split
  · simp
  · split <;> simp
  · simp

theorem primitive_complexPowPolar (re im re' im' : Float) :
    Primitive (complexPowPolar re im re' im') := by
  unfold complexPowPolar
  dsimp only
  split
  · simp
  · split
    · split <;> simp
    · split <;> split <;> simp

theorem primitive_complexPow (re im re' im' : Float) : Primitive (complexPow re im re' im') := by
  unfold complexPow
  have hlast : ∀ p : Float × Float,
      Primitive (if p.1.isInf || p.2.isInf then throw .tooLarge else pure (.complex p.1 p.2) :
        Except Fault Number) := by
    intro p
    split <;> simp
  dsimp only
  split
  · split
    · exact (raises_pure _).bind hlast
    · split
      · exact (raises_pure _).bind hlast
      · exact Raises.bind (raises_throw.mpr rfl) hlast
  · exact (primitive_complexPowPolar re im re' im').bind hlast

theorem primitive_realPow (x y : Float) : Primitive (realPow x y) := by
  unfold realPow
  dsimp only
  refine raises_ite (raises_ok _) (raises_ite (raises_ok _) (raises_ite (raises_ok _) ?_))
  refine raises_ite (raises_ite (raises_ok _) (raises_ite (raises_ok _) (raises_ok _))) ?_
  refine raises_ite (raises_ite (raises_ok _) (raises_ok _)) ?_
  refine raises_ite (raises_ite (raises_error.mpr rfl) (raises_ok _)) ?_
  refine raises_ite (primitive_complexPow x 0 y 0) ?_
  exact raises_ite (raises_error.mpr rfl) (raises_ok _)

theorem primitive_pow (a b : Number) : Primitive (pow a b) := by
  have hwiden : ∀ m n : Int, Primitive (do realPow (← widen m) (← widen n) : Except Fault Number) :=
    fun m n =>
      (primitive_widen m).bind fun _ => (primitive_widen n).bind fun _ => primitive_realPow _ _
  unfold pow
  split
  · split
    · simp
    · exact hwiden _ _
  · refine (primitive_pair a b).bind fun p => ?_
    cases p with
    | ints m n => exact hwiden m n
    | reals x y => exact primitive_realPow x y
    | complexes re im re' im' => exact primitive_complexPow re im re' im'

end Number

namespace Heap

theorem primitive_displayWithin (h : Heap) (depth : Nat) (v : Value) :
    Primitive (h.displayWithin depth v) := by
  induction depth generalizing v with
  | zero =>
      cases v with
      | number x => exact x.primitive_displayText
      | _ => simp [displayWithin]
  | succ depth ih =>
      cases v with
      | number x => exact x.primitive_displayText
      | array r => exact (raises_mapM ih _).bind fun _ => raises_pure _
      | _ => simp [displayWithin]

theorem primitive_displayText (h : Heap) (v : Value) : Primitive (h.displayText v) :=
  h.primitive_displayWithin _ v

theorem primitive_plainText (h : Heap) (v : Value) : Primitive (h.plainText v) := by
  cases v with
  | number x => exact x.primitive_text
  | truth b => simp [plainText]
  | _ => exact h.primitive_displayText _

theorem primitive_quotedWithin (h : Heap) (depth : Nat) (above : List Nat) (v : Value) :
    Primitive (h.quotedWithin depth above v) := by
  induction depth generalizing above v with
  | zero => cases v <;> simp [quotedWithin, primitive_plainText]
  | succ depth ih =>
      cases v with
      | array r =>
          rw [quotedWithin]
          split
          · simp
          · refine (raises_mapM (fun entry => ?_) _).bind fun _ => raises_pure _
            exact (ih _ _).bind fun _ => (ih _ _).bind fun _ => raises_pure _
      | _ => simp [quotedWithin, primitive_plainText]

theorem primitive_quotedText (h : Heap) (v : Value) : Primitive (h.quotedText v) :=
  h.primitive_quotedWithin _ _ v

theorem primitive_equalWithin (h : Heap) (depth : Nat) (a b : Value) :
    Primitive (h.equalWithin depth a b) := by
  induction depth generalizing a b with
  | zero =>
      unfold equalWithin
      split
      · split <;> simp
      · contradiction
      · simp
      · simp
      · split <;> simp
  | succ depth ih =>
      unfold equalWithin
      split
      · contradiction
      · next depth' r r' hdepth =>
        cases hdepth
        split
        · simp
        · split
          · simp
          · refine raises_allM (fun entry => ?_) _
            dsimp only
            split
            · simp
            · split
              · simp
              · exact ih _ _
      · simp
      · simp
      · split <;> simp

theorem primitive_equal (h : Heap) (a b : Value) : Primitive (h.equal a b) :=
  h.primitive_equalWithin _ a b

end Heap

namespace Value

theorem primitive_order (a b : Value) : Primitive (a.order b) := by
  unfold order
  split
  · simp
  · split
    · exact Number.primitive_order _ _
    · simp

theorem primitive_less (a b : Value) : Primitive (a.less b) :=
  (primitive_order a b).bind fun _ => raises_pure _

theorem primitive_greater (a b : Value) : Primitive (a.greater b) :=
  (primitive_order a b).bind fun _ => raises_pure _

theorem primitive_lessEq (a b : Value) : Primitive (a.lessEq b) :=
  (primitive_order a b).bind fun _ => raises_pure _

theorem primitive_greaterEq (a b : Value) : Primitive (a.greaterEq b) :=
  (primitive_order a b).bind fun _ => raises_pure _

theorem primitive_asKey (v : Value) : Primitive v.asKey := by
  cases v <;> simp [asKey]

theorem primitive_toInt (v : Value) : Primitive v.toInt := by
  unfold toInt
  split
  · split <;> simp
  · split
    · exact Number.primitive_truncate _
    · simp

end Value

theorem primitive_onNumbers {op : Number → Number → Except Fault Number}
    (h : ∀ x y, Primitive (op x y)) (a b : Value) : Primitive (onNumbers op a b) := by
  unfold onNumbers
  split
  · exact (h _ _).bind fun _ => raises_pure _
  · simp

theorem primitive_repeatText (s : String) (n : Int) : Primitive (repeatText s n) := by
  unfold repeatText
  split
  · simp
  · split <;> simp

namespace Template

theorem primitive_take (s : Supply) : Primitive s.take := by
  unfold Supply.take
  split <;> simp

theorem primitive_takeSize (s : Supply) (limit : Nat) : Primitive (s.takeSize limit) := by
  refine (primitive_take s).bind fun taken => ?_
  dsimp only
  split
  · split <;> simp
  · simp

theorem primitive_readSize (limit : Nat) (s : Supply) (cs : List Char) :
    Primitive (readSize limit s cs) := by
  unfold readSize
  split
  · simp
  · split
    · exact (primitive_takeSize s limit).bind fun _ => raises_pure _
    · split
      · dsimp only
        split <;> simp
      · simp

theorem primitive_readPlace (s : Supply) (cs : List Char) : Primitive (readPlace s cs) := by
  refine (primitive_readSize widthLimit s _).bind fun read => ?_
  dsimp only
  split
  · exact (primitive_readSize precisionLimit _ _).bind fun _ => raises_pure _
  · simp

section Place

variable (p : Place)

theorem primitive_fillInt (n : Int) (mark : List Char) (digits? : Option (List Char)) :
    Primitive (p.fillInt n mark digits?) := by
  unfold Place.fillInt
  split
  · simp
  · split <;> simp

theorem primitive_fillDecimal (v : Value) : Primitive (p.fillDecimal v) := by
  unfold Place.fillDecimal
  split
  · exact (Number.primitive_truncate _).bind fun _ => primitive_fillInt p _ _ _
  · simp

theorem primitive_fillBase (base : Nat) (letter : Char) (v : Value) :
    Primitive (p.fillBase base letter v) := by
  unfold Place.fillBase
  split
  · exact primitive_fillInt p _ _ _
  · simp

theorem primitive_fillReal (style : Decimal.Style) (letter : Char) (v : Value) :
    Primitive (p.fillReal style letter v) := by
  unfold Place.fillReal
  split
  · exact (Number.primitive_toReal _).bind fun _ => raises_pure _
  · simp

theorem primitive_charOf (v : Value) : Primitive (charOf v) := by
  unfold charOf
  split
  · split <;> simp
  · split
    · split <;> simp
    · simp

theorem primitive_fill_place (h : Heap) (letter : Char) (v : Value) :
    Primitive (p.fill h letter v) := by
  unfold Place.fill
  cases Conversion.ofLetter? letter with
  | none => simp
  | some conversion =>
      cases conversion with
      | text => exact (h.primitive_plainText v).bind fun _ => raises_pure _
      | quoted | ascii => exact (h.primitive_quotedText v).bind fun _ => raises_pure _
      | decimal => exact primitive_fillDecimal p v
      | base n => exact primitive_fillBase p n letter v
      | real style => exact primitive_fillReal p style letter v
      | character => exact (primitive_charOf v).bind fun _ => raises_pure _

end Place

theorem primitive_readElement (h : Heap) (whole : Value) (s : Supply) (cs : List Char) :
    Primitive (readElement h whole s cs) := by
  unfold readElement
  split
  · unfold takeElement
    split
    · split
      · simp
      · split <;> simp
    · simp
  · simp

theorem primitive_fillPlace (h : Heap) (whole : Value) (s : Supply) (cs : List Char) :
    Primitive (fillPlace h whole s cs) := by
  refine (primitive_readElement h whole s cs).bind fun named => ?_
  refine (primitive_readPlace _ _).bind fun read => ?_
  dsimp only
  split
  · simp
  · refine (primitive_take _).bind fun taken => ?_
    exact (primitive_fill_place _ h _ _).bind fun _ => raises_pure _

theorem primitive_checkTaken (whole : Value) (s : Supply) : Primitive (checkTaken whole s) := by
  unfold checkTaken
  split
  · simp
  · split <;> simp

theorem primitive_fillFrom (h : Heap) (whole : Value) (fuel : Nat) (s : Supply) (cs : List Char) :
    Primitive (fillFrom h whole fuel s cs) := by
  fun_induction fillFrom h whole fuel s cs with
  | case1 => simp
  | case2 => exact (primitive_checkTaken whole _).bind fun _ => raises_pure _
  | case3 fuel s rest ih => exact ih.bind fun _ => raises_pure _
  | case4 fuel s rest _ ih =>
      exact (primitive_fillPlace h whole s rest).bind fun filled =>
        (ih _ _).bind fun _ => raises_pure _
  | case5 fuel s c rest _ _ ih => exact ih.bind fun _ => raises_pure _

theorem primitive_fill (h : Heap) (template : String) (v : Value) : Primitive (fill h template v) :=
  (primitive_fillFrom h v _ _ _).bind fun _ => raises_pure _

end Template

namespace Value

theorem primitive_plus (a b : Value) : Primitive (a.plus b) := by
  unfold plus
  split
  · simp
  · exact primitive_onNumbers Number.primitive_add _ _

theorem primitive_sub (a b : Value) : Primitive (a.sub b) :=
  primitive_onNumbers Number.primitive_sub a b

theorem primitive_mul (a b : Value) : Primitive (a.mul b) := by
  unfold mul
  split
  · split
    · exact primitive_repeatText _ _
    · simp
  · split
    · exact primitive_repeatText _ _
    · simp
  · exact primitive_onNumbers Number.primitive_mul _ _

theorem primitive_div (a b : Value) : Primitive (a.div b) :=
  primitive_onNumbers Number.primitive_div a b

theorem primitive_pow (a b : Value) : Primitive (a.pow b) :=
  primitive_onNumbers Number.primitive_pow a b

theorem primitive_neg (a : Value) : Primitive a.neg := by
  unfold neg
  split <;> simp

theorem primitive_pos (a : Value) : Primitive a.pos := by
  unfold pos
  split <;> simp

end Value

namespace Heap

theorem primitive_joinShown (h : Heap) (a b : Value) : Primitive (h.joinShown a b) :=
  (h.primitive_displayText a).bind fun _ => (h.primitive_displayText b).bind fun _ => raises_pure _

theorem primitive_add (h : Heap) (a b : Value) : Primitive (h.add a b) := by
  unfold add
  split
  · exact h.primitive_joinShown _ _
  · exact h.primitive_joinShown _ _
  · exact primitive_onNumbers Number.primitive_add _ _

theorem primitive_mod (h : Heap) (a b : Value) : Primitive (h.mod a b) := by
  unfold mod
  split
  · exact (Template.primitive_fill h _ b).bind fun _ => raises_pure _
  · exact primitive_onNumbers Number.primitive_mod _ _

end Heap

namespace Display

theorem primitive_point (x y : Value) : Primitive (point x y) :=
  x.primitive_toInt.bind fun _ => y.primitive_toInt.bind fun _ => raises_pure _

theorem primitive_plot (d : Display) (x y color : Value) : Primitive (d.plot x y color) :=
  (primitive_point x y).bind fun _ => raises_pure _

theorem primitive_color (d : Display) (x y : Value) : Primitive (d.color x y) :=
  (primitive_point x y).bind fun _ => raises_pure _

end Display

namespace Builtin

theorem primitive_numberArg (v : Value) : Primitive (numberArg v) := by
  unfold numberArg
  split <;> simp

theorem primitive_onNumber {f : Number → Except Fault Number} (h : ∀ x, Primitive (f x))
    (v : Value) : Primitive (onNumber f v) :=
  (primitive_numberArg v).bind fun x => (h x).bind fun _ => raises_pure _

theorem primitive_roundValue (v places : Value) : Primitive (roundValue v places) := by
  unfold roundValue
  split
  · exact primitive_onNumber Number.primitive_round v
  · refine (primitive_numberArg v).bind fun x => ?_
    split
    · exact (x.primitive_roundTo _).bind fun _ => raises_pure _
    · simp

theorem primitive_drawBelow (roll : Nat) (v : Value) : Primitive (drawBelow roll v) := by
  refine v.primitive_toInt.bind fun n => ?_
  split <;> simp

theorem primitive_bestOf {beats : Value → Value → Except Fault Bool}
    (hbeats : ∀ a b, Primitive (beats a b)) (h : Heap) (args : List Value) :
    Primitive (bestOf beats h args) := by
  have hbest : ∀ values, Primitive (best beats values) := by
    intro values
    cases values with
    | nil => simp [best]
    | cons first others =>
        exact raises_foldlM (fun _ _ => (hbeats _ _).bind fun _ => raises_pure _) others first
  have hchoices : ∀ v, Primitive (choices h v) := by
    intro v
    cases v <;> simp [choices]
  unfold bestOf
  split
  · simp
  · exact (hchoices _).bind hbest
  · exact hbest _

theorem primitive_textOf (h : Heap) (v : Value) : Primitive (textOf h v) := by
  unfold textOf
  split
  · exact Number.primitive_displayText _
  · exact h.primitive_plainText _

theorem primitive_valueOf (h : Heap) (v : Value) : Primitive (valueOf h v) := by
  refine (h.primitive_plainText v).bind fun s => ?_
  split <;> simp

theorem primitive_leftPart (h : Heap) (v n : Value) : Primitive (leftPart h v n) :=
  (h.primitive_plainText v).bind fun _ => n.primitive_toInt.bind fun _ => raises_pure _

theorem primitive_rightPart (h : Heap) (v n : Value) : Primitive (rightPart h v n) := by
  refine n.primitive_toInt.bind fun n => ?_
  split
  · exact (h.primitive_plainText v).bind fun _ => raises_pure _
  · simp

theorem primitive_middlePart (v start length : Value) : Primitive (middlePart v start length) := by
  refine start.primitive_toInt.bind fun first => ?_
  dsimp only
  split
  · refine (raises_pure _).bind fun stop => ?_
    split <;> simp
  · refine length.primitive_toInt.bind fun _ => (raises_pure _).bind fun stop => ?_
    split <;> simp

theorem primitive_charOf (v : Value) : Primitive (charOf v) := by
  refine v.primitive_toInt.bind fun n => ?_
  split
  · simp
  · split
    · simp
    · split <;> simp

theorem primitive_codeOf (h : Heap) (v : Value) : Primitive (codeOf h v) := by
  refine (h.primitive_plainText v).bind fun s => ?_
  split <;> simp

/-- A function of the language raises primitive faults only. -/
theorem primitive_apply (h : Heap) (roll : Nat) (f : Builtin) (args : List Value) :
    Primitive (apply h roll f args) := by
  have hreal : ∀ (f : Float → Float) {infinite : Fault}, infinite.isPrimitive = true → ∀ v,
      Primitive (onNumber (Number.applyReal f infinite) v) := fun f _ hinfinite v =>
    primitive_onNumber (Number.primitive_applyReal f hinfinite) v
  -- one case for each function, in the order of `apply`
  unfold apply
  split
  · exact primitive_onNumber Number.primitive_abs _
  · exact hreal _ rfl _
  · exact hreal _ rfl _
  · exact hreal _ rfl _
  · exact hreal _ rfl _
  · exact hreal _ rfl _
  · exact hreal _ rfl _
  · exact primitive_onNumber (fun x => x.primitive_log.bind fun _ => raises_pure _) _
  · next v base =>
    refine (primitive_numberArg v).bind fun x => x.primitive_log.bind fun x => ?_
    refine (primitive_numberArg base).bind fun y => y.primitive_log.bind fun y => ?_
    split <;> simp
  · exact primitive_onNumber (fun x => x.primitive_floor.bind fun _ => raises_pure _) _
  · exact primitive_roundValue _ _
  · exact primitive_roundValue _ _
  · exact primitive_onNumber Number.primitive_sign _
  · simp
  · exact primitive_drawBelow roll _
  · exact primitive_bestOf Value.primitive_less h args
  · exact primitive_bestOf Value.primitive_greater h args
  · exact (h.primitive_plainText _).bind fun _ => raises_pure _
  · exact (primitive_textOf h _).bind fun _ => raises_pure _
  · exact primitive_valueOf h _
  · exact (h.primitive_plainText _).bind fun _ => raises_pure _
  · exact (h.primitive_plainText _).bind fun _ => raises_pure _
  · exact primitive_leftPart h _ _
  · exact primitive_rightPart h _ _
  · exact primitive_middlePart _ _ _
  · exact primitive_middlePart _ _ _
  · exact primitive_charOf _
  · exact primitive_codeOf h _
  · simp

end Builtin

/-! ## Bare faults -/

/-- Whether a fault is as an operation raises it: without a line, and not about the completion of a
run. -/
def Fault.isBare : Fault → Bool
  | .parse _ line => line.isNone
  | .run _ line => line.isNone
  | .alreadyCompleted => false
  | _ => true

abbrev Bare {α : Type} (x : Except Fault α) : Prop := Raises (fun e => e.isBare = true) x

theorem Fault.isBare_of_isPrimitive {e : Fault} (h : e.isPrimitive = true) : e.isBare = true := by
  cases e <;> simp_all [isPrimitive, isBare]

theorem bare_decodeText (quoted : String) : Bare (decodeText quoted) := by
  unfold decodeText
  split
  · exact raises_ok _
  · simp [Fault.isBare]

theorem bare_lineNumber (digits : String) : Bare (lineNumber digits) := by
  unfold lineNumber
  split
  · split
    · exact raises_ok _
    · simp [Fault.isBare]
  · simp [Fault.isBare]

end LineBasic

import LineBasic.Proofs.Grammar.Classifying
import LineBasic.Proofs.Grammar.Margins
import LineBasic.Proofs.Grammar.Spelling
import LineBasic.Proofs.Machine.Evaluating

/-!
# Integers as text

An integer is written with its sign and its digits, and there are three ways to read it again: as an
expression, where a minus in front is an operator, with `VAL`, and as a reply for a variable. All
three give the integer back, whatever its size and sign, as long as it can be written at all. The
last two are the same reader: a reply that `VAL` would reject is kept as text.
-/

namespace LineBasic

open Unread

/-! ## The reader of integers -/

namespace Decimal

variable {digits : List Char} {n : Int}

theorem intText_of_nonneg (h : 0 ≤ n) : intText n = intText (n.natAbs : Int) := by
  rw [Int.natAbs_of_nonneg h]

theorem intText_of_neg (h : n < 0) : intText n = "-" ++ intText (n.natAbs : Int) := by
  have hnatAbs : ¬ (n.natAbs : Int) < 0 := Int.not_lt.mpr (Int.natCast_nonneg _)
  apply String.toList_inj.mp
  rw [String.toList_append]
  simp only [intText, intDigits, if_pos h, if_neg hnatAbs, Int.natAbs_natCast, String.toList_ofList]
  rfl

theorem spanDigits_of_isDigit (h : ∀ c ∈ digits, Text.isDigit c = true) :
    spanDigits digits = (digits, []) := by
  have hfrom (afterDigit : Bool) : spanDigitsFrom afterDigit digits = (digits, []) := by
    induction digits generalizing afterDigit with
    | nil => rfl
    | cons c digits ih =>
        obtain ⟨hc, hdigits⟩ := List.forall_mem_cons.mp h
        rw [spanDigitsFrom, if_pos hc, ih hdigits]
  exact hfrom false

/-- Text without margins at its ends is not shortened. -/
theorem dropMargins_eq {cs : List Char} (hhead : ∀ c ∈ cs.head?, isMargin c = false)
    (hlast : ∀ c ∈ cs.getLast?, isMargin c = false) : dropMargins cs = cs := by
  have hreverse : ∀ c ∈ cs.reverse.head?, isMargin c = false := by
    rwa [List.head?_reverse]
  rw [dropMargins, dropWhile_of_head hhead, dropWhile_of_head hreverse, List.reverse_reverse]

/-- A sign in front is told from the digits behind it. -/
theorem spanSign_of_isDigit (h : ∀ c ∈ digits, Text.isDigit c = true) :
    spanSign digits = (false, digits) := by
  unfold spanSign
  split
  · exact absurd (h '-' List.mem_cons_self) (by decide)
  · exact absurd (h '+' List.mem_cons_self) (by decide)
  · rfl

/-- Digits behind a sign are read as their value with the sign. -/
theorem readInt?_of_digits {cs : List Char} {negative : Bool}
    (hsign : spanSign (dropMargins cs) = (negative, digits)) (hne : digits ≠ [])
    (h : ∀ c ∈ digits, Text.isDigit c = true) (hlength : digits.length ≤ digitLimit) :
    readInt? cs = some (Binary.signed negative (Text.digitsValue digits)) := by
  obtain ⟨c, tail, hcons⟩ := List.exists_cons_of_ne_nil hne
  simp only [readInt?, hsign, spanDigits_of_isDigit h]
  rw [hcons] at hlength ⊢
  exact if_pos hlength

theorem length_intText_natAbs (hn : n.natAbs < 10 ^ digitLimit) :
    (intText (n.natAbs : Int)).toList.length ≤ digitLimit := by
  rw [String.length_toList]
  exact length_intText_le (isSome_writeInt?.mpr (by rwa [Int.natAbs_natCast]))

/-- No blank starts or ends the text of an integer. -/
theorem isInk_ends_intText (n : Int) :
    (∀ c ∈ (intText n).toList.head?, Token.isInk c = true) ∧
      ∀ c ∈ (intText n).toList.getLast?, Token.isInk c = true := by
  have hdigits := isDigit_intText n.natAbs
  have hne := intText_ne_nil n.natAbs
  rcases Int.lt_or_le n 0 with hneg | hpos
  · rw [intText_of_neg hneg, String.toList_append]
    constructor
    · intro c hc
      cases hc
      decide
    · intro c hc
      rw [List.getLast?_append, List.getLast?_eq_some_getLast hne, Option.some_or] at hc
      exact Token.isInk_of_isDigit (hdigits c (Option.mem_some_iff.mp hc ▸ List.getLast_mem hne))
  · rw [intText_of_nonneg hpos]
    exact ⟨fun c hc => Token.isInk_of_isDigit (hdigits c (List.mem_of_mem_head? hc)),
      fun c hc => Token.isInk_of_isDigit (hdigits c (List.mem_of_getLast? hc))⟩

theorem isMargin_of_isInk {c : Char} (h : Token.isInk c = true) : isMargin c = false := by
  rw [Token.isInk, Bool.not_eq_true'] at h
  rw [isMargin, h, Bool.false_and]

/-- An integer is read from its text. -/
theorem readInt?_intText (hn : n.natAbs < 10 ^ digitLimit) :
    readInt? (intText n).toList = some n := by
  have hdigits := isDigit_intText n.natAbs
  have hne := intText_ne_nil n.natAbs
  have hlength := length_intText_natAbs hn
  have hmargins : dropMargins (intText n).toList = (intText n).toList :=
    dropMargins_eq (fun c hc => isMargin_of_isInk ((isInk_ends_intText n).1 c hc))
      fun c hc => isMargin_of_isInk ((isInk_ends_intText n).2 c hc)
  rcases Int.lt_or_le n 0 with hneg | hpos
  · have hsign : spanSign (dropMargins (intText n).toList) =
        (true, (intText (n.natAbs : Int)).toList) := by
      rw [hmargins, intText_of_neg hneg, String.toList_append]
      rfl
    rw [readInt?_of_digits hsign hne hdigits hlength, digitsValue_intText]
    exact congrArg some (by simp only [Binary.signed, if_true]; omega)
  · have hsign : spanSign (dropMargins (intText n).toList) =
        (false, (intText (n.natAbs : Int)).toList) := by
      rw [hmargins, intText_of_nonneg hpos]
      exact spanSign_of_isDigit hdigits
    rw [readInt?_of_digits hsign hne hdigits hlength, digitsValue_intText]
    exact congrArg some (Int.natAbs_of_nonneg hpos)

end Decimal

/-! ## Integers in expressions -/

namespace Machine

open Decimal (intText digitLimit)

variable {n : Int}

/-- Digits of no more than the limit are the numeral of their value. -/
theorem numeral_intText (hn : n.natAbs < 10 ^ digitLimit) :
    numeral (intText (n.natAbs : Int)) = .ok (.int n.natAbs) := by
  have hpoint : ((intText (n.natAbs : Int)).toList.any
      fun c => c == '.' || c == 'e' || c == 'E') = false := by
    rw [List.any_eq_false]
    intro c hc
    have hdigit := Decimal.isDigit_intText n.natAbs c hc
    simp only [Bool.or_eq_true, beq_iff_eq]
    rintro ((rfl | rfl) | rfl)
    · exact absurd hdigit (by decide)
    · exact absurd hdigit (by decide)
    · exact absurd hdigit (by decide)
  have hread : Decimal.readInt? (intText (n.natAbs : Int)).toList = some (n.natAbs : Int) :=
    Decimal.readInt?_intText (by rwa [Int.natAbs_natCast])
  simp only [numeral, hpoint, hread]
  rfl

def intTree (n : Int) : Expr :=
  if n < 0 then .unary .neg (.number (intText (n.natAbs : Int)))
  else .number (intText (n.natAbs : Int))

/-- A minus in front of the digits is read as an operator. -/
theorem parseExpression_intText (n : Int) : parseExpression (intText n) = .ok (intTree n) := by
  have htoken := Decimal.isToken_intText n.natAbs
  rw [intTree]
  rcases Int.lt_or_le n 0 with hneg | hpos
  · rw [if_pos hneg, Decimal.intText_of_neg hneg]
    have hspelled : Spelled (intText (n.natAbs : Int)) (intText (n.natAbs : Int)).toList [] :=
      spells_singleton.mp (Spaced.single _).spells
    have hnumber := hspelled.numberToken htoken
    have hsign : sign? Level.whole ("-" ++ intText (n.natAbs : Int)).toList =
        some (.neg, (intText (n.natAbs : Int)).toList) := by
      refine sign?_eq_some.mpr (.inr (.inl ⟨rfl, symbol?_eq_some.mpr ?_⟩))
      rw [String.toList_append]
      rfl
    have hread : ReadsExpr UnaryOp.neg.level (intText (n.natAbs : Int)).toList
        (.number (intText (n.natAbs : Int))) [] :=
      .operand (.atom (sign?_eq_none_of_number hnumber) (.number hnumber)) (Closes.stop (.inl rfl))
    have hwhole : ReadsExpr Level.whole ("-" ++ intText (n.natAbs : Int)).toList
        (.unary .neg (.number (intText (n.natAbs : Int)))) [] :=
      .operand (.unary hsign hread) (Closes.stop (.inl rfl))
    exact parseExpression_eq_ok.mpr ⟨[], hwhole, rfl⟩
  · rw [if_neg (by omega), Decimal.intText_of_nonneg hpos]
    exact parseExpression_leaf (e := .number _) htoken rfl

/-- The text of an integer has the integer as its value. -/
theorem evaluateText_intText (hn : n.natAbs < 10 ^ digitLimit) (m : Machine) :
    (evaluateText (intText n)).run.run m = (.ok (.int n), m) := by
  refine evaluateText_of_ok (parseExpression_intText n) ?_
  have hnumber : (evalExpr (.number (intText (n.natAbs : Int)))).run.run m =
      (.ok (.int n.natAbs), m) := by
    rw [evalExpr, numeral_intText hn]
    rfl
  rw [intTree]
  split
  · next hneg =>
    have hopposite : -(n.natAbs : Int) = n := by omega
    rw [evalExpr, run_bind, hnumber]
    change (Except.ok (Value.int (-(n.natAbs : Int))), m) = _
    rw [hopposite]
  · next hpos =>
    have hsame : (n.natAbs : Int) = n := by omega
    rw [hnumber, hsame]

end Machine

/-! ## `VAL` and replies -/

section Replies

variable {n : Int} {name text : String}

/-- The blanks around the text of an integer do not matter. -/
theorem trim_intText {before after : List Char} (n : Int)
    (hbefore : ∀ c ∈ before, Text.isBlank c = true)
    (hafter : ∀ c ∈ after, Text.isBlank c = true) :
    Text.trim (before ++ (Decimal.intText n).toList ++ after) = (Decimal.intText n).toList := by
  obtain ⟨hhead, hlast⟩ := Decimal.isInk_ends_intText n
  have hblank {c : Char} (h : Token.isInk c = true) : Text.isBlank c = false := by
    simpa [Token.isInk] using h
  rw [trim_append_blanks hafter, Text.trim,
    trimLeft_append hbefore fun c hc => hblank (hhead c hc)]
  have hright : Text.trimRight ((Decimal.intText n).toList ++ []) = (Decimal.intText n).toList :=
    trimRight_append (fun c hc => hblank (hlast c hc)) fun _ hc => absurd hc List.not_mem_nil
  rwa [List.append_nil] at hright

theorem Number.read?_intText (hn : n.natAbs < 10 ^ Decimal.digitLimit) :
    Number.read? (Decimal.intText n).toList = some (.int n) := by
  rw [Number.read?, Decimal.readInt?_intText hn]

/-- `VAL` gives the number that a text spells without the blanks around it. -/
theorem Builtin.apply_val (h : Heap) (roll : Nat) (text : String) :
    Builtin.apply h roll .val [.text text] =
      match Number.read? (Text.trim text.toList) with
      | some x => .ok (.number x)
      | none => .error .badValue := by
  have hplain : h.plainText (.text text) = .ok text := h.displayText_text text
  change valueOf h (.text text) = _
  simp only [valueOf, hplain, bind, Except.bind]
  cases Number.read? (Text.trim text.toList) <;> rfl

/-- A variable without a dollar sign takes the number that a reply spells, or else the reply. -/
theorem replyValue_of_number (hname : name.toList.getLast? ≠ some '$') (text : String) :
    replyValue name (some text) =
      match Number.read? (Text.trim text.toList) with
      | some x => .ok (.number x)
      | none => .ok (.text text) := by
  have hplain : (name.toList.getLast? == some '$') = false := by simpa using hname
  cases hread : Number.read? (Text.trim text.toList) <;> simp only [replyValue, hplain, hread]

theorem Decimal.writeInt?_eq_some (hn : (Decimal.writeInt? n).isSome = true) :
    Decimal.writeInt? n = some (Decimal.intText n) := by
  rw [Decimal.writeInt?] at hn ⊢
  split at hn
  · next hlt => rw [if_pos hlt]
  · cases hn

section

-- The limit on the length of an integer is far too large to be computed with.
attribute [local irreducible] Decimal.writeInt?

theorem Number.displayText_int (hn : n.natAbs < 10 ^ Decimal.digitLimit) :
    Number.displayText (.int n) = .ok (Decimal.intText n) := by
  unfold Number.displayText Number.text
  simp only [Decimal.writeInt?_eq_some (Decimal.isSome_writeInt?.mpr hn)]

end

end Replies

namespace Machine

/-- Integers survive being written and read. What is shown of an integer of no more digits than the
limit is an expression with that value, and is what `STR` gives; between any blanks, `VAL` and a
reply for a variable without a dollar sign give the integer back. Of every text such a reply gives
what `VAL` gives, and the text itself where `VAL` rejects it. -/
theorem integer_texts_read_back :
    (∀ n : Int, n.natAbs < 10 ^ Decimal.digitLimit → ∃ text : String,
      (∀ h : Heap, h.displayText (.int n) = .ok text) ∧
      (∀ m : Machine, (evaluateText text).run.run m = (.ok (.int n), m)) ∧
      (∀ (h : Heap) (roll : Nat), Builtin.apply h roll .str [.int n] = .ok (.text text)) ∧
      ∀ before after : String, (∀ c ∈ before.toList, Text.isBlank c = true) →
        (∀ c ∈ after.toList, Text.isBlank c = true) →
        (∀ (h : Heap) (roll : Nat),
          Builtin.apply h roll .val [.text (before ++ text ++ after)] = .ok (.int n)) ∧
        ∀ name : String, name.toList.getLast? ≠ some '$' →
          replyValue name (some (before ++ text ++ after)) = .ok (.int n)) ∧
    ∀ name text : String, name.toList.getLast? ≠ some '$' → ∀ (h : Heap) (roll : Nat),
      (∀ v, Builtin.apply h roll .val [.text text] = .ok v →
        replyValue name (some text) = .ok v) ∧
      ∀ fault, Builtin.apply h roll .val [.text text] = .error fault →
        fault = .badValue ∧ replyValue name (some text) = .ok (.text text) := by
  constructor
  · intro n hn
    have hshown := Number.displayText_int hn
    refine ⟨Decimal.intText n, fun h => ?_, evaluateText_intText hn, fun h roll => ?_, ?_⟩
    · rw [Heap.displayText_number, hshown]
    · rw [Builtin.apply, Builtin.textOf, hshown]
      rfl
    · intro before after hbefore hafter
      have hread : Number.read? (Text.trim (before ++ Decimal.intText n ++ after).toList) =
          some (.int n) := by
        rw [String.toList_append, String.toList_append, trim_intText n hbefore hafter,
          Number.read?_intText hn]
      constructor
      · intro h roll
        rw [Builtin.apply_val, hread]
      · intro name hname
        rw [replyValue_of_number hname, hread]
  · intro name text hname h roll
    rw [Builtin.apply_val, replyValue_of_number hname]
    cases Number.read? (Text.trim text.toList) with
    | some x =>
        refine ⟨fun v hv => hv, nofun⟩
    | none =>
        refine ⟨nofun, fun fault hfault => ?_⟩
        cases hfault
        exact ⟨rfl, rfl⟩

/-- A negative integer between blanks, and a reply that spells no number. -/
theorem integer_texts_read_back_samples :
    (Heap.displayText {} (.int (-120)) = .ok "-120" ∧
      (evaluateText "-120").run.run
          { constants := defaultConstants, functions := defaultFunctions } =
        (.ok (.int (-120)), { constants := defaultConstants, functions := defaultFunctions }) ∧
      Builtin.apply {} 0 .val [.text ("\t " ++ "-120" ++ "\n")] = .ok (.int (-120)) ∧
      replyValue "X" (some ("\t " ++ "-120" ++ "\n")) = .ok (.int (-120))) ∧
    Builtin.apply {} 0 .val [.text "12X"] = .error .badValue ∧
      replyValue "X" (some "12X") = .ok (.text "12X") := by
  have hlimit : (-120 : Int).natAbs < 10 ^ Decimal.digitLimit :=
    Nat.lt_of_lt_of_le (by decide : (-120 : Int).natAbs < 10 ^ 3)
      (Nat.pow_le_pow_right (by decide) (by decide))
  have hname : "X".toList.getLast? ≠ some '$' := by decide
  obtain ⟨text, hshown, heval, -, hblanks⟩ := integer_texts_read_back.1 (-120) hlimit
  have htext : text = "-120" := by
    have h := hshown {}
    rw [Heap.displayText_number, Number.displayText_int hlimit] at h
    cases h
    decide
  subst htext
  obtain ⟨hval, hreply⟩ := hblanks "\t " "\n" (List.all_eq_true.mp (by decide))
    (List.all_eq_true.mp (by decide))
  have hrejected : Builtin.apply {} 0 .val [.text "12X"] = .error .badValue := by
    rw [Builtin.apply_val]
    rfl
  exact ⟨⟨hshown {}, heval _, hval {} 0, hreply "X" hname⟩, hrejected,
    ((integer_texts_read_back.2 "X" "12X" hname {} 0).2 _ hrejected).2⟩

end Machine

end LineBasic

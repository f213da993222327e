import LineBasic.Proofs.Grammar.Characters

/-!
# Where tokens end

Two questions about the measures of tokens. When a text is cut somewhere behind a token, the token
found in the whole text is still the one found in the part that is left (`numberLength_cut` and its
like). A variable is the exception: what follows it decides whether it keeps its last digit or its
dollar sign, so the cut is harmless only if neither of these comes next. The other way round, a text
that is one token as a whole remains that token when nothing or a gap follows (`numberLength_append`
and its like).

Apart from literals, tokens hold no blanks; literals hold no line break and end in a quote. The
first character of a token tells its kind.
-/

namespace LineBasic

namespace Token

open LineBasic.Text

/-! ## Numbers -/

theorem decimalLength_of_point {cs rest : List Char} (h : cs.dropWhile isDigit = '.' :: rest) :
    decimalLength cs =
      if countWhile isDigit cs = 0 ∧ countWhile isDigit rest = 0 then 0
      else countWhile isDigit cs + 1 + countWhile isDigit rest := by
  simp only [decimalLength, drop_countWhile, h]

theorem decimalLength_of_ne_point {cs : List Char}
    (h : ∀ rest, cs.dropWhile isDigit ≠ '.' :: rest) :
    decimalLength cs = countWhile isDigit cs := by
  unfold decimalLength
  dsimp only
  rw [drop_countWhile]
  split
  · next rest hrest => exact absurd hrest (h rest)
  · rfl

theorem decimalLength_of_cons {cs tail : List Char} {c : Char}
    (h : cs.dropWhile isDigit = c :: tail) (hc : c ≠ '.') :
    decimalLength cs = countWhile isDigit cs := by
  apply decimalLength_of_ne_point
  intro rest hrest
  rw [h, List.cons.injEq] at hrest
  exact hc hrest.1

/-- Behind the digits in front, either a point comes with what follows it, or none does. -/
theorem point_or_not (cs : List Char) :
    (∃ rest, cs.dropWhile isDigit = '.' :: rest) ∨ ∀ rest, cs.dropWhile isDigit ≠ '.' :: rest :=
  (Classical.em _).imp_right fun h rest hrest => h ⟨rest, hrest⟩

theorem decimalLength_le_plain (cs : List Char) : decimalLength cs ≤ countWhile isPlain cs := by
  have hwhole : countWhile isDigit cs ≤ countWhile isPlain cs :=
    countWhile_le_countWhile (fun _ => isPlain_of_isDigit) cs
  rcases point_or_not cs with ⟨rest, hrest⟩ | hrest
  · have hplain := countWhile_drop hwhole
    have hfraction : countWhile isDigit rest ≤ countWhile isPlain rest :=
      countWhile_le_countWhile (fun _ => isPlain_of_isDigit) rest
    rw [drop_countWhile, hrest, countWhile_cons (by decide)] at hplain
    rw [decimalLength_of_point hrest]
    split <;> omega
  · rw [decimalLength_of_ne_point hrest]
    exact hwhole

theorem decimalLength_le (cs : List Char) : decimalLength cs ≤ cs.length :=
  Nat.le_trans (decimalLength_le_plain cs) (countWhile_le isPlain cs)

theorem decimalLength_cut {a b : List Char} (h : decimalLength (a ++ b) ≤ a.length) :
    decimalLength a = decimalLength (a ++ b) := by
  have ha := countWhile_add_length_dropWhile isDigit a
  have hcount := countWhile_append isDigit a b
  cases htail : a.dropWhile isDigit with
  | nil =>
      -- the first part is all digits, so what is found ends with it
      rw [htail, List.length_nil, Nat.add_zero] at ha
      rw [if_pos ha] at hcount
      rw [decimalLength_of_ne_point (by simp [htail]), ha]
      rcases point_or_not (a ++ b) with ⟨rest, hrest⟩ | hrest
      · rw [decimalLength_of_point hrest, hcount] at h ⊢
        split at h <;> split <;> omega
      · rw [decimalLength_of_ne_point hrest, hcount] at h ⊢
        omega
  | cons c tail =>
      have hlt : countWhile isDigit a ≠ a.length := by
        rw [htail, List.length_cons] at ha
        omega
      rw [if_neg hlt] at hcount
      have hdrop := dropWhile_append_of_cons htail b
      by_cases hc : c = '.'
      · subst hc
        rw [decimalLength_of_point hdrop, hcount] at h ⊢
        rw [decimalLength_of_point htail]
        rw [htail, List.length_cons] at ha
        have hfraction : countWhile isDigit (tail ++ b) ≤ tail.length := by
          split at h <;> omega
        rw [countWhile_cut hfraction]
      · rw [decimalLength_of_cons hdrop hc, decimalLength_of_cons htail hc, hcount]

theorem decimalLength_append {a b : List Char} (h : Bounded b) :
    decimalLength (a ++ b) = decimalLength a := by
  have hcount : countWhile isDigit (a ++ b) = countWhile isDigit a :=
    countWhile_append_of_head (h.head (by decide))
  cases htail : a.dropWhile isDigit with
  | nil =>
      have hb : b.dropWhile isDigit = b := by
        rw [← drop_countWhile, countWhile_of_head (h.head (by decide)), List.drop_zero]
      have hpoint : ∀ rest, b ≠ '.' :: rest := by
        rintro rest rfl
        exact absurd (h '.' rfl) (by decide)
      have hdrop := dropWhile_append_of_nil htail b
      rw [hb] at hdrop
      rw [decimalLength_of_ne_point (by simpa [hdrop] using hpoint),
        decimalLength_of_ne_point (by simp [htail]), hcount]
  | cons c tail =>
      have hdrop := dropWhile_append_of_cons htail b
      by_cases hc : c = '.'
      · subst hc
        rw [decimalLength_of_point hdrop, decimalLength_of_point htail, hcount,
          countWhile_append_of_head (h.head (by decide))]
      · rw [decimalLength_of_cons hdrop hc, decimalLength_of_cons htail hc, hcount]

/-- Whether a character may stand between the mark of an exponent and its digits. -/
def isExponentSign (c : Char) : Bool := c == '+' || c == '-'

def signLength : List Char → Nat
  | c :: _ => if isExponentSign c then 1 else 0
  | [] => 0

theorem exponentLength_cons (c : Char) (rest : List Char) :
    exponentLength (c :: rest) =
      if c == 'e' || c == 'E' then
        if countWhile isDigit (rest.drop (signLength rest)) = 0 then 0
        else 1 + signLength rest + countWhile isDigit (rest.drop (signLength rest))
      else 0 := by
  cases rest <;> rfl

theorem signLength_le_plain (cs : List Char) : signLength cs ≤ countWhile isPlain cs := by
  cases cs with
  | nil => exact Nat.le_refl 0
  | cons c cs =>
      rw [signLength]
      split
      · next hc =>
        rcases Bool.or_eq_true_iff.mp hc with hplus | hminus
        · rw [beq_iff_eq.mp hplus, countWhile_cons (by decide)]
          omega
        · rw [beq_iff_eq.mp hminus, countWhile_cons (by decide)]
          omega
      · exact Nat.zero_le _

theorem exponentLength_le_plain (cs : List Char) : exponentLength cs ≤ countWhile isPlain cs := by
  cases cs with
  | nil => exact Nat.le_refl 0
  | cons c rest =>
      have hsign := countWhile_drop (signLength_le_plain rest)
      have hdigits : countWhile isDigit (rest.drop (signLength rest)) ≤
          countWhile isPlain (rest.drop (signLength rest)) :=
        countWhile_le_countWhile (fun _ => isPlain_of_isDigit) _
      rw [exponentLength_cons]
      split
      · next hc =>
        have hplain : isPlain c = true := by
          rcases Bool.or_eq_true_iff.mp hc with hsmall | hlarge
          · rw [beq_iff_eq.mp hsmall]
            decide
          · rw [beq_iff_eq.mp hlarge]
            decide
        rw [countWhile_cons hplain]
        split <;> omega
      · exact Nat.zero_le _

theorem exponentLength_cut {a b : List Char} (h : exponentLength (a ++ b) ≤ a.length) :
    exponentLength a = exponentLength (a ++ b) := by
  cases a with
  | nil => exact (Nat.le_zero.mp h).symm
  | cons c a =>
      rw [List.cons_append, exponentLength_cons, List.length_cons] at h
      rw [List.cons_append, exponentLength_cons, exponentLength_cons]
      by_cases hc : (c == 'e' || c == 'E') = true
      · rw [if_pos hc] at h
        rw [if_pos hc, if_pos hc]
        cases a with
        | nil =>
            -- an exponent has at least two characters
            rw [List.nil_append, List.length_nil] at h
            rw [List.nil_append, if_pos (by rfl)]
            split at h
            · next hb => rw [if_pos hb]
            · omega
        | cons d a =>
            have hsign : signLength (d :: a ++ b) = signLength (d :: a) := rfl
            have hle := Nat.le_trans (signLength_le_plain (d :: a)) (countWhile_le isPlain (d :: a))
            rw [hsign, List.drop_append_of_le_length hle] at h ⊢
            have hdigits : countWhile isDigit ((d :: a).drop (signLength (d :: a)) ++ b) ≤
                ((d :: a).drop (signLength (d :: a))).length := by
              rw [List.length_drop]
              split at h <;> omega
            rw [countWhile_cut hdigits]
      · rw [if_neg hc, if_neg hc]

theorem exponentLength_append {a b : List Char} (h : Bounded b) :
    exponentLength (a ++ b) = exponentLength a := by
  cases a with
  | nil =>
      cases b with
      | nil => rfl
      | cons c b => rcases eq_of_isGap (h c rfl) with rfl | rfl <;> rfl
  | cons c a =>
      have hsign : signLength (a ++ b) = signLength a := by
        cases a with
        | nil =>
            cases b with
            | nil => rfl
            | cons d b => rcases eq_of_isGap (h d rfl) with rfl | rfl <;> rfl
        | cons d a => rfl
      rw [List.cons_append, exponentLength_cons, exponentLength_cons, hsign,
        List.drop_append_of_le_length (Nat.le_trans (signLength_le_plain a) (countWhile_le isPlain a)),
        countWhile_append_of_head (h.head (by decide))]

theorem numberLength_le_plain (cs : List Char) : numberLength cs ≤ countWhile isPlain cs := by
  have hdecimal := countWhile_drop (decimalLength_le_plain cs)
  have hexponent := exponentLength_le_plain (cs.drop (decimalLength cs))
  simp only [numberLength]
  split <;> omega

/-- A number that ends inside the first part of a text is the number of that part. -/
theorem numberLength_cut {a b : List Char} (h : numberLength (a ++ b) ≤ a.length) :
    numberLength a = numberLength (a ++ b) := by
  simp only [numberLength] at h ⊢
  have hdecimal : decimalLength (a ++ b) ≤ a.length := by
    split at h <;> omega
  rw [decimalLength_cut hdecimal]
  by_cases hzero : decimalLength (a ++ b) = 0
  · rw [if_pos hzero, if_pos hzero]
  · rw [if_neg hzero, List.drop_append_of_le_length hdecimal] at h
    rw [if_neg hzero, if_neg hzero, List.drop_append_of_le_length hdecimal]
    have hexponent : exponentLength (a.drop (decimalLength (a ++ b)) ++ b) ≤
        (a.drop (decimalLength (a ++ b))).length := by
      rw [List.length_drop]
      omega
    rw [exponentLength_cut hexponent]

theorem numberLength_append {a b : List Char} (h : Bounded b) :
    numberLength (a ++ b) = numberLength a := by
  simp only [numberLength, decimalLength_append h,
    List.drop_append_of_le_length (decimalLength_le a), exponentLength_append h]

/-! ## Names -/

theorem nameLength_cons_cons (c d : Char) (rest : List Char) :
    nameLength (c :: d :: rest) =
      if isLetter c && isWordStart d then 2 + countWhile isWordPart rest else 0 := rfl

theorem nameLength_le_plain (cs : List Char) : nameLength cs ≤ countWhile isPlain cs := by
  match cs with
  | [] => exact Nat.le_refl 0
  | [_] => exact Nat.zero_le _
  | c :: d :: rest =>
    have hword : countWhile isWordPart rest ≤ countWhile isPlain rest :=
      countWhile_le_countWhile (fun _ => isPlain_of_isWordPart) rest
    rw [nameLength_cons_cons]
    split
    · next hcd =>
      obtain ⟨hc, hd⟩ := Bool.and_eq_true_iff.mp hcd
      rw [countWhile_cons (isPlain_of_isLetter hc), countWhile_cons (isPlain_of_isWordStart hd)]
      omega
    · exact Nat.zero_le _

/-- A name that ends inside the first part of a text is the name of that part. -/
theorem nameLength_cut {a b : List Char} (h : nameLength (a ++ b) ≤ a.length) :
    nameLength a = nameLength (a ++ b) := by
  match a with
  | [] => exact (Nat.le_zero.mp h).symm
  | [c] =>
    cases b with
    | nil => rfl
    | cons d b =>
        -- a name has at least two characters
        rw [List.cons_append, List.nil_append, nameLength_cons_cons, List.length_singleton] at h
        rw [List.cons_append, List.nil_append, nameLength_cons_cons]
        split at h
        · omega
        · next hcd =>
          rw [if_neg hcd]
          rfl
  | c :: d :: a =>
    rw [List.cons_append, List.cons_append, nameLength_cons_cons, List.length_cons,
      List.length_cons] at h
    rw [List.cons_append, List.cons_append, nameLength_cons_cons, nameLength_cons_cons]
    by_cases hcd : (isLetter c && isWordStart d) = true
    · rw [if_pos hcd] at h
      have hword : countWhile isWordPart (a ++ b) ≤ a.length := by omega
      rw [countWhile_cut hword]
    · rw [if_neg hcd, if_neg hcd]

theorem nameLength_append {a b : List Char} (h : Bounded b) :
    nameLength (a ++ b) = nameLength a := by
  match a with
  | [] =>
    match b with
    | [] => rfl
    | [_] => rfl
    | c :: d :: b => rcases eq_of_isGap (h c rfl) with rfl | rfl <;> rfl
  | [c] =>
    cases b with
    | nil => rfl
    | cons d b =>
        have hd : isWordStart d = false := h.head (by decide) d rfl
        rw [List.cons_append, List.nil_append, nameLength_cons_cons, hd, Bool.and_false]
        rfl
  | c :: d :: a =>
    rw [List.cons_append, List.cons_append, nameLength_cons_cons, nameLength_cons_cons,
      countWhile_append_of_head (h.head (by decide))]

/-! ## String literals -/

/-- A literal ends in a quote, and there is no line break before it. -/
theorem exists_quote_of_literalLengthFrom {n : Nat} {escaped : Bool} {cs : List Char}
    (h : literalLengthFrom n escaped cs ≠ 0) :
    ∃ w rest, cs = w ++ '"' :: rest ∧ '\n' ∉ w ∧
      literalLengthFrom n escaped cs = n + w.length + 1 := by
  induction cs generalizing n escaped with
  | nil => exact absurd rfl h
  | cons c cs ih =>
      rw [literalLengthFrom] at h ⊢
      split at h
      · exact absurd rfl h
      · next hbreak =>
        rw [if_neg hbreak]
        split at h
        · next hquote =>
          obtain ⟨hc, -⟩ := Bool.and_eq_true_iff.mp hquote
          rw [if_pos hquote, beq_iff_eq.mp hc]
          exact ⟨[], cs, rfl, List.not_mem_nil, rfl⟩
        · next hquote =>
          rw [if_neg hquote]
          obtain ⟨w, rest, rfl, hw, hlength⟩ := ih h
          refine ⟨c :: w, rest, rfl, ?_, ?_⟩
          · intro hmem
            rcases List.mem_cons.mp hmem with rfl | hmem
            · exact hbreak rfl
            · exact hw hmem
          · rw [hlength, List.length_cons]
            omega

theorem literalLengthFrom_append {n : Nat} {escaped : Bool} {a : List Char}
    (h : literalLengthFrom n escaped a ≠ 0) (b : List Char) :
    literalLengthFrom n escaped (a ++ b) = literalLengthFrom n escaped a := by
  induction a generalizing n escaped with
  | nil => exact absurd rfl h
  | cons c a ih =>
      rw [literalLengthFrom] at h
      rw [List.cons_append, literalLengthFrom, literalLengthFrom]
      split
      · rfl
      · next hbreak =>
        rw [if_neg hbreak] at h
        split
        · rfl
        · next hquote =>
          rw [if_neg hquote] at h
          exact ih h

theorem literalLengthFrom_cut {n : Nat} {escaped : Bool} {a b : List Char}
    (h : literalLengthFrom n escaped (a ++ b) ≤ n + a.length) :
    literalLengthFrom n escaped a = literalLengthFrom n escaped (a ++ b) := by
  induction a generalizing n escaped with
  | nil =>
      by_cases hb : literalLengthFrom n escaped b = 0
      · exact hb.symm
      · obtain ⟨w, rest, -, -, hlength⟩ := exists_quote_of_literalLengthFrom hb
        rw [List.nil_append, List.length_nil] at h
        omega
  | cons c a ih =>
      rw [List.cons_append, literalLengthFrom, List.length_cons] at h
      rw [List.cons_append, literalLengthFrom, literalLengthFrom]
      split
      · rfl
      · next hbreak =>
        rw [if_neg hbreak] at h
        split
        · rfl
        · next hquote =>
          rw [if_neg hquote] at h
          exact ih (by omega)

theorem literalLength_of_ne_quote {cs : List Char} (h : ∀ rest, cs ≠ '"' :: rest) :
    literalLength cs = 0 := by
  unfold literalLength
  split
  · next rest => exact absurd rfl (h rest)
  · rfl

theorem exists_quotes_of_literalLength {cs : List Char} (h : literalLength cs ≠ 0) :
    ∃ w rest, cs = '"' :: w ++ '"' :: rest ∧ '\n' ∉ w ∧ literalLength cs = w.length + 2 := by
  unfold literalLength at h
  split at h
  · next rest =>
    obtain ⟨w, rest, rfl, hw, hlength⟩ := exists_quote_of_literalLengthFrom h
    refine ⟨w, rest, rfl, hw, ?_⟩
    rw [literalLength, hlength]
    omega
  · exact absurd rfl h

/-- A literal that ends inside the first part of a text is the literal of that part. -/
theorem literalLength_cut {a b : List Char} (h : literalLength (a ++ b) ≤ a.length) :
    literalLength a = literalLength (a ++ b) := by
  cases a with
  | nil => exact (Nat.le_zero.mp h).symm
  | cons c a =>
      by_cases hc : c = '"'
      · subst hc
        exact literalLengthFrom_cut (by rw [Nat.add_comm]; exact h)
      · rw [literalLength_of_ne_quote (by simp [hc]), literalLength_of_ne_quote (by simp [hc])]

theorem literalLength_append {a : List Char} (h : literalLength a ≠ 0) (b : List Char) :
    literalLength (a ++ b) = literalLength a := by
  unfold literalLength at h
  split at h
  · exact literalLengthFrom_append h b
  · exact absurd rfl h

/-! ## Variables -/

theorem variableLength_of_dollar {c : Char} {rest more : List Char} (hc : isLetter c = true)
    (h : rest.dropWhile Char.isDigit = '$' :: more) :
    variableLength (c :: rest) =
      if runsOn more then 1 + countWhile Char.isDigit rest
      else 2 + countWhile Char.isDigit rest := by
  simp only [variableLength, hc, if_true, drop_countWhile, h]

theorem variableLength_of_ne_dollar {c : Char} {rest : List Char} (hc : isLetter c = true)
    (h : ∀ more, rest.dropWhile Char.isDigit ≠ '$' :: more) :
    variableLength (c :: rest) =
      if runsOn (rest.dropWhile Char.isDigit) then countWhile Char.isDigit rest
      else 1 + countWhile Char.isDigit rest := by
  unfold variableLength
  dsimp only
  rw [if_pos hc, drop_countWhile]
  split
  · next more hmore => exact absurd hmore (h more)
  · rfl

theorem dollar_or_not (cs : List Char) :
    (∃ more, cs.dropWhile Char.isDigit = '$' :: more) ∨
      ∀ more, cs.dropWhile Char.isDigit ≠ '$' :: more :=
  (Classical.em _).imp_right fun h more hmore => h ⟨more, hmore⟩

theorem isLetter_of_variableLength {c : Char} {rest : List Char}
    (h : variableLength (c :: rest) ≠ 0) : isLetter c = true := by
  by_cases hc : isLetter c = true
  · exact hc
  · simp [variableLength, hc] at h

theorem variableLength_le_plain (cs : List Char) : variableLength cs ≤ countWhile isPlain cs := by
  cases cs with
  | nil => exact Nat.le_refl 0
  | cons c rest =>
      by_cases hzero : variableLength (c :: rest) = 0
      · omega
      · have hc := isLetter_of_variableLength hzero
        have hdigits : countWhile Char.isDigit rest ≤ countWhile isPlain rest :=
          countWhile_le_countWhile (fun _ => isPlain_of_charIsDigit) rest
        have hplain := countWhile_drop hdigits
        rw [countWhile_cons (isPlain_of_isLetter hc)]
        rcases dollar_or_not rest with ⟨more, hmore⟩ | hmore
        · rw [drop_countWhile, hmore, countWhile_cons (by decide)] at hplain
          rw [variableLength_of_dollar hc hmore]
          split <;> omega
        · rw [variableLength_of_ne_dollar hc hmore]
          split <;> omega

theorem Clear.countWhile {cs : List Char} (h : Clear cs) : countWhile Char.isDigit cs = 0 :=
  countWhile_of_head fun c hc => (h c hc).1

theorem Clear.dropWhile {cs : List Char} (h : Clear cs) : cs.dropWhile Char.isDigit = cs := by
  rw [← drop_countWhile, h.countWhile, List.drop_zero]

/-- A letter with digits and perhaps a dollar sign. -/
def IsVariable (s : List Char) : Prop :=
  ∃ c digits tail, s = c :: (digits ++ tail) ∧ isLetter c = true ∧
    (∀ d ∈ digits, d.isDigit = true) ∧ (tail = [] ∨ tail = ['$'])

/-- Where neither a digit nor a dollar sign nor a letter follows, a variable ends. -/
theorem IsVariable.length_append {s r : List Char} (h : IsVariable s) (hr : Clear r)
    (hruns : runsOn r = false) : variableLength (s ++ r) = s.length := by
  obtain ⟨c, digits, tail, rfl, hc, hdigits, htail⟩ := h
  have hclear : (tail ++ r).dropWhile Char.isDigit = tail ++ r := by
    rcases htail with rfl | rfl
    · exact hr.dropWhile
    · rfl
  have hdrop : (digits ++ tail ++ r).dropWhile Char.isDigit = tail ++ r := by
    rw [List.append_assoc, List.dropWhile_append_of_pos hdigits, hclear]
  have hcount : countWhile Char.isDigit (digits ++ tail ++ r) = digits.length := by
    have := countWhile_add_length_dropWhile Char.isDigit (digits ++ tail ++ r)
    simp only [hdrop, List.length_append] at this
    omega
  rw [List.cons_append, List.length_cons, List.length_append]
  rcases htail with rfl | rfl
  · have hdollar : ∀ more, (digits ++ [] ++ r).dropWhile Char.isDigit ≠ '$' :: more := by
      intro more hmore
      rw [hdrop, List.nil_append] at hmore
      exact (hr '$' (by rw [hmore]; rfl)).2 rfl
    rw [variableLength_of_ne_dollar hc hdollar, hdrop, hcount, List.nil_append, hruns,
      List.length_nil]
    simp only [Bool.false_eq_true, if_false]
    omega
  · rw [variableLength_of_dollar hc hdrop, hcount, List.length_singleton]
    change (if runsOn r = true then _ else _) = _
    rw [hruns]
    simp only [Bool.false_eq_true, if_false]
    omega

/-- What is found as a variable is one, and no letter follows. If the last digit or the dollar sign
had been left out, it would come next. -/
theorem isVariable_of_length {s r : List Char} (h : variableLength (s ++ r) = s.length)
    (hs : s ≠ []) (hr : Clear r) : IsVariable s ∧ runsOn r = false := by
  cases s with
  | nil => exact absurd rfl hs
  | cons c rest =>
      rw [List.cons_append, List.length_cons] at h
      have hc : isLetter c = true := isLetter_of_variableLength (by rw [h]; omega)
      have hsplit := List.takeWhile_append_dropWhile (p := Char.isDigit) (l := rest ++ r)
      have hdigits : ∀ d ∈ (rest ++ r).takeWhile Char.isDigit, d.isDigit = true :=
        fun d hd => List.all_eq_true.mp (List.all_takeWhile) d hd
      rcases dollar_or_not (rest ++ r) with ⟨more, hmore⟩ | hmore
      · rw [variableLength_of_dollar hc hmore] at h
        rw [hmore] at hsplit
        split at h
        · obtain ⟨-, rfl⟩ := List.append_inj hsplit (by simp only [countWhile] at h; omega)
          exact absurd rfl (hr '$' rfl).2
        · next hruns =>
          rw [List.append_cons] at hsplit
          obtain ⟨hrest, rfl⟩ := List.append_inj hsplit (by
            simp only [countWhile, List.length_append, List.length_singleton] at h ⊢
            omega)
          exact ⟨⟨c, _, ['$'], by rw [hrest], hc, hdigits, .inr rfl⟩, by simpa using hruns⟩
      · rw [variableLength_of_ne_dollar hc hmore] at h
        split at h
        · have hlong := countWhile_append Char.isDigit rest r
          have := countWhile_le Char.isDigit rest
          rw [hr.countWhile] at hlong
          split at hlong <;> omega
        · next hruns =>
          obtain ⟨hrest, htail⟩ := List.append_inj hsplit (by simp only [countWhile] at h; omega)
          rw [htail] at hruns
          rw [hrest] at hdigits
          exact ⟨⟨c, rest, [], by simp, hc, hdigits, .inl rfl⟩, by simpa using hruns⟩

/-! ## First characters -/

theorem head_of_numberLength {c : Char} {cs : List Char} (h : numberLength (c :: cs) ≠ 0) :
    isDigit c = true ∨ c = '.' := by
  by_cases hc : isDigit c = true
  · exact .inl hc
  · have hdrop : (c :: cs).dropWhile isDigit = c :: cs := by simp [hc]
    by_cases hpoint : c = '.'
    · exact .inr hpoint
    · have hzero : decimalLength (c :: cs) = 0 := by
        rw [decimalLength_of_cons hdrop hpoint, countWhile_of_head (by simpa using hc)]
      simp [numberLength, hzero] at h

theorem head_of_literalLength {c : Char} {cs : List Char} (h : literalLength (c :: cs) ≠ 0) :
    c = '"' := by
  obtain ⟨w, rest, hcs, -, -⟩ := exists_quotes_of_literalLength h
  exact (List.cons.inj hcs).1

theorem isLetter_of_nameLength {c : Char} {cs : List Char} (h : nameLength (c :: cs) ≠ 0) :
    isLetter c = true := by
  cases cs with
  | nil => exact absurd rfl h
  | cons d cs =>
      rw [nameLength_cons_cons] at h
      split at h
      · next hcd => exact (Bool.and_eq_true_iff.mp hcd).1
      · exact absurd rfl h

/-- A name is not a variable, since its second character runs on. -/
theorem variableLength_of_nameLength {cs : List Char} (h : nameLength cs ≠ 0) :
    variableLength cs = 0 := by
  match cs with
  | [] => rfl
  | [_] => exact absurd rfl h
  | c :: d :: rest =>
    rw [nameLength_cons_cons] at h
    split at h
    · next hcd =>
      obtain ⟨hc, hd⟩ := Bool.and_eq_true_iff.mp hcd
      have hdigit : Char.isDigit d = false := charIsDigit_of_isWordStart hd
      have hdrop : (d :: rest).dropWhile Char.isDigit = d :: rest := by simp [hdigit]
      have hdollar : ∀ more, (d :: rest).dropWhile Char.isDigit ≠ '$' :: more := by
        rintro more hmore
        rw [hdrop, List.cons.injEq] at hmore
        rw [hmore.1] at hd
        exact absurd hd (by decide)
      rw [variableLength_of_ne_dollar hc hdollar, hdrop, runsOn, if_pos hd,
        countWhile_of_head (by simpa using hdigit)]
    · exact absurd rfl h

end Token

end LineBasic

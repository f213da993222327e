import Mathlib.Data.List.TakeWhile
import LineBasic.Proofs.Grammar.Printing

/-!
# Words

A word is a capital letter with capital letters, digits, underscores and dollar signs behind it. It
stands for something only as a whole: for a variable or for a constant. What is left of a word
behind a variable that is shorter starts with a digit or a dollar sign, and what is left of it
behind a name with a dollar sign. No symbol starts with these, so the text does not go on, not even
where `AND` or `OR` is written in it.
-/

namespace LineBasic

open Unread
open Token (Clear isLetter isWordStart isWordPart runsOn IsVariable)

namespace Token

theorem isWordPart_of_isLetter {c : Char} (h : isLetter c = true) : isWordPart c = true := by
  rw [isWordPart, isWordStart, h, Bool.true_or, Bool.true_or]

theorem isWordPart_of_isWordStart {c : Char} (h : isWordStart c = true) :
    isWordPart c = true := by
  rw [isWordPart, h, Bool.true_or]

theorem countWhile_eq_length {p : Char → Bool} {cs : List Char} :
    countWhile p cs = cs.length ↔ ∀ c ∈ cs, p c = true := by
  rw [← List.takeWhile_eq_self_iff]
  constructor
  · exact (List.takeWhile_prefix p).eq_of_length
  · exact congrArg List.length

/-! ## Words -/

/-- What a word is made of: capital letters, digits, underscores and dollar signs. -/
def isLettering (c : Char) : Bool := isWordPart c || c == '$'

/-- A word: it starts with a letter. -/
def Lettered (cs : List Char) : Prop :=
  ∃ c rest, cs = c :: rest ∧ isLetter c = true ∧ ∀ d ∈ rest, isLettering d = true

/-- The characters of a word that are not part of a name. -/
theorem eq_dollar_of_isLettering {c : Char} (h : isLettering c = true)
    (hpart : isWordPart c = false) : c = '$' := by
  rw [isLettering, hpart, Bool.false_or] at h
  exact beq_iff_eq.mp h

theorem isLettering_of_isWordPart {c : Char} (h : isWordPart c = true) :
    isLettering c = true := by
  rw [isLettering, h, Bool.true_or]

theorem Lettered.isLettering {cs : List Char} (h : Lettered cs) :
    ∀ c ∈ cs, isLettering c = true := by
  obtain ⟨c, rest, rfl, hc, hrest⟩ := h
  intro d hd
  rcases List.mem_cons.mp hd with rfl | hd
  · exact isLettering_of_isWordPart (isWordPart_of_isLetter hc)
  · exact hrest d hd

/-- A name ends where no character of a name follows. -/
theorem head_of_nameLength {s r : List Char} (h : nameLength (s ++ r) = s.length) (hs : s ≠ []) :
    ∀ c ∈ r.head?, isWordPart c = false := by
  match s, hs with
  | [c], _ =>
    cases r with
    | nil => nofun
    | cons d r =>
        rw [List.cons_append, List.nil_append, nameLength_cons_cons, List.length_singleton] at h
        split at h <;> omega
  | c :: d :: s, _ =>
    rw [List.cons_append, List.cons_append, nameLength_cons_cons, List.length_cons,
      List.length_cons] at h
    have hcount : countWhile isWordPart (s ++ r) = s.length := by
      split at h <;> omega
    have hdrop := drop_countWhile isWordPart (s ++ r)
    rw [hcount, List.drop_left] at hdrop
    have hnot := List.head?_dropWhile_not isWordPart (s ++ r)
    rw [← hdrop] at hnot
    intro e he
    rw [Option.mem_def.mp he] at hnot
    simpa using hnot

/-- The tokens that are variables. -/
theorem isToken_variable_iff {w : String} :
    IsToken variableLength w ↔ IsVariable w.toList := by
  have hclear : Clear [] := nofun
  constructor
  · rintro ⟨hne, hlength⟩
    exact (isVariable_of_length (r := []) (by rw [List.append_nil]; exact hlength) hne hclear).1
  · intro h
    have hlength := h.length_append hclear rfl
    rw [List.append_nil] at hlength
    obtain ⟨c, digits, tail, hw, -⟩ := h
    exact ⟨by rw [hw]; exact List.cons_ne_nil _ _, hlength⟩

/-- The tokens that are names. -/
theorem isToken_name_iff {w : String} :
    IsToken nameLength w ↔ ∃ c d rest, w.toList = c :: d :: rest ∧ isLetter c = true ∧
      isWordStart d = true ∧ ∀ e ∈ rest, isWordPart e = true := by
  constructor
  · rintro ⟨hne, hlength⟩
    match hw : w.toList, hne with
    | [c], _ =>
      rw [hw] at hlength
      cases hlength
    | c :: d :: rest, _ =>
      rw [hw, nameLength_cons_cons, List.length_cons, List.length_cons] at hlength
      split at hlength
      · next hcd =>
        obtain ⟨hc, hd⟩ := Bool.and_eq_true_iff.mp hcd
        exact ⟨c, d, rest, rfl, hc, hd, countWhile_eq_length.mp (by omega)⟩
      · cases hlength
  · rintro ⟨c, d, rest, hw, hc, hd, hrest⟩
    rw [IsToken, hw, nameLength_cons_cons, hc, hd, countWhile_eq_length.mpr hrest]
    refine ⟨List.cons_ne_nil _ _, ?_⟩
    rw [List.length_cons, List.length_cons, Bool.and_self, if_pos rfl]
    omega

/-- Among words, the names are those with a letter or an underscore in the second place and without
a dollar sign. -/
theorem Lettered.isToken_name_iff {w : String} (h : Lettered w.toList) :
    IsToken nameLength w ↔ runsOn w.toList.tail = true ∧ '$' ∉ w.toList := by
  rw [Token.isToken_name_iff]
  constructor
  · rintro ⟨c, d, rest, hw, hc, hd, hrest⟩
    refine ⟨by rw [hw]; exact hd, ?_⟩
    have hpart : ∀ e ∈ w.toList, isWordPart e = true := by
      rw [hw]
      refine List.forall_mem_cons.mpr ⟨isWordPart_of_isLetter hc, ?_⟩
      exact List.forall_mem_cons.mpr ⟨isWordPart_of_isWordStart hd, hrest⟩
    intro hdollar
    exact absurd (hpart '$' hdollar) (by decide)
  · rintro ⟨hruns, hdollar⟩
    have hlettering := h.isLettering
    obtain ⟨c, rest, hw, hc, -⟩ := h
    rw [hw] at hruns hdollar hlettering
    cases rest with
    | nil => cases hruns
    | cons d rest =>
        refine ⟨c, d, rest, hw, hc, hruns, ?_⟩
        intro e he
        have hmem : e ∈ c :: d :: rest := List.mem_cons_of_mem _ (List.mem_cons_of_mem _ he)
        by_cases hpart : isWordPart e = true
        · exact hpart
        · rw [eq_dollar_of_isLettering (hlettering e hmem) (by simpa using hpart)] at hmem
          exact absurd hmem hdollar

theorem lettered_of_isToken_name {w : String} (h : IsToken nameLength w) : Lettered w.toList := by
  obtain ⟨c, d, rest, hw, hc, hd, hrest⟩ := isToken_name_iff.mp h
  refine ⟨c, d :: rest, hw, hc, List.forall_mem_cons.mpr ⟨?_, ?_⟩⟩
  · exact isLettering_of_isWordPart (isWordPart_of_isWordStart hd)
  · exact fun e he => isLettering_of_isWordPart (hrest e he)

end Token

open Token (Lettered)

/-! ## What is left of a word behind a token -/

section Left

variable {cs rest : List Char} {s : String}

theorem Token.Lettered.skip_eq (h : Lettered cs) : skip cs = cs := by
  obtain ⟨c, rest, rfl, hc, -⟩ := h
  rw [skip, List.dropWhile_cons_of_neg]
  simpa using isGap_of_isInk (Token.isInk_of_isLetter hc)

/-- What is left of a word is made of the characters of words. -/
theorem isLettering_of_token? {length : List Char → Nat} (hm : Measures length)
    (hcs : Lettered cs) (h : token? length cs = some (s, rest)) :
    ∀ c ∈ rest, Token.isLettering c = true := by
  obtain ⟨hskip, -⟩ := (token?_eq_some hm).mp h
  rw [hcs.skip_eq] at hskip
  intro c hc
  exact hcs.isLettering c (by rw [hskip]; exact List.mem_append_right _ hc)

/-- Behind a variable that is shorter than the word comes a digit or a dollar sign. -/
theorem eq_nil_of_variable (hcs : Lettered cs)
    (h : token? Token.variableLength cs = some (s, rest)) (hclear : Clear rest) : rest = [] := by
  have hlettering := isLettering_of_token? measures_variable hcs h
  obtain ⟨-, hs, hlength⟩ := (token?_eq_some measures_variable).mp h
  obtain ⟨-, hruns⟩ := Token.isVariable_of_length hlength hs hclear
  cases rest with
  | nil => rfl
  | cons c rest =>
      obtain ⟨hdigit, hdollar⟩ := hclear c rfl
      have hpart : isWordPart c = false := by
        rw [isWordPart, hdigit, Bool.or_false]
        exact hruns
      exact absurd (Token.eq_dollar_of_isLettering (hlettering c List.mem_cons_self) hpart) hdollar

/-- Behind a name that is shorter than the word comes a dollar sign. -/
theorem head_eq_dollar_of_name (hcs : Lettered cs)
    (h : token? Token.nameLength cs = some (s, rest)) : ∀ c ∈ rest.head?, c = '$' := by
  have hlettering := isLettering_of_token? measures_name hcs h
  obtain ⟨-, hs, hlength⟩ := (token?_eq_some measures_name).mp h
  intro c hc
  exact Token.eq_dollar_of_isLettering (hlettering c (List.mem_of_mem_head? hc))
    (Token.head_of_nameLength hlength hs c hc)

theorem eq_nil_of_name (hcs : Lettered cs) (h : token? Token.nameLength cs = some (s, rest))
    (hclear : Clear rest) : rest = [] := by
  cases rest with
  | nil => rfl
  | cons c rest => exact absurd (head_eq_dollar_of_name hcs h c rfl) (hclear c rfl).2

/-- Where a symbol comes next, neither a digit nor a dollar sign does. -/
theorem symbol?_none_of_clear (hs : IsSymbol s) (h : Clear rest → rest = []) :
    symbol? s rest = none := by
  cases hsymbol : symbol? s rest with
  | none => rfl
  | some rest' =>
      have hlt := symbol?_length_lt hs hsymbol
      rw [h (symbol?_clear hs hsymbol)] at hlt
      exact absurd hlt (Nat.not_lt_zero _)

/-- What is left of a word does not go on from what was read. -/
theorem ReadsRest.eq_of_clear {low high : Level} {left e : Expr} {rest' : List Char}
    (hread : ReadsRest low high left rest e rest') (h : Clear rest → rest = []) :
    e = left ∧ rest' = rest := by
  cases hread with
  | stop _ => exact ⟨rfl, rfl⟩
  | operator hop _ _ =>
      have hsymbol := symbol?_of_operator? (between?_eq_some.mp hop).1
      rw [symbol?_none_of_clear (isSymbol_operator _) h] at hsymbol
      cases hsymbol

/-- No expression starts with a dollar sign. -/
theorem not_readsExpr_of_dollar {low : Level} {e : Expr} {rest' : List Char}
    (h : ∀ c ∈ rest.head?, c = '$') : ¬ ReadsExpr low rest e rest' := by
  intro hread
  cases rest with
  | nil => exact absurd hread.length_lt (Nat.not_lt_zero _)
  | cons c rest =>
      have hopens : Opens (· == '$') (c :: rest) := by
        rw [h c rfl]
        exact ⟨'$', rest, rfl, rfl⟩
      have hnone {length : List Char → Nat} {p : Char → Bool}
          (hp : ∀ {c : Char} {tail : List Char}, length (c :: tail) ≠ 0 → p c = true)
          (hdollar : p '$' = false) : token? length (c :: rest) = none :=
        token?_none_of_opens hp (fun d hd => by rw [beq_iff_eq.mp hd]; exact hdollar) hopens
      have hvariable := hnone Token.isLetter_of_variableLength (by decide)
      have hname := hnone Token.isLetter_of_nameLength (by decide)
      obtain ⟨hoperand, -⟩ := hread
      cases hoperand with
      | unary hsign _ =>
          have hsymbol := symbol?_of_sign? hsign
          rw [symbol?_none_of_opens (isSymbol_sign _) (by cases ‹UnaryOp› <;> decide) hopens]
            at hsymbol
          cases hsymbol
      | atom _ hatom =>
          cases hatom with
          | number h => simp [hnone startsNumber_of_length (by decide)] at h
          | literal h => simp [hnone startsLiteral_of_length (by decide)] at h
          | var h _ => simp [hvariable] at h
          | element h _ _ _ => simp [hvariable] at h
          | constant h _ => simp [hname] at h
          | callNone h _ _ => simp [hname] at h
          | call h _ _ => simp [hname] at h
          | group h _ _ =>
              rw [symbol?_none_of_opens (by decide) (by decide) hopens] at h
              cases h

end Left

/-! ## What a word stands for -/

section Words

variable {w : String} {e : Expr}

theorem Token.Lettered.opens {cs : List Char} (h : Lettered cs) : Opens isLetter cs := by
  have hskip := h.skip_eq
  obtain ⟨c, tail, hcons, hc, -⟩ := h
  exact ⟨c, tail, hskip.trans hcons, hc⟩

/-- What is read off a word is one token, and nothing goes on from it. -/
theorem ReadsAtom.of_lettered {cs rest : List Char} (hcs : Lettered cs)
    (h : ReadsAtom cs e rest) : (Clear rest → rest = []) ∧
      ((∃ s, e = .var s ∧ token? Token.variableLength cs = some (s, rest)) ∨
        ∃ s, e = .constant s ∧ token? Token.nameLength cs = some (s, rest)) := by
  obtain ⟨hnumber, hliteral⟩ := number_literal_none (c := { rest := cs }) hcs.opens
  cases h with
  | number h => simp [hnumber] at h
  | literal h => simp [hliteral] at h
  | var h _ => exact ⟨eq_nil_of_variable hcs h, .inl ⟨_, rfl, h⟩⟩
  | element h hopen _ _ =>
      rw [symbol?_none_of_clear (by decide) (eq_nil_of_variable hcs h)] at hopen
      cases hopen
  | constant h _ => exact ⟨eq_nil_of_name hcs h, .inr ⟨_, rfl, h⟩⟩
  | callNone h hopen _ =>
      rw [symbol?_none_of_clear (by decide) (eq_nil_of_name hcs h)] at hopen
      cases hopen
  | call h hopen _ =>
      rw [symbol?_none_of_clear (by decide) (eq_nil_of_name hcs h)] at hopen
      cases hopen
  | group hopen _ _ =>
      rw [symbol?_none_of_opens (by decide) (by decide) hcs.opens] at hopen
      cases hopen

/-- An operand that starts with a word has no operator in front. -/
theorem ReadsOperand.of_lettered {low high : Level} {cs rest : List Char} (hcs : Lettered cs)
    (h : ReadsOperand low cs e high rest) : sign? low cs = none ∧ ReadsAtom cs e rest := by
  cases h with
  | unary hsign he =>
      rcases sign?_eq_some.mp hsign with ⟨-, -, hnot⟩ | ⟨-, hminus⟩ | ⟨-, hplus⟩
      · exact absurd he
          (not_readsExpr_of_dollar (head_eq_dollar_of_name hcs (word?_eq_some.mp hnot)))
      · rw [symbol?_none_of_opens (by decide) (by decide) hcs.opens] at hminus
        cases hminus
      · rw [symbol?_none_of_opens (by decide) (by decide) hcs.opens] at hplus
        cases hplus
  | atom hsign ha => exact ⟨hsign, ha⟩

/-- A token that takes a whole word is the word. -/
theorem isToken_of_token? {length : List Char → Nat} {s : String} (hm : Measures length)
    (hw : Lettered w.toList) (h : token? length w.toList = some (s, [])) :
    s = w ∧ IsToken length w := by
  obtain ⟨hskip, hs, hlength⟩ := (token?_eq_some hm).mp h
  rw [hw.skip_eq, List.append_nil] at hskip
  rw [List.append_nil, ← hskip] at hlength
  rw [← hskip] at hs
  exact ⟨(String.toList_inj.mp hskip).symm, hs, hlength⟩

/-- A leaf is read from its own text. -/
theorem parseExpression_leaf (hvalid : e.Valid) (htokens : e.tokens = [w]) :
    parseExpression w = .ok e := by
  have hspells : Spells e.tokens w.toList [] := by
    rw [htokens]
    exact (Spaced.single w).spells
  exact parseExpression_eq_ok.mpr ⟨[], (e.rereads hvalid).closed hspells (.inl rfl), rfl⟩

/-- A word is read only as a whole, as a variable or as a constant. -/
theorem parseExpression_lettered (hw : Lettered w.toList) :
    parseExpression w = .ok e ↔
      (e = .var w ∧ IsVariable w.toList) ∨ (e = .constant w ∧ IsName w) := by
  rw [← Token.isToken_variable_iff]
  constructor
  · intro h
    obtain ⟨rest, ⟨hoperand, hrest⟩, hend⟩ := parseExpression_eq_ok.mp h
    obtain ⟨hsign, hatom⟩ := hoperand.of_lettered hw
    obtain ⟨hclear, hleaf⟩ := hatom.of_lettered hw
    obtain ⟨rfl, rfl⟩ := hrest.eq_of_clear hclear
    have hnil : rest = [] := hclear (clear_of_skip (by rw [hend]; nofun))
    subst hnil
    rcases hleaf with ⟨s, rfl, htoken⟩ | ⟨s, rfl, htoken⟩
    · obtain ⟨rfl, hvariable⟩ := isToken_of_token? measures_variable hw htoken
      exact .inl ⟨rfl, hvariable⟩
    · obtain ⟨rfl, hname⟩ := isToken_of_token? measures_name hw htoken
      refine .inr ⟨rfl, hname, ?_⟩
      rintro rfl
      cases hsign
  · rintro (⟨rfl, hvariable⟩ | ⟨rfl, hname⟩)
    · exact parseExpression_leaf hvariable rfl
    · exact parseExpression_leaf hname rfl

/-- Whatever is wrong with the text of an expression, it is said of the text as a whole. -/
theorem parseExpression_error {text : String} {fault : Fault}
    (h : parseExpression text = .error fault) :
    ∃ position, fault = .parse (.unexpected text position) none := by
  rw [parseExpression, Scan.whole] at h
  split at h
  · cases h
  · next position _ =>
    cases h
    exact ⟨position, rfl⟩

/-- Words are classified. A word is read as a variable exactly if it is a letter with digits and
perhaps a dollar sign at the end. It is read as a constant exactly if the letter it starts with is
followed by a letter or an underscore, there is no dollar sign in it, and it is not `NOT`. Every
other word is rejected, so none is ever taken apart. -/
theorem parseExpression_word (hw : Lettered w.toList) :
    (parseExpression w = .ok (.var w) ↔ IsVariable w.toList) ∧
      (parseExpression w = .ok (.constant w) ↔
        runsOn w.toList.tail = true ∧ '$' ∉ w.toList ∧ w ≠ "NOT") ∧
      (¬ IsVariable w.toList → ¬ (runsOn w.toList.tail = true ∧ '$' ∉ w.toList ∧ w ≠ "NOT") →
        ∃ position, parseExpression w = .error (.parse (.unexpected w position) none)) ∧
      ∀ e, parseExpression w = .ok e → e = .var w ∨ e = .constant w := by
  have hname : IsName w ↔ runsOn w.toList.tail = true ∧ '$' ∉ w.toList ∧ w ≠ "NOT" := by
    rw [IsName, hw.isToken_name_iff, and_assoc]
  refine ⟨?_, ?_, ?_, ?_⟩
  · rw [parseExpression_lettered hw]
    simp
  · rw [parseExpression_lettered hw, hname]
    simp
  · intro hvariable hconstant
    cases h : parseExpression w with
    | error fault =>
        obtain ⟨position, rfl⟩ := parseExpression_error h
        exact ⟨position, rfl⟩
    | ok e =>
        rcases (parseExpression_lettered hw).mp h with ⟨-, hv⟩ | ⟨-, hn⟩
        · exact absurd hv hvariable
        · exact absurd (hname.mp hn) hconstant
  · intro e h
    exact ((parseExpression_lettered hw).mp h).imp And.left And.left

/-- A variable, a constant with an operator in its name, and a word that is neither. -/
theorem parseExpression_word_samples :
    (Lettered "B2$".toList ∧ parseExpression "B2$" = .ok (.var "B2$")) ∧
      (Lettered "MODE_1".toList ∧ parseExpression "MODE_1" = .ok (.constant "MODE_1")) ∧
      Lettered "A1AND2".toList ∧
        ∃ position, parseExpression "A1AND2" =
          .error (.parse (.unexpected "A1AND2" position) none) := by
  have hlettered (c : Char) (rest : List Char)
      (h : (isLetter c && rest.all Token.isLettering) = true) : Lettered (c :: rest) := by
    obtain ⟨hc, hrest⟩ := Bool.and_eq_true_iff.mp h
    exact ⟨c, rest, rfl, hc, List.all_eq_true.mp hrest⟩
  have hvariable : Lettered "B2$".toList := hlettered 'B' ['2', '$'] (by decide)
  have hconstant : Lettered "MODE_1".toList := hlettered 'M' "ODE_1".toList (by decide)
  have hneither : Lettered "A1AND2".toList := hlettered 'A' "1AND2".toList (by decide)
  refine ⟨⟨hvariable, (parseExpression_word hvariable).1.mpr ?_⟩,
    ⟨hconstant, (parseExpression_word hconstant).2.1.mpr (by decide)⟩,
    hneither, (parseExpression_word hneither).2.2.1 ?_ (by decide)⟩
  · exact ⟨'B', ['2'], ['$'], rfl, by decide, by simp, .inr rfl⟩
  · rw [← Token.isToken_variable_iff]
    exact fun h => absurd h.2 (by decide)

/-- Letters that follow each other later in a word do not make it a constant. -/
theorem parseExpression_late_letters :
    Lettered "A1BC".toList ∧ '$' ∉ "A1BC".toList ∧ "A1BC" ≠ "NOT" ∧
      (∃ front a b back, "A1BC".toList = front ++ a :: b :: back ∧ isLetter a = true ∧
        isWordStart b = true) ∧
      parseExpression "A1BC" ≠ .ok (.constant "A1BC") ∧
      parseExpression "A1BC" = .error (.parse (.unexpected "A1BC" 1) none) := by
  have hparse : parseExpression "A1BC" = .error (.parse (.unexpected "A1BC" 1) none) := by
    with_unfolding_all rfl
  refine ⟨⟨'A', "1BC".toList, rfl, by decide, List.all_eq_true.mp (by decide)⟩, by decide,
    by decide, ⟨['A', '1'], 'B', 'C', [], rfl, by decide, by decide⟩, ?_, hparse⟩
  rw [hparse]
  nofun

end Words

end LineBasic

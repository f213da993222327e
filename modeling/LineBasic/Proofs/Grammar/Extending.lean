import LineBasic.Proofs.Grammar.Cutting

/-!
# More text behind an expression

Putting text behind an expression is the opposite of cutting it off. A text that starts with a gap,
and goes on with nothing that an expression could take, leaves the expression as it was
(`ReadsExpr.extend`). So an expression of a line can be moved in front of any such text: it is read
with its own text and no more (`Formula.Stands.reads`).
-/

namespace LineBasic

open Unread
open Token (Bounded Clear)

namespace Token

theorem Bounded.runsOn_append {b : List Char} (h : Bounded b) (a : List Char) :
    runsOn (a ++ b) = runsOn a := by
  cases a with
  | cons c a => rfl
  | nil =>
      cases b with
      | nil => rfl
      | cons d b => exact h.head (p := isWordStart) (by decide) d rfl

theorem Bounded.dropWhile_append {b : List Char} (h : Bounded b) (a : List Char) :
    (a ++ b).dropWhile Char.isDigit = a.dropWhile Char.isDigit ++ b := by
  cases hdrop : a.dropWhile Char.isDigit with
  | nil => rw [dropWhile_append_of_nil hdrop, h.clear.dropWhile, List.nil_append]
  | cons c tail => exact dropWhile_append_of_cons hdrop b

theorem variableLength_append {a b : List Char} (h : Bounded b) :
    variableLength (a ++ b) = variableLength a := by
  cases a with
  | nil =>
      cases b with
      | nil => rfl
      | cons d b =>
          have hletter : isLetter d = false := h.head (p := isLetter) (by decide) d rfl
          simp [variableLength, hletter]
  | cons c rest =>
      have hcount : countWhile Char.isDigit (rest ++ b) = countWhile Char.isDigit rest :=
        countWhile_append_of_head (h.head (by decide))
      by_cases hc : isLetter c = true
      · rcases dollar_or_not rest with ⟨more, hmore⟩ | hmore
        · rw [List.cons_append, variableLength_of_dollar hc hmore,
            variableLength_of_dollar hc (dropWhile_append_of_cons hmore b), h.runsOn_append, hcount]
        · have hmore' : ∀ more, (rest ++ b).dropWhile Char.isDigit ≠ '$' :: more := by
            intro more hdollar
            rw [h.dropWhile_append] at hdollar
            cases hdrop : rest.dropWhile Char.isDigit with
            | nil =>
                rw [hdrop, List.nil_append] at hdollar
                exact absurd (h '$' (by rw [hdollar]; rfl)) (by decide)
            | cons d tail =>
                rw [hdrop, List.cons_append, List.cons.injEq] at hdollar
                exact hmore tail (by rw [hdrop, hdollar.1])
          rw [List.cons_append, variableLength_of_ne_dollar hc hmore,
            variableLength_of_ne_dollar hc hmore', h.dropWhile_append, h.runsOn_append, hcount]
      · simp [variableLength, hc]

end Token

namespace Unread

variable {s w : String} {low high : Level} {length : List Char → Nat} {cs tail : List Char}

/-! ## Readers in front of a gap -/

theorem symbol?_append_of_bounded (hs : IsSymbol s) (hcs : skip cs ≠ []) (htail : Bounded tail) :
    symbol? s (cs ++ tail) = (symbol? s cs).map (· ++ tail) := by
  cases hsymbol : symbol? s cs with
  | some rest => exact symbol?_append hs hsymbol tail
  | none =>
      rw [Option.map_none, Option.eq_none_iff_forall_ne_some]
      intro rest hrest
      rw [symbol?_eq_some, skip_append hcs] at hrest
      rcases List.append_eq_append_iff.mp hrest with ⟨more, hmore, htail'⟩ | ⟨more, hmore, -⟩
      · -- the symbol would reach into the tail, which starts with a gap
        cases more with
        | nil =>
            rw [List.append_nil] at hmore
            rw [symbol?_eq_some.mpr (by rw [hmore, List.append_nil])] at hsymbol
            cases hsymbol
        | cons c more =>
            have hgap := htail c (by rw [htail']; rfl)
            have hink := (hs.2 c (by rw [hmore]; simp)).1
            rw [Token.isInk, Text.isBlank_of_isGap hgap] at hink
            cases hink
      · rw [symbol?_eq_some.mpr hmore] at hsymbol
        cases hsymbol

theorem token?_append_of_bounded (hm : Measures length) (hcs : skip cs ≠ [])
    (happend : ∀ a : List Char, length (a ++ tail) = length a) :
    token? length (cs ++ tail) =
      (token? length cs).map fun found => (found.1, found.2 ++ tail) := by
  have hle := hm.le (skip cs)
  rw [token?, token?, skip_append hcs, happend]
  split
  · rfl
  · rw [List.take_append_of_le_length hle, List.drop_append_of_le_length hle]
    rfl

theorem word?_append_of_bounded (hcs : skip cs ≠ []) (htail : Bounded tail) :
    word? w (cs ++ tail) = (word? w cs).map (· ++ tail) := by
  rw [word?, word?,
    token?_append_of_bounded measures_name hcs fun _ => Token.nameLength_append htail]
  cases token? Token.nameLength cs with
  | none => rfl
  | some found =>
      dsimp only [Option.map_some]
      split <;> rfl

theorem operator?_append_of_bounded (hcs : skip cs ≠ []) (htail : Bounded tail) :
    operator? (cs ++ tail) = (operator? cs).map fun found => (found.1, found.2 ++ tail) := by
  rw [operator?, operator?, List.map_findSome?]
  congr 1
  funext op
  rw [symbol?_append_of_bounded (isSymbol_operator op) hcs htail, Function.comp_apply,
    Option.map_map, Option.map_map]
  rfl

theorem sign?_append_of_bounded (hcs : skip cs ≠ []) (htail : Bounded tail) :
    sign? low (cs ++ tail) = (sign? low cs).map fun found => (found.1, found.2 ++ tail) := by
  have hword := word?_append_of_bounded (w := "NOT") hcs htail
  have hminus := symbol?_append_of_bounded (s := "-") (by decide) hcs htail
  have hplus := symbol?_append_of_bounded (s := "+") (by decide) hcs htail
  cases hsign : sign? low cs with
  | none =>
      obtain ⟨hnot, hneg, hpos⟩ := sign?_eq_none.mp hsign
      refine sign?_eq_none.mpr ⟨fun hlow => ?_, ?_, ?_⟩
      · rw [hword, hnot hlow]
        rfl
      · rw [hminus, hneg]
        rfl
      · rw [hplus, hpos]
        rfl
  | some found =>
      obtain ⟨op, rest⟩ := found
      apply sign?_eq_some.mpr
      rcases sign?_eq_some.mp hsign with ⟨rfl, hlow, hnot⟩ | ⟨rfl, hneg⟩ | ⟨rfl, hpos⟩
      · exact .inl ⟨rfl, hlow, by rw [hword, hnot]; rfl⟩
      · exact .inr (.inl ⟨rfl, by rw [hminus, hneg]; rfl⟩)
      · exact .inr (.inr ⟨rfl, by rw [hplus, hpos]; rfl⟩)

theorem skip_ne_nil_of_opens {p : Char → Bool} (h : Opens p cs) : skip cs ≠ [] := by
  obtain ⟨c, rest, hskip, -⟩ := h
  rw [hskip]
  exact List.cons_ne_nil c rest

theorem skip_ne_nil_of_symbol? {rest : List Char} (hs : IsSymbol s) (h : symbol? s cs = some rest) :
    skip cs ≠ [] := by
  rw [symbol?_eq_some.mp h]
  exact fun hnil => hs.1 (List.append_eq_nil_iff.mp hnil).1

end Unread

/-- What may stand behind an expression without being taken for a part of it: a gap, or nothing,
and then neither a bracket nor an operator. -/
structure Breaks (tail : List Char) : Prop where
  bounded : Bounded tail
  bracket : symbol? "[" tail = none
  parenthesis : symbol? "(" tail = none
  operator : operator? tail = none

namespace Breaks

variable {s : String} {low high : Level} {cs tail : List Char}

/-- A symbol that comes next neither in a text nor in what is put behind it does not come next. -/
theorem symbol?_append (h : Breaks tail) (hs : IsSymbol s) (hcs : symbol? s cs = none)
    (htail : symbol? s tail = none) : symbol? s (cs ++ tail) = none := by
  by_cases hskip : skip cs = []
  · rw [symbol?_of_skip (skip_append_of_gaps (isGap_of_skip_eq_nil hskip) tail)]
    exact htail
  · rw [symbol?_append_of_bounded hs hskip h.bounded, hcs]
    rfl

theorem between?_append (h : Breaks tail) (hcs : between? low high cs = none) :
    between? low high (cs ++ tail) = none := by
  by_cases hskip : skip cs = []
  · have hsame : operator? (cs ++ tail) = operator? tail := by
      simp only [operator?,
        symbol?_of_skip (skip_append_of_gaps (isGap_of_skip_eq_nil hskip) tail)]
    rw [between?, hsame, h.operator]
    rfl
  · rw [between?_eq_none] at hcs ⊢
    intro op rest hop
    rw [operator?_append_of_bounded hskip h.bounded] at hop
    obtain ⟨found, hfound, heq⟩ := Option.map_eq_some_iff.mp hop
    cases heq
    exact hcs found.1 found.2 hfound

end Breaks

theorem between?_append_some {low high : Level} {op : BinaryOp} {cs rest tail : List Char}
    (h : between? low high cs = some (op, rest)) (htail : Bounded tail) :
    between? low high (cs ++ tail) = some (op, rest ++ tail) := by
  obtain ⟨hop, hlevel⟩ := between?_eq_some.mp h
  have hskip := skip_ne_nil_of_symbol? (isSymbol_operator op) (symbol?_of_operator? hop)
  refine between?_eq_some.mpr ⟨?_, hlevel⟩
  rw [operator?_append_of_bounded hskip htail, hop]
  rfl

theorem token?_append_some {length : List Char → Nat} {s : String} {cs rest tail : List Char}
    (hm : Measures length) (h : token? length cs = some (s, rest))
    (happend : ∀ a : List Char, length a ≠ 0 → length (a ++ tail) = length a) :
    token? length (cs ++ tail) = some (s, rest ++ tail) := by
  obtain ⟨hskip, hs, hlength⟩ := (token?_eq_some hm).mp h
  have hne : skip cs ≠ [] := by
    rw [hskip]
    exact fun hnil => hs (List.append_eq_nil_iff.mp hnil).1
  refine (token?_eq_some hm).mpr ⟨?_, hs, ?_⟩
  · rw [skip_append hne, hskip, List.append_assoc]
  · rw [← List.append_assoc, happend _ (by rw [hlength]; simpa using hs), hlength]

mutual

/-- An expression is read as before when something that breaks it off is put behind the text. -/
theorem ReadsExpr.extend {low : Level} {cs cs' tail : List Char} {e : Expr} (htail : Breaks tail) :
    ReadsExpr low cs e cs' → ReadsExpr low (cs ++ tail) e (cs' ++ tail)
  | .operand hoperand hrest => .operand (hoperand.extend htail) (hrest.extend htail)

theorem ReadsOperand.extend {low high : Level} {cs cs' tail : List Char} {e : Expr}
    (htail : Breaks tail) :
    ReadsOperand low cs e high cs' → ReadsOperand low (cs ++ tail) e high (cs' ++ tail)
  | @ReadsOperand.unary _ op _ _ _ _ hsign he => by
      have hskip := skip_ne_nil_of_symbol? (isSymbol_sign op) (symbol?_of_sign? hsign)
      refine .unary ?_ (he.extend htail)
      rw [sign?_append_of_bounded hskip htail.bounded, hsign]
      rfl
  | .atom hsign ha => by
      have hskip := skip_ne_nil_of_opens ha.opens
      refine .atom ?_ (ha.extend htail)
      rw [sign?_append_of_bounded hskip htail.bounded, hsign]
      rfl

theorem ReadsAtom.extend {cs cs' tail : List Char} {e : Expr} (htail : Breaks tail) :
    ReadsAtom cs e cs' → ReadsAtom (cs ++ tail) e (cs' ++ tail)
  | .number h =>
      .number (token?_append_some measures_number h
        fun _ _ => Token.numberLength_append htail.bounded)
  | .literal h =>
      .literal (token?_append_some measures_literal h
        fun _ hne => Token.literalLength_append hne tail)
  | .var h hopen =>
      .var (token?_append_some measures_variable h
        fun _ _ => Token.variableLength_append htail.bounded)
        (htail.symbol?_append (by decide) hopen htail.bracket)
  | .element h hopen he hclose =>
      .element (token?_append_some measures_variable h
        fun _ _ => Token.variableLength_append htail.bounded)
        (symbol?_append (by decide) hopen tail) (he.extend htail)
        (symbol?_append (by decide) hclose tail)
  | .constant h hopen =>
      .constant (token?_append_some measures_name h
        fun _ _ => Token.nameLength_append htail.bounded)
        (htail.symbol?_append (by decide) hopen htail.parenthesis)
  | .callNone h hopen hclose =>
      .callNone (token?_append_some measures_name h
        fun _ _ => Token.nameLength_append htail.bounded)
        (symbol?_append (by decide) hopen tail) (symbol?_append (by decide) hclose tail)
  | .call h hopen hargs =>
      .call (token?_append_some measures_name h
        fun _ _ => Token.nameLength_append htail.bounded)
        (symbol?_append (by decide) hopen tail) (hargs.extend htail)
  | .group hopen he hclose =>
      .group (symbol?_append (by decide) hopen tail) (he.extend htail)
        (symbol?_append (by decide) hclose tail)

theorem ReadsArguments.extend {cs cs' tail : List Char} {args : List Expr} (htail : Breaks tail) :
    ReadsArguments cs args cs' → ReadsArguments (cs ++ tail) args (cs' ++ tail)
  | .last he hclose => .last (he.extend htail) (symbol?_append (by decide) hclose tail)
  | .more he hcomma hargs =>
      .more (he.extend htail) (symbol?_append (by decide) hcomma tail) (hargs.extend htail)

theorem ReadsRest.extend {low high : Level} {left e : Expr} {cs cs' tail : List Char}
    (htail : Breaks tail) :
    ReadsRest low high left cs e cs' → ReadsRest low high left (cs ++ tail) e (cs' ++ tail)
  | .stop hop => .stop (htail.between?_append hop)
  | .operator hop he hrest =>
      .operator (between?_append_some hop htail.bounded) (he.extend htail) (hrest.extend htail)

end

/-! ## The text of a formula -/

/-- The text that is kept with an expression is read as it, from its first character to its last.
-/
def Formula.Stands (f : Formula) : Prop := ReadsFormula f.text.toList f []

theorem ReadsFormula.stands {cs rest : List Char} {f : Formula} (h : ReadsFormula cs f rest)
    (hclear : Clear rest) : f.Stands := by
  obtain ⟨x, rfl, hread⟩ := h.1.cut (List.nil_append rest).symm hclear
  have htext : skip x = f.text.toList := by
    have hsame := h.2
    rw [skip_append (skip_ne_nil_of_opens hread.opens)] at hsame
    exact List.append_cancel_right hsame
  have hself : skip f.text.toList = f.text.toList := by rw [← htext, skip_skip]
  refine ⟨hread.of_skip (by rw [hself, htext]), ?_⟩
  rw [hself, List.append_nil]

namespace Formula.Stands

variable {f : Formula}

theorem opens (h : f.Stands) : Opens opensExpr f.text.toList := h.1.opens

theorem skip_text (h : f.Stands) : skip f.text.toList = f.text.toList := by
  rw [h.2, List.append_nil]

theorem text_ne_nil (h : f.Stands) : f.text.toList ≠ [] := by
  rw [← h.skip_text]
  exact skip_ne_nil_of_opens h.opens

theorem solid (h : f.Stands) : Solid f.text.toList := by
  obtain ⟨w, hw, hsolid⟩ := h.1.takes
  rw [hw, List.append_nil]
  exact hsolid

/-- The expression is read off the front of any text that breaks it off. -/
theorem reads {cs tail : List Char} (h : f.Stands) (hcs : skip cs = f.text.toList ++ tail)
    (htail : Breaks tail) : ReadsFormula cs f tail := by
  refine ⟨(h.1.extend htail).of_skip ?_, hcs⟩
  rw [hcs, skip_append (by rw [h.skip_text]; exact h.text_ne_nil), h.skip_text]

end Formula.Stands

/-- A name at the start of an expression belongs to it. -/
theorem ReadsExpr.name_le {low : Level} {cs cs' cs₁ : List Char} {e : Expr} {s : String}
    (h : ReadsExpr low cs e cs') (hname : token? Token.nameLength cs = some (s, cs₁)) :
    cs'.length ≤ cs₁.length := by
  have hletter (hopens : Opens (fun c => !Token.isLetter c) cs) : False := by
    have hnone := token?_none_of_opens Token.isLetter_of_nameLength (by simp) hopens
    rw [hname] at hnone
    cases hnone
  have hvariable {v : String} {rest : List Char}
      (h : token? Token.variableLength cs = some (v, rest)) : False := by
    have hnone := word?_none_of_variable (w := s) h
    rw [word?_eq_some.mpr hname] at hnone
    cases hnone
  have hsame {v : String} {rest : List Char} (h : token? Token.nameLength cs = some (v, rest)) :
      rest = cs₁ := by
    rw [hname] at h
    cases h
    rfl
  -- only `NOT` and the atoms that start with a name can come first
  obtain ⟨hoperand, hrest⟩ := h
  refine Nat.le_trans hrest.takes.length_le ?_
  cases hoperand with
  | @unary _ op _ _ _ _ hsign he =>
      rcases sign?_eq_some.mp hsign with ⟨-, -, hnot⟩ | ⟨-, hminus⟩ | ⟨-, hplus⟩
      · rw [← hsame (word?_eq_some.mp hnot)]
        exact he.length_le
      · exact (hletter (opens_of_symbol? (by decide) (by decide) hminus)).elim
      · exact (hletter (opens_of_symbol? (by decide) (by decide) hplus)).elim
  | atom _ ha =>
      cases ha with
      | number h =>
          exact (hletter (opens_of_token? measures_number
            (fun h => by simp [isLetter_of_startsNumber (startsNumber_of_length h)]) h)).elim
      | literal h =>
          exact (hletter (opens_of_token? measures_literal
            (fun h => by simp [isLetter_of_startsLiteral (startsLiteral_of_length h)]) h)).elim
      | var h _ => exact (hvariable h).elim
      | element h _ _ _ => exact (hvariable h).elim
      | constant h _ => exact Nat.le_of_eq (congrArg List.length (hsame h))
      | callNone h hopen hclose =>
          rw [← hsame h]
          exact ((symbol?_takes (by decide) hopen).trans
            (symbol?_takes (by decide) hclose)).length_le
      | call h hopen hargs =>
          rw [← hsame h]
          exact ((symbol?_takes (by decide) hopen).trans hargs.takes).length_le
      | group hopen _ _ => exact (hletter (opens_of_symbol? (by decide) (by decide) hopen)).elim

/-- A word that an expression does not start with in a line is not what its own text starts with. -/
theorem ReadsFormula.word?_eq_none {cs rest : List Char} {f : Formula} {w : String}
    (h : ReadsFormula cs f rest) (hf : f.Stands) (hw : word? w cs = none) :
    word? w f.text.toList = none := by
  have hle : Token.nameLength (f.text.toList ++ rest) ≤ f.text.toList.length := by
    by_cases hzero : Token.nameLength (f.text.toList ++ rest) = 0
    · omega
    · have hname : token? Token.nameLength cs = some
          (String.ofList ((f.text.toList ++ rest).take (Token.nameLength (f.text.toList ++ rest))),
            (f.text.toList ++ rest).drop (Token.nameLength (f.text.toList ++ rest))) := by
        rw [token?, h.2, if_neg hzero]
      have hlength := h.1.name_le hname
      have hbound := measures_name.le (f.text.toList ++ rest)
      rw [List.length_drop] at hlength
      rw [List.length_append] at hlength hbound
      omega
  have hcut := Token.nameLength_cut hle
  rw [word?, token?, h.2, ← hcut, List.take_append_of_le_length (by omega)] at hw
  rw [word?, token?, hf.skip_text]
  split at hw
  · next v rest' hv =>
    split at hv
    · cases hv
    · next hzero =>
      cases hv
      rw [if_neg hzero]
      dsimp only
      split at hw
      · cases hw
      · next hne => rw [if_neg hne]
  · next hv =>
    split at hv
    · next hzero => rw [if_pos hzero]
    · cases hv

end LineBasic

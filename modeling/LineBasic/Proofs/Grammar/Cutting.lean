import LineBasic.Proofs.Grammar.Parsing

/-!
# Cutting a text behind an expression

An expression is read off the front of a text, and the reader looks at what follows to know where
the expression ends. When the text is cut behind the expression, the same expression is read
(`ReadsExpr.cut`). The one thing that could go wrong is a variable at the end that was shortened
because letters follow its digits or its dollar sign. Then what is left starts with the digit or the
dollar sign, which the condition `Clear` excludes.

So the text that is kept with an expression is read as that expression again
(`ReadsFormula.reparses`).
-/

namespace LineBasic

open Unread
open Token (Clear)

namespace Unread

variable {low high : Level} {cs rest tail : List Char}

theorem sign?_cut {op : UnaryOp} (h : sign? low cs = some (op, rest ++ tail)) :
    ∃ x, cs = x ++ tail ∧ sign? low x = some (op, rest) := by
  rcases sign?_eq_some.mp h with ⟨rfl, hlow, hnot⟩ | ⟨rfl, hminus⟩ | ⟨rfl, hplus⟩
  · obtain ⟨x, hcs, hx⟩ := word?_cut hnot
    exact ⟨x, hcs, sign?_eq_some.mpr (.inl ⟨rfl, hlow, hx⟩)⟩
  · obtain ⟨x, hcs, hx⟩ := symbol?_cut (by decide) hminus
    exact ⟨x, hcs, sign?_eq_some.mpr (.inr (.inl ⟨rfl, hx⟩))⟩
  · obtain ⟨x, hcs, hx⟩ := symbol?_cut (by decide) hplus
    exact ⟨x, hcs, sign?_eq_some.mpr (.inr (.inr ⟨rfl, hx⟩))⟩

theorem between?_cut {op : BinaryOp} (h : between? low high cs = some (op, rest ++ tail)) :
    ∃ x, cs = x ++ tail ∧ between? low high x = some (op, rest) := by
  obtain ⟨hop, hlevel⟩ := between?_eq_some.mp h
  obtain ⟨x, hcs, hx⟩ := operator?_cut hop
  exact ⟨x, hcs, between?_eq_some.mpr ⟨hx, hlevel⟩⟩

/-- Where no operator of a level goes on, none does in a part of the text: a longer comparison sign
has the level of the shorter one. -/
theorem between?_none_of_append (h : between? low high (cs ++ tail) = none) :
    between? low high cs = none := by
  rw [between?_eq_none] at h ⊢
  intro op rest hop
  obtain ⟨op', rest', hop', hlevel⟩ := operator?_append hop tail
  rw [← hlevel]
  exact h op' rest' hop'

end Unread

/-- A variable in front of what follows an operand has not been shortened, if none is at the end. -/
theorem ReadsRest.clear {low high : Level} {left e : Expr} {cs cs' : List Char}
    (h : ReadsRest low high left cs e cs') (hclear : Clear cs') : Clear cs := by
  cases h with
  | stop _ => exact hclear
  | @operator _ _ op _ _ _ _ _ _ _ hop _ _ =>
      exact symbol?_clear (isSymbol_operator op) (symbol?_of_operator? (between?_eq_some.mp hop).1)

mutual

/-- An expression is read from the part of the text up to it and beyond as it is from the whole. -/
theorem ReadsExpr.cut {low : Level} {cs cs' rest tail : List Char} {e : Expr}
    (hrest : cs' = rest ++ tail) (hclear : Clear cs') :
    ReadsExpr low cs e cs' → ∃ x, cs = x ++ tail ∧ ReadsExpr low x e rest
  | .operand hoperand hfollow => by
      obtain ⟨y, hy, hfollow'⟩ := hfollow.cut hrest hclear
      obtain ⟨x, hx, hoperand'⟩ := hoperand.cut hy (hfollow.clear hclear)
      exact ⟨x, hx, .operand hoperand' hfollow'⟩

theorem ReadsOperand.cut {low high : Level} {cs cs' rest tail : List Char} {e : Expr}
    (hrest : cs' = rest ++ tail) (hclear : Clear cs') :
    ReadsOperand low cs e high cs' → ∃ x, cs = x ++ tail ∧ ReadsOperand low x e high rest
  | .unary hsign he => by
      obtain ⟨y, rfl, he'⟩ := he.cut hrest hclear
      obtain ⟨x, hx, hsign'⟩ := sign?_cut hsign
      exact ⟨x, hx, .unary hsign' he'⟩
  | .atom hsign ha => by
      obtain ⟨x, rfl, ha', hnot⟩ := ha.cut hrest hclear
      obtain ⟨hword, hminus, hplus⟩ := sign?_eq_none.mp hsign
      refine ⟨x, rfl, .atom (sign?_eq_none.mpr ⟨fun hlow => hnot (hword hlow), ?_, ?_⟩) ha'⟩
      · exact symbol?_none_of_append (by decide) hminus
      · exact symbol?_none_of_append (by decide) hplus

-- the last part is needed where `NOT` is an operator: a longer name is not cut down to it
theorem ReadsAtom.cut {cs cs' rest tail : List Char} {e : Expr}
    (hrest : cs' = rest ++ tail) (hclear : Clear cs') :
    ReadsAtom cs e cs' →
      ∃ x, cs = x ++ tail ∧ ReadsAtom x e rest ∧ (word? "NOT" cs = none → word? "NOT" x = none)
  | .number h => by
      subst hrest
      obtain ⟨x, hx, h'⟩ := token?_cut measures_number Token.numberLength_cut h
      refine ⟨x, hx, .number h', fun _ => ?_⟩
      exact word?_none_of_opens (fun _ => isLetter_of_startsNumber)
        (opens_of_token? measures_number startsNumber_of_length h')
  | .literal h => by
      subst hrest
      obtain ⟨x, hx, h'⟩ := token?_cut measures_literal Token.literalLength_cut h
      refine ⟨x, hx, .literal h', fun _ => ?_⟩
      exact word?_none_of_opens (fun _ => isLetter_of_startsLiteral)
        (opens_of_token? measures_literal startsLiteral_of_length h')
  | .var h hopen => by
      subst hrest
      obtain ⟨x, hx, h'⟩ := variableToken_cut hclear h
      exact ⟨x, hx, .var h' (symbol?_none_of_append (by decide) hopen),
        fun _ => word?_none_of_variable h'⟩
  | .element h hopen he hclose => by
      subst hrest
      obtain ⟨y₃, hy₃, hclose'⟩ := symbol?_cut (by decide) hclose
      obtain ⟨y₂, rfl, he'⟩ := he.cut hy₃ (symbol?_clear (by decide) hclose)
      obtain ⟨y₁, rfl, hopen'⟩ := symbol?_cut (by decide) hopen
      obtain ⟨x, hx, h'⟩ := variableToken_cut (symbol?_clear (by decide) hopen) h
      exact ⟨x, hx, .element h' hopen' he' hclose', fun _ => word?_none_of_variable h'⟩
  | .constant h hopen => by
      subst hrest
      obtain ⟨x, hx, h'⟩ := token?_cut measures_name Token.nameLength_cut h
      refine ⟨x, hx, .constant h' (symbol?_none_of_append (by decide) hopen), ?_⟩
      exact word?_none_of_name h h'
  | .callNone h hopen hclose => by
      subst hrest
      obtain ⟨y₂, rfl, hclose'⟩ := symbol?_cut (by decide) hclose
      obtain ⟨y₁, rfl, hopen'⟩ := symbol?_cut (by decide) hopen
      obtain ⟨x, hx, h'⟩ := token?_cut measures_name Token.nameLength_cut h
      refine ⟨x, hx, .callNone h' hopen' hclose', ?_⟩
      exact word?_none_of_name h h'
  | .call h hopen hargs => by
      obtain ⟨y₂, rfl, hargs'⟩ := hargs.cut hrest
      obtain ⟨y₁, rfl, hopen'⟩ := symbol?_cut (by decide) hopen
      obtain ⟨x, hx, h'⟩ := token?_cut measures_name Token.nameLength_cut h
      refine ⟨x, hx, .call h' hopen' hargs', ?_⟩
      exact word?_none_of_name h h'
  | .group hopen he hclose => by
      subst hrest
      obtain ⟨y₂, hy₂, hclose'⟩ := symbol?_cut (by decide) hclose
      obtain ⟨y₁, rfl, he'⟩ := he.cut hy₂ (symbol?_clear (by decide) hclose)
      obtain ⟨x, hx, hopen'⟩ := symbol?_cut (by decide) hopen
      exact ⟨x, hx, .group hopen' he' hclose',
        fun _ => word?_none_of_symbol? (by decide) (by decide) hopen'⟩

theorem ReadsArguments.cut {cs cs' rest tail : List Char} {args : List Expr}
    (hrest : cs' = rest ++ tail) :
    ReadsArguments cs args cs' → ∃ x, cs = x ++ tail ∧ ReadsArguments x args rest
  | .last he hclose => by
      subst hrest
      obtain ⟨y, hy, hclose'⟩ := symbol?_cut (by decide) hclose
      obtain ⟨x, hx, he'⟩ := he.cut hy (symbol?_clear (by decide) hclose)
      exact ⟨x, hx, .last he' hclose'⟩
  | .more he hcomma hargs => by
      obtain ⟨y₂, rfl, hargs'⟩ := hargs.cut hrest
      obtain ⟨y₁, hy₁, hcomma'⟩ := symbol?_cut (by decide) hcomma
      obtain ⟨x, hx, he'⟩ := he.cut hy₁ (symbol?_clear (by decide) hcomma)
      exact ⟨x, hx, .more he' hcomma' hargs'⟩

theorem ReadsRest.cut {low high : Level} {left e : Expr} {cs cs' rest tail : List Char}
    (hrest : cs' = rest ++ tail) (hclear : Clear cs') :
    ReadsRest low high left cs e cs' → ∃ x, cs = x ++ tail ∧ ReadsRest low high left x e rest
  | .stop hop => by
      subst hrest
      exact ⟨rest, rfl, .stop (between?_none_of_append hop)⟩
  | .operator hop he hfollow => by
      obtain ⟨y₂, hy₂, hfollow'⟩ := hfollow.cut hrest hclear
      obtain ⟨y₁, rfl, he'⟩ := he.cut hy₂ (hfollow.clear hclear)
      obtain ⟨x, hx, hop'⟩ := between?_cut hop
      exact ⟨x, hx, .operator hop' he' hfollow'⟩

end

/-- The text of a formula is read as the formula's tree again, if what follows it in the line does
not belong to a shortened variable. -/
theorem ReadsFormula.reparses {cs rest : List Char} {f : Formula} (h : ReadsFormula cs f rest)
    (hclear : Clear rest) : parseExpression f.text = .ok f.tree := by
  obtain ⟨x, rfl, hread⟩ := h.1.cut (List.nil_append rest).symm hclear
  obtain ⟨c, tail, hskip, -⟩ := hread.opens
  have htext : skip x = f.text.toList := by
    have hsame := h.2
    rw [skip_append (by rw [hskip]; exact List.cons_ne_nil c tail)] at hsame
    exact List.append_cancel_right hsame
  refine parseExpression_eq_ok.mpr ⟨[], hread.of_skip ?_, rfl⟩
  rw [← htext, skip_skip]

end LineBasic

import LineBasic.Proofs.Grammar.Lexing

/-!
# The grammar of expressions

The relations say which expression the characters at the start of a text spell and which characters
are left then. They follow the levels of the operators, and there is no bound on the length of the
text in them. An operand is taken first. What follows it is read with two bounds on the level of an
operator: the lower one is what the surroundings ask for, the upper one comes from the operand,
since a comparison does not chain and a power has no sign on its left.

A reading is independent of the gaps in front of it, and takes whole tokens off the text.
-/

namespace LineBasic

namespace Unread

/-- The operator with one operand that comes next, where an operand of at least the level `low` is
to be read. -/
def sign? (low : Level) (cs : List Char) : Option (UnaryOp × List Char) :=
  (((if low ≤ Level.negation then word? "NOT" cs else none).map fun rest => (.not, rest)).or
    ((symbol? "-" cs).map fun rest => (.neg, rest))).or
    ((symbol? "+" cs).map fun rest => (.pos, rest))

def between? (low high : Level) (cs : List Char) : Option (BinaryOp × List Char) :=
  (operator? cs).filter fun found => low ≤ found.1.level ∧ found.1.level ≤ high

theorem between?_eq_some {low high : Level} {cs rest : List Char} {op : BinaryOp} :
    between? low high cs = some (op, rest) ↔
      operator? cs = some (op, rest) ∧ low ≤ op.level ∧ op.level ≤ high := by
  simp [between?, Option.filter_eq_some_iff]

theorem between?_eq_none {low high : Level} {cs : List Char} :
    between? low high cs = none ↔
      ∀ op rest, operator? cs = some (op, rest) → ¬(low ≤ op.level ∧ op.level ≤ high) := by
  simp [between?, Option.filter_eq_none_iff]

theorem word?_none_of_symbol? {s w : String} {cs rest : List Char} (hs : IsSymbol s)
    (hletter : starts (fun c => !Token.isLetter c) s = true) (h : symbol? s cs = some rest) :
    word? w cs = none :=
  word?_none_of_opens (by simp) (opens_of_symbol? hs hletter h)

theorem minus_none_of_plus {cs rest : List Char} (h : symbol? "+" cs = some rest) :
    symbol? "-" cs = none :=
  symbol?_none_of_opens (q := fun c => c == '+') (by decide) (by decide)
    (opens_of_symbol? (by decide) (by decide) h)

/-- `NOT` and the signs differ in their first characters, so the order in which they are tried does
not matter. -/
theorem sign?_eq_some {low : Level} {cs rest : List Char} {op : UnaryOp} :
    sign? low cs = some (op, rest) ↔
      (op = .not ∧ low ≤ Level.negation ∧ word? "NOT" cs = some rest) ∨
        (op = .neg ∧ symbol? "-" cs = some rest) ∨ (op = .pos ∧ symbol? "+" cs = some rest) := by
  constructor
  · intro h
    simp only [sign?, Option.or_eq_some_iff, Option.or_eq_none_iff, Option.map_eq_some_iff] at h
    rcases h with (⟨r, hr, heq⟩ | ⟨-, r, hr, heq⟩) | ⟨-, r, hr, heq⟩
    · cases heq
      split at hr
      · next hlow => exact .inl ⟨rfl, hlow, hr⟩
      · cases hr
    · cases heq
      exact .inr (.inl ⟨rfl, hr⟩)
    · cases heq
      exact .inr (.inr ⟨rfl, hr⟩)
  · rintro (⟨rfl, hlow, h⟩ | ⟨rfl, h⟩ | ⟨rfl, h⟩)
    · rw [sign?, if_pos hlow, h]
      rfl
    · rw [sign?, word?_none_of_symbol? (by decide) (by decide) h, ite_self, h]
      rfl
    · rw [sign?, word?_none_of_symbol? (by decide) (by decide) h, ite_self,
        minus_none_of_plus h, h]
      rfl

theorem sign?_eq_none {low : Level} {cs : List Char} :
    sign? low cs = none ↔
      (low ≤ Level.negation → word? "NOT" cs = none) ∧
        symbol? "-" cs = none ∧ symbol? "+" cs = none := by
  simp [sign?, and_assoc]

theorem isSymbol_sign (op : UnaryOp) : IsSymbol op.symbol := by
  cases op <;> decide

theorem symbol?_of_sign? {low : Level} {cs rest : List Char} {op : UnaryOp}
    (h : sign? low cs = some (op, rest)) : symbol? op.symbol cs = some rest := by
  rcases sign?_eq_some.mp h with ⟨rfl, -, hword⟩ | ⟨rfl, hminus⟩ | ⟨rfl, hplus⟩
  · exact symbol?_eq_some.mpr ((token?_eq_some measures_name).mp (word?_eq_some.mp hword)).1
  · exact hminus
  · exact hplus

theorem sign?_takes {low : Level} {cs rest : List Char} {op : UnaryOp}
    (h : sign? low cs = some (op, rest)) : Takes cs rest :=
  symbol?_takes (isSymbol_sign op) (symbol?_of_sign? h)

theorem sign?_length_lt {low : Level} {cs rest : List Char} {op : UnaryOp}
    (h : sign? low cs = some (op, rest)) : rest.length < cs.length :=
  symbol?_length_lt (isSymbol_sign op) (symbol?_of_sign? h)

end Unread

open Unread

mutual

/-- An expression of at least the level `low`: an operand and what follows it. -/
inductive ReadsExpr : Level → List Char → Expr → List Char → Prop
  | operand {low high : Level} {left e : Expr} {cs cs₁ cs₂ : List Char} :
      ReadsOperand low cs left high cs₁ → ReadsRest low high left cs₁ e cs₂ →
      ReadsExpr low cs e cs₂

/-- An operand of at least the level `low`, with the highest level of an operator that may follow
it. -/
inductive ReadsOperand : Level → List Char → Expr → Level → List Char → Prop
  | unary {low : Level} {op : UnaryOp} {e : Expr} {cs cs₁ cs₂ : List Char} :
      sign? low cs = some (op, cs₁) → ReadsExpr op.level cs₁ e cs₂ →
      ReadsOperand low cs (.unary op e) op.level cs₂
  | atom {low : Level} {e : Expr} {cs cs₁ : List Char} :
      sign? low cs = none → ReadsAtom cs e cs₁ → ReadsOperand low cs e Level.atom cs₁

/-- A number, a literal, a variable, an element, a constant, a call or a group. -/
inductive ReadsAtom : List Char → Expr → List Char → Prop
  | number {s : String} {cs cs₁ : List Char} :
      token? Token.numberLength cs = some (s, cs₁) → ReadsAtom cs (.number s) cs₁
  | literal {s : String} {cs cs₁ : List Char} :
      token? Token.literalLength cs = some (s, cs₁) → ReadsAtom cs (.literal s) cs₁
  | var {s : String} {cs cs₁ : List Char} :
      token? Token.variableLength cs = some (s, cs₁) → symbol? "[" cs₁ = none →
      ReadsAtom cs (.var s) cs₁
  | element {s : String} {e : Expr} {cs cs₁ cs₂ cs₃ cs₄ : List Char} :
      token? Token.variableLength cs = some (s, cs₁) → symbol? "[" cs₁ = some cs₂ →
      ReadsExpr Level.whole cs₂ e cs₃ → symbol? "]" cs₃ = some cs₄ →
      ReadsAtom cs (.element s e) cs₄
  | constant {s : String} {cs cs₁ : List Char} :
      token? Token.nameLength cs = some (s, cs₁) → symbol? "(" cs₁ = none →
      ReadsAtom cs (.constant s) cs₁
  | callNone {s : String} {cs cs₁ cs₂ cs₃ : List Char} :
      token? Token.nameLength cs = some (s, cs₁) → symbol? "(" cs₁ = some cs₂ →
      symbol? ")" cs₂ = some cs₃ → ReadsAtom cs (.call s []) cs₃
  | call {s : String} {args : List Expr} {cs cs₁ cs₂ cs₃ : List Char} :
      token? Token.nameLength cs = some (s, cs₁) → symbol? "(" cs₁ = some cs₂ →
      ReadsArguments cs₂ args cs₃ → ReadsAtom cs (.call s args) cs₃
  | group {e : Expr} {cs cs₁ cs₂ cs₃ : List Char} :
      symbol? "(" cs = some cs₁ → ReadsExpr Level.whole cs₁ e cs₂ → symbol? ")" cs₂ = some cs₃ →
      ReadsAtom cs e cs₃

/-- The arguments of a call up to the closing parenthesis. -/
inductive ReadsArguments : List Char → List Expr → List Char → Prop
  | last {e : Expr} {cs cs₁ cs₂ : List Char} :
      ReadsExpr Level.whole cs e cs₁ → symbol? ")" cs₁ = some cs₂ → ReadsArguments cs [e] cs₂
  | more {e : Expr} {args : List Expr} {cs cs₁ cs₂ cs₃ : List Char} :
      ReadsExpr Level.whole cs e cs₁ → symbol? "," cs₁ = some cs₂ → ReadsArguments cs₂ args cs₃ →
      ReadsArguments cs (e :: args) cs₃

/-- The operators between the levels `low` and `high` that follow a left operand, each with its
right operand. The upper bound changes with every operator. -/
inductive ReadsRest : Level → Level → Expr → List Char → Expr → List Char → Prop
  | stop {low high : Level} {left : Expr} {cs : List Char} :
      between? low high cs = none → ReadsRest low high left cs left cs
  | operator {low high : Level} {op : BinaryOp} {left right e : Expr}
      {cs cs₁ cs₂ cs₃ : List Char} :
      between? low high cs = some (op, cs₁) → ReadsExpr op.rightLevel cs₁ right cs₂ →
      ReadsRest low op.followLevel (.binary op left right) cs₂ e cs₃ →
      ReadsRest low high left cs e cs₃

end

mutual

/-- A reading takes whole tokens off the text. -/
theorem ReadsExpr.takes {low : Level} {cs cs' : List Char} {e : Expr} :
    ReadsExpr low cs e cs' → Takes cs cs'
  | .operand hoperand hrest => hoperand.takes.trans hrest.takes

theorem ReadsOperand.takes {low high : Level} {cs cs' : List Char} {e : Expr} :
    ReadsOperand low cs e high cs' → Takes cs cs'
  | .unary hsign he => (sign?_takes hsign).trans he.takes
  | .atom _ ha => ha.takes

theorem ReadsAtom.takes {cs cs' : List Char} {e : Expr} : ReadsAtom cs e cs' → Takes cs cs'
  | .number h => token?_takes measures_number h
  | .literal h => token?_takes measures_literal h
  | .var h _ => token?_takes measures_variable h
  | .element h hopen he hclose =>
      ((token?_takes measures_variable h).trans (symbol?_takes (by decide) hopen)).trans
        (he.takes.trans (symbol?_takes (by decide) hclose))
  | .constant h _ => token?_takes measures_name h
  | .callNone h hopen hclose =>
      (token?_takes measures_name h).trans
        ((symbol?_takes (by decide) hopen).trans (symbol?_takes (by decide) hclose))
  | .call h hopen hargs =>
      (token?_takes measures_name h).trans ((symbol?_takes (by decide) hopen).trans hargs.takes)
  | .group hopen he hclose =>
      (symbol?_takes (by decide) hopen).trans (he.takes.trans (symbol?_takes (by decide) hclose))

theorem ReadsArguments.takes {cs cs' : List Char} {args : List Expr} :
    ReadsArguments cs args cs' → Takes cs cs'
  | .last he hclose => he.takes.trans (symbol?_takes (by decide) hclose)
  | .more he hcomma hargs => he.takes.trans ((symbol?_takes (by decide) hcomma).trans hargs.takes)

theorem ReadsRest.takes {low high : Level} {left e : Expr} {cs cs' : List Char} :
    ReadsRest low high left cs e cs' → Takes cs cs'
  | .stop _ => Takes.refl _
  | .operator hop he hrest =>
      (operator?_takes (between?_eq_some.mp hop).1).trans (he.takes.trans hrest.takes)

end

theorem ReadsExpr.length_le {low : Level} {cs cs' : List Char} {e : Expr}
    (h : ReadsExpr low cs e cs') : cs'.length ≤ cs.length :=
  h.takes.length_le

theorem ReadsAtom.length_lt {cs cs' : List Char} {e : Expr} (h : ReadsAtom cs e cs') :
    cs'.length < cs.length := by
  cases h with
  | number h => exact token?_length_lt measures_number h
  | literal h => exact token?_length_lt measures_literal h
  | var h _ => exact token?_length_lt measures_variable h
  | element h hopen he hclose =>
      have hlt := token?_length_lt measures_variable h
      have hle := (symbol?_takes (by decide) hopen).length_le
      have hle' := he.length_le
      have hle'' := (symbol?_takes (by decide) hclose).length_le
      omega
  | constant h _ => exact token?_length_lt measures_name h
  | callNone h hopen hclose =>
      have hlt := token?_length_lt measures_name h
      have hle := (symbol?_takes (by decide) hopen).length_le
      have hle' := (symbol?_takes (by decide) hclose).length_le
      omega
  | call h hopen hargs =>
      have hlt := token?_length_lt measures_name h
      have hle := (symbol?_takes (by decide) hopen).length_le
      have hle' := hargs.takes.length_le
      omega
  | group hopen he hclose =>
      have hlt := symbol?_length_lt (by decide) hopen
      have hle := he.length_le
      have hle' := (symbol?_takes (by decide) hclose).length_le
      omega

theorem ReadsExpr.length_lt {low : Level} {cs cs' : List Char} {e : Expr}
    (h : ReadsExpr low cs e cs') : cs'.length < cs.length := by
  obtain ⟨hoperand, hrest⟩ := h
  have hle := hrest.takes.length_le
  cases hoperand with
  | unary hsign he =>
      have hlt := sign?_length_lt hsign
      have hle' := he.length_le
      omega
  | atom _ ha =>
      have hlt := ha.length_lt
      omega

/-! ## The first token of an expression -/

/-- An expression does not start with a blank or a closing parenthesis. -/
def opensExpr (c : Char) : Bool := Token.isInk c && c != ')'

theorem opensExpr_of_isLetter {c : Char} (h : Token.isLetter c = true) : opensExpr c = true := by
  rw [opensExpr, Token.isInk_of_isLetter h, Bool.true_and, bne_iff_ne]
  rintro rfl
  exact absurd h (by decide)

theorem opensExpr_of_startsNumber {c : Char} (h : startsNumber c = true) : opensExpr c = true := by
  rcases Bool.or_eq_true_iff.mp h with hdigit | hpoint
  · rw [opensExpr, Token.isInk_of_isDigit hdigit, Bool.true_and, bne_iff_ne]
    rintro rfl
    exact absurd hdigit (by decide)
  · rw [beq_iff_eq.mp hpoint]
    decide

theorem opensExpr_of_startsLiteral {c : Char} (h : startsLiteral c = true) :
    opensExpr c = true := by
  rw [beq_iff_eq.mp h]
  decide

theorem ReadsAtom.opens {cs cs' : List Char} {e : Expr} (h : ReadsAtom cs e cs') :
    Opens opensExpr cs := by
  have hvariable {s : String} {rest : List Char}
      (h : token? Token.variableLength cs = some (s, rest)) : Opens opensExpr cs :=
    opens_of_token? measures_variable
      (fun h => opensExpr_of_isLetter (Token.isLetter_of_variableLength h)) h
  have hname {s : String} {rest : List Char}
      (h : token? Token.nameLength cs = some (s, rest)) : Opens opensExpr cs :=
    opens_of_token? measures_name
      (fun h => opensExpr_of_isLetter (Token.isLetter_of_nameLength h)) h
  cases h with
  | number h =>
      exact opens_of_token? measures_number
        (fun h => opensExpr_of_startsNumber (startsNumber_of_length h)) h
  | literal h =>
      exact opens_of_token? measures_literal
        (fun h => opensExpr_of_startsLiteral (startsLiteral_of_length h)) h
  | var h _ => exact hvariable h
  | element h _ _ _ => exact hvariable h
  | constant h _ => exact hname h
  | callNone h _ _ => exact hname h
  | call h _ _ => exact hname h
  | group h _ _ => exact opens_of_symbol? (by decide) (by decide) h

theorem ReadsExpr.opens {low : Level} {cs cs' : List Char} {e : Expr}
    (h : ReadsExpr low cs e cs') : Opens opensExpr cs := by
  obtain ⟨hoperand, -⟩ := h
  cases hoperand with
  | atom _ ha => exact ha.opens
  | @unary _ op _ _ _ _ hsign _ =>
      exact opens_of_symbol? (isSymbol_sign op) (by cases op <;> decide) (symbol?_of_sign? hsign)

theorem ReadsArguments.opens {cs cs' : List Char} {args : List Expr}
    (h : ReadsArguments cs args cs') : Opens opensExpr cs := by
  cases h with
  | last he _ => exact he.opens
  | more he _ _ => exact he.opens

/-! ## Gaps in front -/

theorem token?_of_skip {length : List Char → Nat} {cs ds : List Char} (h : skip ds = skip cs) :
    token? length ds = token? length cs := by
  rw [token?, token?, h]

theorem symbol?_of_skip {s : String} {cs ds : List Char} (h : skip ds = skip cs) :
    symbol? s ds = symbol? s cs := by
  rw [symbol?, symbol?, h]

theorem sign?_of_skip {low : Level} {cs ds : List Char} (h : skip ds = skip cs) :
    sign? low ds = sign? low cs := by
  simp only [sign?, word?, token?_of_skip h, symbol?_of_skip h]

theorem ReadsAtom.of_skip {cs ds cs' : List Char} {e : Expr} (h : ReadsAtom cs e cs')
    (hskip : skip ds = skip cs) : ReadsAtom ds e cs' := by
  cases h with
  | number h => exact .number (token?_of_skip hskip ▸ h)
  | literal h => exact .literal (token?_of_skip hskip ▸ h)
  | var h hopen => exact .var (token?_of_skip hskip ▸ h) hopen
  | element h hopen he hclose => exact .element (token?_of_skip hskip ▸ h) hopen he hclose
  | constant h hopen => exact .constant (token?_of_skip hskip ▸ h) hopen
  | callNone h hopen hclose => exact .callNone (token?_of_skip hskip ▸ h) hopen hclose
  | call h hopen hargs => exact .call (token?_of_skip hskip ▸ h) hopen hargs
  | group hopen he hclose => exact .group (symbol?_of_skip hskip ▸ hopen) he hclose

/-- Gaps in front do not change a reading. -/
theorem ReadsExpr.of_skip {low : Level} {cs ds cs' : List Char} {e : Expr}
    (h : ReadsExpr low cs e cs') (hskip : skip ds = skip cs) : ReadsExpr low ds e cs' := by
  obtain ⟨hoperand, hrest⟩ := h
  refine .operand ?_ hrest
  cases hoperand with
  | unary hsign he => exact .unary (sign?_of_skip hskip ▸ hsign) he
  | atom hsign ha => exact .atom (sign?_of_skip hskip ▸ hsign) (ha.of_skip hskip)

end LineBasic

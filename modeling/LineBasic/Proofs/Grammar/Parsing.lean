import LineBasic.Grammar.StatementParser
import LineBasic.Proofs.Grammar.Reading
import LineBasic.Proofs.Grammar.Scanning

/-!
# The reader of expressions follows the grammar

What the reader returns is a reading of the grammar (`parseExpr_follows`), and every reading of the
grammar is returned, provided that the bound on the depth is three times the number of characters
and a little more (`ReadsExpr.finds`). Together they describe `parseExpression` without a bound
(`parseExpression_eq_ok`).

The alternatives of the reader are tried in a fixed order. Since tokens of different kinds start
with different characters, each alternative is taken whenever its first token is there; one equation
for each says so, and both directions use these equations.
-/

namespace LineBasic

open Unread

/-! ## The alternatives of the reader -/

def afterSign (fuel : Nat) (op : UnaryOp) : Scan (Expr × Level) := do
  return (.unary op (← parseExpr fuel op.level), op.level)

def afterVariable (fuel : Nat) (name : String) : Scan Expr := do
  if ← Scan.symbol? "[" then
    let index ← parseExpr fuel Level.whole
    Scan.symbol "]"
    return .element name index
  else return .var name

def afterName (fuel : Nat) (name : String) : Scan Expr := do
  if ← Scan.symbol? "(" then
    if ← Scan.symbol? ")" then return .call name []
    else return .call name (← parseArguments fuel)
  else return .constant name

/-- What is left to do where no token of its own starts an atom. -/
def parseGroup (fuel : Nat) : Scan Expr := do
  Scan.symbol "("
  let inner ← parseExpr fuel Level.whole
  Scan.symbol ")"
  return inner

variable {fuel : Nat} {low high : Level} {c : Cursor} {s : String} {rest : List Char}

theorem negation?_of_some (hlow : low ≤ Level.negation) (h : word? "NOT" c.rest = some rest) :
    negation? low c = .ok (true, c.past rest) := by
  rw [negation?, if_pos hlow]
  exact Scan.word?_of_some h

theorem negation?_of_none (h : low ≤ Level.negation → word? "NOT" c.rest = none) :
    negation? low c = .ok (false, c) := by
  rw [negation?]
  split
  · next hlow => exact Scan.word?_of_none (h hlow)
  · rfl

theorem parseOperand_of_sign {op : UnaryOp} (h : sign? low c.rest = some (op, rest)) :
    parseOperand (fuel + 1) low c = afterSign fuel op (c.past rest) := by
  rw [parseOperand]
  rcases sign?_eq_some.mp h with ⟨rfl, hlow, hnot⟩ | ⟨rfl, hminus⟩ | ⟨rfl, hplus⟩
  · rw [Scan.bind_of_ok (negation?_of_some hlow hnot)]
    rfl
  · have hnot := word?_none_of_symbol? (w := "NOT") (by decide) (by decide) hminus
    rw [Scan.bind_of_ok (negation?_of_none fun _ => hnot)]
    simp only [Bool.false_eq_true, if_false]
    rw [Scan.bind_of_ok (Scan.symbol?_of_some hminus)]
    rfl
  · have hnot := word?_none_of_symbol? (w := "NOT") (by decide) (by decide) hplus
    rw [Scan.bind_of_ok (negation?_of_none fun _ => hnot)]
    simp only [Bool.false_eq_true, if_false]
    rw [Scan.bind_of_ok (Scan.symbol?_of_none (minus_none_of_plus hplus))]
    simp only [Bool.false_eq_true, if_false]
    rw [Scan.bind_of_ok (Scan.symbol?_of_some hplus)]
    rfl

theorem parseOperand_of_none (h : sign? low c.rest = none) :
    parseOperand (fuel + 1) low c =
      (do return (← parseAtom fuel, Level.atom) : Scan (Expr × Level)) c := by
  obtain ⟨hnot, hminus, hplus⟩ := sign?_eq_none.mp h
  rw [parseOperand, Scan.bind_of_ok (negation?_of_none hnot)]
  simp only [Bool.false_eq_true, if_false]
  rw [Scan.bind_of_ok (Scan.symbol?_of_none hminus)]
  simp only [Bool.false_eq_true, if_false]
  rw [Scan.bind_of_ok (Scan.symbol?_of_none hplus)]
  simp only [Bool.false_eq_true, if_false]

theorem parseAtom_of_number (h : token? Token.numberLength c.rest = some (s, rest)) :
    parseAtom (fuel + 1) c = .ok (.number s, c.past rest) := by
  rw [parseAtom, Scan.bind_of_ok (Scan.token?_of_some measures_number h)]
  rfl

theorem parseAtom_of_literal (h : token? Token.literalLength c.rest = some (s, rest)) :
    parseAtom (fuel + 1) c = .ok (.literal s, c.past rest) := by
  have hopens := opens_of_token? measures_literal startsLiteral_of_length h
  have hnumber : token? Token.numberLength c.rest = none :=
    token?_none_of_opens startsNumber_of_length (fun _ => startsNumber_of_startsLiteral) hopens
  rw [parseAtom, Scan.bind_of_ok (Scan.token?_of_none hnumber)]
  dsimp only
  rw [Scan.bind_of_ok (Scan.token?_of_some measures_literal h)]
  rfl

theorem number_literal_none (h : Opens Token.isLetter c.rest) :
    token? Token.numberLength c.rest = none ∧ token? Token.literalLength c.rest = none :=
  ⟨token?_none_of_opens startsNumber_of_length (fun _ => startsNumber_of_isLetter) h,
    token?_none_of_opens startsLiteral_of_length (fun _ => startsLiteral_of_isLetter) h⟩

theorem parseAtom_of_variable (h : token? Token.variableLength c.rest = some (s, rest)) :
    parseAtom (fuel + 1) c = afterVariable fuel s (c.past rest) := by
  obtain ⟨hnumber, hliteral⟩ :=
    number_literal_none (opens_of_token? measures_variable Token.isLetter_of_variableLength h)
  rw [parseAtom, Scan.bind_of_ok (Scan.token?_of_none hnumber)]
  dsimp only
  rw [Scan.bind_of_ok (Scan.token?_of_none hliteral)]
  dsimp only
  rw [Scan.bind_of_ok (Scan.token?_of_some measures_variable h)]
  rfl

theorem parseAtom_of_name (h : token? Token.nameLength c.rest = some (s, rest)) :
    parseAtom (fuel + 1) c = afterName fuel s (c.past rest) := by
  obtain ⟨hnumber, hliteral⟩ :=
    number_literal_none (opens_of_token? measures_name Token.isLetter_of_nameLength h)
  have hvariable : token? Token.variableLength c.rest = none := by
    rw [token?_eq_none]
    apply Token.variableLength_of_nameLength
    intro hzero
    rw [token?_eq_none.mpr hzero] at h
    cases h
  rw [parseAtom, Scan.bind_of_ok (Scan.token?_of_none hnumber)]
  dsimp only
  rw [Scan.bind_of_ok (Scan.token?_of_none hliteral)]
  dsimp only
  rw [Scan.bind_of_ok (Scan.token?_of_none hvariable)]
  dsimp only
  rw [Scan.bind_of_ok (Scan.token?_of_some measures_name h)]
  rfl

theorem parseAtom_of_none (hnumber : token? Token.numberLength c.rest = none)
    (hliteral : token? Token.literalLength c.rest = none)
    (hvariable : token? Token.variableLength c.rest = none)
    (hname : token? Token.nameLength c.rest = none) :
    parseAtom (fuel + 1) c = parseGroup fuel c := by
  rw [parseAtom, Scan.bind_of_ok (Scan.token?_of_none hnumber)]
  dsimp only
  rw [Scan.bind_of_ok (Scan.token?_of_none hliteral)]
  dsimp only
  rw [Scan.bind_of_ok (Scan.token?_of_none hvariable)]
  dsimp only
  rw [Scan.bind_of_ok (Scan.token?_of_none hname)]
  rfl

theorem parseAtom_of_parenthesis (h : symbol? "(" c.rest = some rest) :
    parseAtom (fuel + 1) c = parseGroup fuel c := by
  have hopens : Opens (fun d => d == '(') c.rest := opens_of_symbol? (by decide) (by decide) h
  apply parseAtom_of_none
  · exact token?_none_of_opens startsNumber_of_length (by simp; decide) hopens
  · exact token?_none_of_opens startsLiteral_of_length (by simp; decide) hopens
  · exact token?_none_of_opens Token.isLetter_of_variableLength (by simp; decide) hopens
  · exact token?_none_of_opens Token.isLetter_of_nameLength (by simp; decide) hopens

theorem operatorBetween?_of_some {op : BinaryOp} (h : between? low high c.rest = some (op, rest)) :
    operatorBetween? low high c = .ok (some op, c.past rest) := by
  obtain ⟨hop, hlevel⟩ := between?_eq_some.mp h
  simp only [operatorBetween?, Cursor.operator?_eq, hop, Option.map_some, if_pos hlevel]

theorem operatorBetween?_of_none (h : between? low high c.rest = none) :
    operatorBetween? low high c = .ok (none, c) := by
  rw [between?_eq_none] at h
  simp only [operatorBetween?, Cursor.operator?_eq]
  cases hop : operator? c.rest with
  | none => rfl
  | some found => simp only [Option.map_some, if_neg (h found.1 found.2 hop)]

/-! ## What the reader returns is a reading -/

/-- The reader went from one cursor to the other, and what it returned is a reading of the
characters between them. -/
def Follows {α : Type} (reads : List Char → α → List Char → Prop) (p : Scan α) : Prop :=
  ∀ c a c', p c = .ok (a, c') → reads c.rest a c'.rest ∧ c.Reaches c'

section Follows

variable {c' : Cursor} {e : Expr} {cs : List Char}

theorem afterVariable_follows
    (ih : Follows (ReadsExpr Level.whole) (parseExpr fuel Level.whole))
    (hvariable : token? Token.variableLength cs = some (s, c.rest))
    (h : afterVariable fuel s c = .ok (e, c')) : ReadsAtom cs e c'.rest ∧ c.Reaches c' := by
  cases hopen : symbol? "[" c.rest with
  | some rest =>
      rw [afterVariable, Scan.bind_of_ok (Scan.symbol?_of_some hopen)] at h
      obtain ⟨index, c₁, hindex, h⟩ := Scan.exists_of_bind_ok h
      obtain ⟨_, c₂, hsymbol, h⟩ := Scan.exists_of_bind_ok h
      obtain ⟨rest₁, hclose, rfl⟩ := Scan.exists_of_symbol_ok hsymbol
      cases h
      obtain ⟨hread, hreach⟩ := ih _ index c₁ hindex
      have hpast := Cursor.reaches_past (symbol?_takes (by decide) hopen)
      have hpast' := Cursor.reaches_past (symbol?_takes (by decide) hclose)
      exact ⟨.element hvariable hopen hread hclose, (hpast.trans hreach).trans hpast'⟩
  | none =>
      rw [afterVariable, Scan.bind_of_ok (Scan.symbol?_of_none hopen)] at h
      cases h
      exact ⟨.var hvariable hopen, .refl c⟩

theorem afterName_follows (ih : Follows ReadsArguments (parseArguments fuel))
    (hname : token? Token.nameLength cs = some (s, c.rest))
    (h : afterName fuel s c = .ok (e, c')) : ReadsAtom cs e c'.rest ∧ c.Reaches c' := by
  cases hopen : symbol? "(" c.rest with
  | some rest =>
      have hpast := Cursor.reaches_past (symbol?_takes (by decide) hopen)
      rw [afterName, Scan.bind_of_ok (Scan.symbol?_of_some hopen)] at h
      simp only [if_true] at h
      cases hclose : symbol? ")" rest with
      | some rest₁ =>
          rw [Scan.bind_of_ok (Scan.symbol?_of_some hclose)] at h
          cases h
          have hpast' := Cursor.reaches_past (c := c.past rest) (symbol?_takes (by decide) hclose)
          exact ⟨.callNone hname hopen hclose, hpast.trans hpast'⟩
      | none =>
          rw [Scan.bind_of_ok (Scan.symbol?_of_none hclose)] at h
          obtain ⟨args, c₁, hargs, h⟩ := Scan.exists_of_bind_ok h
          cases h
          obtain ⟨hread, hreach⟩ := ih _ args c' hargs
          exact ⟨.call hname hopen hread, hpast.trans hreach⟩
  | none =>
      rw [afterName, Scan.bind_of_ok (Scan.symbol?_of_none hopen)] at h
      cases h
      exact ⟨.constant hname hopen, .refl c⟩

theorem parseGroup_follows (ih : Follows (ReadsExpr Level.whole) (parseExpr fuel Level.whole)) :
    Follows ReadsAtom (parseGroup fuel) := by
  intro c e c' h
  obtain ⟨_, c₁, hsymbol, h⟩ := Scan.exists_of_bind_ok h
  obtain ⟨rest, hopen, rfl⟩ := Scan.exists_of_symbol_ok hsymbol
  obtain ⟨inner, c₂, hinner, h⟩ := Scan.exists_of_bind_ok h
  obtain ⟨_, c₃, hsymbol, h⟩ := Scan.exists_of_bind_ok h
  obtain ⟨rest₁, hclose, rfl⟩ := Scan.exists_of_symbol_ok hsymbol
  cases h
  obtain ⟨hread, hreach⟩ := ih _ e c₂ hinner
  have hpast := Cursor.reaches_past (symbol?_takes (by decide) hopen)
  have hpast' := Cursor.reaches_past (symbol?_takes (by decide) hclose)
  exact ⟨.group hopen hread hclose, (hpast.trans hreach).trans hpast'⟩

theorem fail_follows {α : Type} (reads : List Char → α → List Char → Prop) :
    Follows reads Scan.fail := by
  intro c a c' h
  cases h

end Follows

mutual

theorem parseExpr_follows : (fuel : Nat) → (low : Level) →
    Follows (ReadsExpr low) (parseExpr fuel low)
  | 0, low => by
      rw [parseExpr]
      exact fail_follows _
  | fuel + 1, low => by
      intro c e c' h
      rw [parseExpr] at h
      obtain ⟨⟨left, high⟩, c₁, hoperand, h⟩ := Scan.exists_of_bind_ok h
      obtain ⟨hleft, hreach⟩ := parseOperand_follows fuel low c (left, high) c₁ hoperand
      obtain ⟨hrest, hreach'⟩ := parseRest_follows fuel low high left c₁ e c' h
      exact ⟨.operand hleft hrest, hreach.trans hreach'⟩

theorem parseOperand_follows : (fuel : Nat) → (low : Level) →
    Follows (fun cs r cs' => ReadsOperand low cs r.1 r.2 cs') (parseOperand fuel low)
  | 0, low => by
      rw [parseOperand]
      exact fail_follows _
  | fuel + 1, low => by
      intro c r c' h
      cases hsign : sign? low c.rest with
      | some found =>
          obtain ⟨op, rest⟩ := found
          rw [parseOperand_of_sign hsign] at h
          obtain ⟨e, c₁, he, h⟩ := Scan.exists_of_bind_ok h
          cases h
          obtain ⟨hread, hreach⟩ := parseExpr_follows fuel op.level _ e c' he
          exact ⟨.unary hsign hread, (Cursor.reaches_past (sign?_takes hsign)).trans hreach⟩
      | none =>
          rw [parseOperand_of_none hsign] at h
          obtain ⟨e, c₁, he, h⟩ := Scan.exists_of_bind_ok h
          cases h
          obtain ⟨hread, hreach⟩ := parseAtom_follows fuel c e c' he
          exact ⟨.atom hsign hread, hreach⟩

theorem parseAtom_follows : (fuel : Nat) → Follows ReadsAtom (parseAtom fuel)
  | 0 => by
      rw [parseAtom]
      exact fail_follows _
  | fuel + 1 => by
      intro c e c' h
      -- the kinds of tokens are tried in the order of the reader; a group comes last
      rcases hnumber : token? Token.numberLength c.rest with _ | ⟨s, rest⟩
      · rcases hliteral : token? Token.literalLength c.rest with _ | ⟨s, rest⟩
        · rcases hvariable : token? Token.variableLength c.rest with _ | ⟨s, rest⟩
          · rcases hname : token? Token.nameLength c.rest with _ | ⟨s, rest⟩
            · rw [parseAtom_of_none hnumber hliteral hvariable hname] at h
              exact parseGroup_follows (parseExpr_follows fuel Level.whole) c e c' h
            · rw [parseAtom_of_name hname] at h
              have hpast := Cursor.reaches_past (token?_takes measures_name hname)
              obtain ⟨hread, hreach⟩ := afterName_follows (parseArguments_follows fuel) hname h
              exact ⟨hread, hpast.trans hreach⟩
          · rw [parseAtom_of_variable hvariable] at h
            have hpast := Cursor.reaches_past (token?_takes measures_variable hvariable)
            obtain ⟨hread, hreach⟩ :=
              afterVariable_follows (parseExpr_follows fuel Level.whole) hvariable h
            exact ⟨hread, hpast.trans hreach⟩
        · rw [parseAtom_of_literal hliteral] at h
          cases h
          exact ⟨.literal hliteral, Cursor.reaches_past (token?_takes measures_literal hliteral)⟩
      · rw [parseAtom_of_number hnumber] at h
        cases h
        exact ⟨.number hnumber, Cursor.reaches_past (token?_takes measures_number hnumber)⟩

theorem parseArguments_follows : (fuel : Nat) → Follows ReadsArguments (parseArguments fuel)
  | 0 => by
      rw [parseArguments]
      exact fail_follows _
  | fuel + 1 => by
      intro c args c' h
      rw [parseArguments] at h
      obtain ⟨first, c₁, hfirst, h⟩ := Scan.exists_of_bind_ok h
      obtain ⟨hread, hreach⟩ := parseExpr_follows fuel Level.whole c first c₁ hfirst
      cases hcomma : symbol? "," c₁.rest with
      | some rest =>
          rw [Scan.bind_of_ok (Scan.symbol?_of_some hcomma)] at h
          obtain ⟨others, c₂, hothers, h⟩ := Scan.exists_of_bind_ok h
          cases h
          obtain ⟨hread', hreach'⟩ := parseArguments_follows fuel _ others c' hothers
          have hpast := Cursor.reaches_past (symbol?_takes (by decide) hcomma)
          exact ⟨.more hread hcomma hread', hreach.trans (hpast.trans hreach')⟩
      | none =>
          rw [Scan.bind_of_ok (Scan.symbol?_of_none hcomma)] at h
          obtain ⟨_, c₂, hsymbol, h⟩ := Scan.exists_of_bind_ok h
          obtain ⟨rest, hclose, rfl⟩ := Scan.exists_of_symbol_ok hsymbol
          cases h
          have hpast := Cursor.reaches_past (symbol?_takes (by decide) hclose)
          exact ⟨.last hread hclose, hreach.trans hpast⟩

theorem parseRest_follows : (fuel : Nat) → (low high : Level) → (left : Expr) →
    Follows (ReadsRest low high left) (parseRest fuel low high left)
  | 0, low, high, left => by
      rw [parseRest]
      exact fail_follows _
  | fuel + 1, low, high, left => by
      intro c e c' h
      rw [parseRest] at h
      cases hop : between? low high c.rest with
      | some found =>
          obtain ⟨op, rest⟩ := found
          rw [Scan.bind_of_ok (operatorBetween?_of_some hop)] at h
          obtain ⟨right, c₁, hright, h⟩ := Scan.exists_of_bind_ok h
          obtain ⟨hread, hreach⟩ := parseExpr_follows fuel op.rightLevel _ right c₁ hright
          obtain ⟨hrest, hreach'⟩ :=
            parseRest_follows fuel low op.followLevel (.binary op left right) c₁ e c' h
          have hpast := Cursor.reaches_past (operator?_takes (between?_eq_some.mp hop).1)
          exact ⟨.operator hop hread hrest, (hpast.trans hreach).trans hreach'⟩
      | none =>
          rw [Scan.bind_of_ok (operatorBetween?_of_none hop)] at h
          cases h
          exact ⟨.stop hop, .refl c⟩

end

/-! ## Every reading is returned -/

/-- Wherever a cursor stands before `cs`, the reader returns `a` and leaves `rest`. -/
def Finds {α : Type} (p : Scan α) (cs : List Char) (a : α) (rest : List Char) : Prop :=
  ∀ c : Cursor, c.rest = cs → ∃ c', p c = .ok (a, c') ∧ c'.rest = rest

section Finds

variable {α β : Type} {p : Scan α} {f : α → Scan β} {a : α} {b : β} {cs cs₁ cs₂ : List Char}

theorem Finds.pure (a : α) (cs : List Char) : Finds (Pure.pure a) cs a cs := by
  intro c hc
  exact ⟨c, rfl, hc⟩

theorem Finds.bind (hp : Finds p cs a cs₁) (hf : Finds (f a) cs₁ b cs₂) :
    Finds (p >>= f) cs b cs₂ := by
  intro c hc
  obtain ⟨c₁, hp, hc₁⟩ := hp c hc
  rw [Scan.bind_of_ok hp]
  exact hf c₁ hc₁

theorem finds_symbol (h : symbol? s cs = some rest) : Finds (Scan.symbol s) cs () rest := by
  rintro c rfl
  exact ⟨_, Scan.symbol_of_some h, rfl⟩

theorem finds_symbol?_true (h : symbol? s cs = some rest) :
    Finds (Scan.symbol? s) cs true rest := by
  rintro c rfl
  exact ⟨_, Scan.symbol?_of_some h, rfl⟩

theorem finds_symbol?_false (h : symbol? s cs = none) : Finds (Scan.symbol? s) cs false cs := by
  rintro c rfl
  exact ⟨c, Scan.symbol?_of_none h, rfl⟩

theorem finds_operator {op : BinaryOp} (h : between? low high cs = some (op, rest)) :
    Finds (operatorBetween? low high) cs (some op) rest := by
  rintro c rfl
  exact ⟨_, operatorBetween?_of_some h, rfl⟩

theorem finds_no_operator (h : between? low high cs = none) :
    Finds (operatorBetween? low high) cs none cs := by
  rintro c rfl
  exact ⟨c, operatorBetween?_of_none h, rfl⟩

/-- A reader that goes on as another one behind `rest`. -/
theorem Finds.of_eq {q : Scan α} (heq : ∀ c : Cursor, c.rest = cs → p c = q (c.past cs₁))
    (hq : Finds q cs₁ a cs₂) : Finds p cs a cs₂ := by
  intro c hc
  rw [heq c hc]
  exact hq _ rfl

end Finds

mutual

/-- A reading of the grammar is returned by the reader, if its bound is large enough. -/
theorem ReadsExpr.finds {low : Level} {cs cs' : List Char} {e : Expr} : {fuel : Nat} →
    3 * cs.length + 3 ≤ fuel → ReadsExpr low cs e cs' → Finds (parseExpr fuel low) cs e cs'
  | fuel + 1, hfuel, .operand hoperand hrest => by
      have hle := hoperand.takes.length_le
      rw [parseExpr]
      exact (hoperand.finds (by omega)).bind (hrest.finds (by omega))

theorem ReadsOperand.finds {low high : Level} {cs cs' : List Char} {e : Expr} : {fuel : Nat} →
    3 * cs.length + 2 ≤ fuel → ReadsOperand low cs e high cs' →
      Finds (parseOperand fuel low) cs (e, high) cs'
  | fuel + 1, hfuel, .unary hsign he => by
      have hlt := sign?_length_lt hsign
      refine Finds.of_eq (fun c hc => parseOperand_of_sign (hc ▸ hsign)) ?_
      exact (he.finds (by omega)).bind (.pure _ _)
  | fuel + 1, hfuel, .atom hsign ha => by
      have hatom : Finds (do return (← parseAtom fuel, Level.atom)) cs (e, Level.atom) cs' :=
        (ha.finds (by omega)).bind (.pure _ _)
      intro c hc
      rw [parseOperand_of_none (hc ▸ hsign)]
      exact hatom c hc

theorem ReadsAtom.finds {cs cs' : List Char} {e : Expr} : {fuel : Nat} →
    3 * cs.length + 1 ≤ fuel → ReadsAtom cs e cs' → Finds (parseAtom fuel) cs e cs'
  | fuel + 1, _, .number h => fun c hc => ⟨_, parseAtom_of_number (hc ▸ h), rfl⟩
  | fuel + 1, _, .literal h => fun c hc => ⟨_, parseAtom_of_literal (hc ▸ h), rfl⟩
  | fuel + 1, _, .var h hopen => by
      refine Finds.of_eq (fun c hc => parseAtom_of_variable (hc ▸ h)) ?_
      exact (finds_symbol?_false hopen).bind (.pure _ _)
  | fuel + 1, hfuel, .element h hopen he hclose => by
      have hlt := token?_length_lt measures_variable h
      have hlt' := symbol?_length_lt (by decide) hopen
      refine Finds.of_eq (fun c hc => parseAtom_of_variable (hc ▸ h)) ?_
      refine (finds_symbol?_true hopen).bind ?_
      exact (he.finds (by omega)).bind ((finds_symbol hclose).bind (.pure _ _))
  | fuel + 1, _, .constant h hopen => by
      refine Finds.of_eq (fun c hc => parseAtom_of_name (hc ▸ h)) ?_
      exact (finds_symbol?_false hopen).bind (.pure _ _)
  | fuel + 1, _, .callNone h hopen hclose => by
      refine Finds.of_eq (fun c hc => parseAtom_of_name (hc ▸ h)) ?_
      refine (finds_symbol?_true hopen).bind ?_
      exact (finds_symbol?_true hclose).bind (.pure _ _)
  | fuel + 1, hfuel, .call h hopen hargs => by
      have hlt := token?_length_lt measures_name h
      have hlt' := symbol?_length_lt (by decide) hopen
      have hclose := symbol?_none_of_opens (s := ")") (by decide) (by decide) hargs.opens
      refine Finds.of_eq (fun c hc => parseAtom_of_name (hc ▸ h)) ?_
      refine (finds_symbol?_true hopen).bind ?_
      exact (finds_symbol?_false hclose).bind ((hargs.finds (by omega)).bind (.pure _ _))
  | fuel + 1, hfuel, .group hopen he hclose => by
      have hlt := symbol?_length_lt (by decide) hopen
      intro c hc
      rw [parseAtom_of_parenthesis (hc ▸ hopen)]
      refine ((finds_symbol hopen).bind ?_) c hc
      exact (he.finds (by omega)).bind ((finds_symbol hclose).bind (.pure _ _))

theorem ReadsArguments.finds {cs cs' : List Char} {args : List Expr} : {fuel : Nat} →
    3 * cs.length + 4 ≤ fuel → ReadsArguments cs args cs' →
      Finds (parseArguments fuel) cs args cs'
  | fuel + 1, hfuel, .last he hclose => by
      have hcomma := symbol?_none_of_opens (s := ",") (q := fun c => c == ')') (by decide)
        (by decide) (opens_of_symbol? (by decide) (by decide) hclose)
      rw [parseArguments]
      refine (he.finds (by omega)).bind ?_
      exact (finds_symbol?_false hcomma).bind ((finds_symbol hclose).bind (.pure _ _))
  | fuel + 1, hfuel, .more he hcomma hargs => by
      have hle := he.length_le
      have hlt := symbol?_length_lt (by decide) hcomma
      rw [parseArguments]
      refine (he.finds (by omega)).bind ?_
      exact (finds_symbol?_true hcomma).bind ((hargs.finds (by omega)).bind (.pure _ _))

theorem ReadsRest.finds {low high : Level} {left e : Expr} {cs cs' : List Char} :
    {fuel : Nat} → 3 * cs.length + 1 ≤ fuel → ReadsRest low high left cs e cs' →
      Finds (parseRest fuel low high left) cs e cs'
  | fuel + 1, _, .stop hop => by
      rw [parseRest]
      exact (finds_no_operator hop).bind (.pure _ _)
  | fuel + 1, hfuel, .operator hop he hrest => by
      have hlt := operator?_length_lt (between?_eq_some.mp hop).1
      have hle := he.length_le
      rw [parseRest]
      refine Finds.bind (finds_operator hop) ?_
      exact (he.finds (by omega)).bind (hrest.finds (by omega))

end

/-! ## Expressions with their texts -/

/-- A formula is read: the tree is what the characters spell, and the text is what lies between the
gaps in front and the characters that are left. -/
def ReadsFormula (cs : List Char) (f : Formula) (rest : List Char) : Prop :=
  ReadsExpr Level.whole cs f.tree rest ∧ skip cs = f.text.toList ++ rest

theorem ReadsFormula.unique {cs rest : List Char} {f g : Formula} (hf : ReadsFormula cs f rest)
    (hg : ReadsFormula cs g rest) (htree : f.tree = g.tree) : f = g := by
  have htext : f.text = g.text :=
    String.toList_inj.mp (List.append_cancel_right (hf.2.symm.trans hg.2))
  cases f
  cases g
  cases htext
  cases htree
  rfl

theorem parseFormula_reads {c c' : Cursor} {f : Formula} (h : parseFormula c = .ok (f, c')) :
    ReadsFormula c.rest f c'.rest := by
  simp only [parseFormula] at h
  split at h
  · next tree c₁ htree =>
    cases h
    obtain ⟨hread, hlength, hstop⟩ := parseExpr_follows c.exprFuel Level.whole c tree c' htree
    obtain ⟨w, hw, -⟩ := (hread.of_skip (skip_skip c.rest)).takes
    have hstop : c'.stop = c'.position := by
      rcases hstop with rfl | hstop
      · exact absurd hread.length_lt (Nat.lt_irrefl _)
      · exact hstop
    have hskip : (skip c.rest).length ≤ c.rest.length := by
      obtain ⟨gaps, hgaps, -⟩ := exists_gaps c.rest
      have := congrArg List.length hgaps
      rw [List.length_append] at this
      omega
    have htaken : c'.stop - c.skipGaps.position = w.length := by
      rw [hstop, Cursor.skipGaps_position]
      rw [hw, List.length_append] at hskip ⊢
      omega
    refine ⟨hread, ?_⟩
    rw [htaken, Cursor.skipGaps_rest, hw, List.take_left, String.toList_ofList]
  · cases h

theorem ReadsFormula.finds {cs rest : List Char} {f : Formula} (h : ReadsFormula cs f rest) :
    Finds parseFormula cs f rest := by
  rintro c rfl
  have hfinds : Finds (parseExpr c.exprFuel Level.whole) c.rest f.tree rest :=
    h.1.finds (by rw [Cursor.exprFuel]; omega)
  obtain ⟨c', hparse, hrest⟩ := hfinds c rfl
  have hformula : ∃ g : Formula, parseFormula c = .ok (g, c') ∧ g.tree = f.tree := by
    simp only [parseFormula, hparse]
    exact ⟨_, rfl, rfl⟩
  obtain ⟨g, hg, htree⟩ := hformula
  have hreads := parseFormula_reads hg
  rw [hrest] at hreads
  exact ⟨c', by rw [hg, hreads.unique h htree], hrest⟩

theorem ReadsExpr.exists_formula {cs rest : List Char} {e : Expr}
    (h : ReadsExpr Level.whole cs e rest) : ∃ f, ReadsFormula cs f rest ∧ f.tree = e := by
  obtain ⟨w, hw, -⟩ := (h.of_skip (skip_skip cs)).takes
  exact ⟨⟨String.ofList w, e⟩, ⟨h, by rw [String.toList_ofList]; exact hw⟩, rfl⟩

theorem whole_eq_ok {α : Type} {p : Scan α} {text : String} {a : α} :
    p.whole text = .ok a ↔ ∃ c', p (Cursor.ofText text) = .ok (a, c') ∧ skip c'.rest = [] := by
  have hrun {c : Cursor} {b : α} (h : p (Cursor.ofText text) = .ok (b, c)) :
      (do let a ← p; Scan.finish; return a : Scan α) (Cursor.ofText text) =
        if skip c.rest = [] then .ok (b, c) else .error c.faultPosition := by
    rw [Scan.bind_of_ok h]
    change (Scan.finish c >>= fun r => .ok (b, r.2)) = _
    simp only [Scan.finish, Cursor.atEnd_eq, List.isEmpty_iff]
    split <;> rfl
  constructor
  · intro h
    simp only [Scan.whole] at h
    split at h
    · next b c' hb =>
      cases h
      obtain ⟨b', c₁, hp, -⟩ := Scan.exists_of_bind_ok hb
      rw [hrun hp] at hb
      split at hb
      · next hend =>
        cases hb
        exact ⟨c', hp, hend⟩
      · cases hb
    · cases h
  · rintro ⟨c', hp, hend⟩
    simp only [Scan.whole, hrun hp, if_pos hend]

/-- The whole of a text is read as an expression if it is one up to gaps at the end. -/
theorem parseExpression_eq_ok {text : String} {e : Expr} :
    parseExpression text = .ok e ↔
      ∃ rest, ReadsExpr Level.whole text.toList e rest ∧ skip rest = [] := by
  have hwhole : parseExpression text = (parseFormula.whole text).map (·.tree) := by
    rw [parseExpression]
    cases parseFormula.whole text <;> rfl
  rw [hwhole]
  constructor
  · intro h
    cases hf : parseFormula.whole text with
    | error fault =>
        rw [hf] at h
        cases h
    | ok f =>
        rw [hf] at h
        cases h
        obtain ⟨c', hparse, hend⟩ := whole_eq_ok.mp hf
        exact ⟨c'.rest, (parseFormula_reads hparse).1, hend⟩
  · rintro ⟨rest, hread, hend⟩
    obtain ⟨f, hf, rfl⟩ := hread.exists_formula
    obtain ⟨c', hparse, rfl⟩ := hf.finds (Cursor.ofText text) rfl
    rw [whole_eq_ok.mpr ⟨c', hparse, hend⟩]
    rfl

end LineBasic

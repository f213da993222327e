import LineBasic.Proofs.Grammar.Parsing

/-!
# Writing expressions and reading them again

An expression is written as a list of tokens, with parentheses only around operands whose level is
below the one that their place asks for. Tokens are put into a text with gaps between them. Reading
such a text gives the expression back.

The reader builds the tree from left to right, so the tokens of an operand are followed by operators
that belong to the surroundings. The invariant `Expr.Rereads` therefore speaks about what is read
after the tokens of an expression: whatever goes on from the expression as a left operand goes on
from the start of its tokens.
-/

namespace LineBasic

open Unread
open Token (Bounded)

/-! ## Tokens of expressions -/

/-- The level of the outermost operator of an expression. -/
def Expr.level : Expr → Level
  | .unary op _ => op.level
  | .binary op _ _ => op.level
  | _ => Level.atom

/-- The highest level of an operator that may follow an expression without parentheses. -/
def Expr.followLevel : Expr → Level
  | .unary op _ => op.level
  | .binary op _ _ => op.followLevel
  | _ => Level.atom

/-- Tokens of an expression of a level where at least the level `required` is asked for. -/
def enclose (required level : Level) (tokens : List String) : List String :=
  if level < required then "(" :: tokens ++ [")"] else tokens

mutual

/-- The tokens of an expression. An operand is put in parentheses only where its level is below the
least one that its place admits. -/
def Expr.tokens : Expr → List String
  | .number digits => [digits]
  | .literal quoted => [quoted]
  | .var name => [name]
  | .element name index => name :: "[" :: index.tokens ++ ["]"]
  | .constant name => [name]
  | .call name args => name :: "(" :: argumentTokens args ++ [")"]
  | .unary op operand => op.symbol :: enclose op.level operand.level operand.tokens
  | .binary op left right =>
    enclose op.leftLevel left.level left.tokens ++
      op.symbol :: enclose op.rightLevel right.level right.tokens

def argumentTokens : List Expr → List String
  | [] => []
  | [e] => e.tokens
  | e :: a :: args => e.tokens ++ "," :: argumentTokens (a :: args)

end

/-- The text is one token of a kind as a whole. -/
def IsToken (length : List Char → Nat) (s : String) : Prop :=
  s.toList ≠ [] ∧ length s.toList = s.toList.length

/-- The text is a name other than the operator. -/
def IsName (s : String) : Prop := IsToken Token.nameLength s ∧ s ≠ "NOT"

mutual

/-- The leaves of an expression are tokens of their kinds. -/
def Expr.Valid : Expr → Prop
  | .number digits => IsToken Token.numberLength digits
  | .literal quoted => IsToken Token.literalLength quoted
  | .var name => IsToken Token.variableLength name
  | .element name index => IsToken Token.variableLength name ∧ index.Valid
  | .constant name => IsName name
  | .call name args => IsName name ∧ ValidArguments args
  | .unary _ operand => operand.Valid
  | .binary _ left right => left.Valid ∧ right.Valid

def ValidArguments : List Expr → Prop
  | [] => True
  | e :: args => e.Valid ∧ ValidArguments args

end

/-! ## Tokens with gaps between them -/

/-- The tokens in their order, with at least one gap between adjacent ones. -/
inductive Spaced : List String → List Char → Prop
  | single (token : String) : Spaced [token] token.toList
  | cons {token : String} {tokens : List String} {gaps cs : List Char} :
      gaps ≠ [] → (∀ c ∈ gaps, Text.isGap c = true) → Spaced tokens cs →
      Spaced (token :: tokens) (token.toList ++ (gaps ++ cs))

/-- A token stands behind gaps, and nothing or a gap follows it. -/
def Spelled (token : String) (cs rest : List Char) : Prop :=
  ∃ gaps, cs = gaps ++ (token.toList ++ rest) ∧ (∀ c ∈ gaps, Text.isGap c = true) ∧ Bounded rest

/-- Tokens stand at the start of a text, each between gaps, and `rest` follows them. -/
def Spells : List String → List Char → List Char → Prop
  | [], cs, rest => cs = rest
  | token :: tokens, cs, rest => ∃ cs₁, Spelled token cs cs₁ ∧ Spells tokens cs₁ rest

theorem spells_append {front back : List String} {cs rest : List Char} :
    Spells (front ++ back) cs rest ↔ ∃ cs₁, Spells front cs cs₁ ∧ Spells back cs₁ rest := by
  induction front generalizing cs with
  | nil => simp [Spells]
  | cons token tokens ih =>
      simp only [List.cons_append, Spells, ih]
      constructor
      · rintro ⟨cs₁, htoken, cs₂, hfront, hback⟩
        exact ⟨cs₂, ⟨cs₁, htoken, hfront⟩, hback⟩
      · rintro ⟨cs₂, ⟨cs₁, htoken, hfront⟩, hback⟩
        exact ⟨cs₁, htoken, cs₂, hfront, hback⟩

theorem spells_singleton {token : String} {cs rest : List Char} :
    Spells [token] cs rest ↔ Spelled token cs rest := by
  simp [Spells]

theorem bounded_append {gaps : List Char} (hne : gaps ≠ [])
    (hgaps : ∀ c ∈ gaps, Text.isGap c = true) (cs : List Char) : Bounded (gaps ++ cs) := by
  intro c hc
  rw [List.head?_append, List.head?_eq_some_head hne, Option.some_or, Option.mem_some_iff] at hc
  exact hgaps c (hc ▸ List.head_mem hne)

/-- More gaps in front of the first token. -/
theorem Spells.gaps_append {tokens : List String} {gaps cs rest : List Char} (hne : tokens ≠ [])
    (h : Spells tokens cs rest) (hgaps : ∀ c ∈ gaps, Text.isGap c = true) :
    Spells tokens (gaps ++ cs) rest := by
  cases tokens with
  | nil => exact absurd rfl hne
  | cons token tokens =>
      obtain ⟨cs₁, ⟨gaps', rfl, hgaps', hbounded⟩, htokens⟩ := h
      refine ⟨cs₁, ⟨gaps ++ gaps', (List.append_assoc _ _ _).symm, ?_, hbounded⟩, htokens⟩
      intro c hc
      rcases List.mem_append.mp hc with hc | hc
      · exact hgaps c hc
      · exact hgaps' c hc

theorem Spaced.spells {tokens : List String} {cs : List Char} (h : Spaced tokens cs) :
    Spells tokens cs [] := by
  induction h with
  | single token =>
      refine spells_singleton.mpr ⟨[], (List.append_nil _).symm, ?_, ?_⟩
      · intro c hc
        cases hc
      · intro c hc
        cases hc
  | @cons token tokens gaps cs hne hgaps htokens ih =>
      have hbounded := bounded_append hne hgaps cs
      have hnil : tokens ≠ [] := by
        cases htokens <;> simp
      exact ⟨gaps ++ cs, ⟨[], rfl, by simp, hbounded⟩, ih.gaps_append hnil hgaps⟩

/-! ## Reading a token that stands between gaps -/

section Spelled

variable {s : String} {cs rest : List Char} {length : List Char → Nat}

theorem isGap_of_isInk {c : Char} (h : Token.isInk c = true) : Text.isGap c = false := by
  by_cases hgap : Text.isGap c = true
  · rw [Token.isInk, Text.isBlank_of_isGap hgap] at h
    cases h
  · simpa using hgap

theorem Spelled.skip_eq (h : Spelled s cs rest)
    (hs : ∃ c tail, s.toList = c :: tail ∧ Token.isInk c = true) : skip cs = s.toList ++ rest := by
  obtain ⟨gaps, rfl, hgaps, -⟩ := h
  obtain ⟨c, tail, htail, hc⟩ := hs
  rw [skip_append_of_gaps hgaps, htail, List.cons_append]
  simp [skip, isGap_of_isInk hc]

theorem Spelled.bounded (h : Spelled s cs rest) : Bounded rest := by
  obtain ⟨gaps, -, -, hbounded⟩ := h
  exact hbounded

theorem Spelled.symbol? (h : Spelled s cs rest) (hs : IsSymbol s) :
    symbol? s cs = some rest := by
  apply symbol?_eq_some.mpr
  apply h.skip_eq
  cases htail : s.toList with
  | nil => exact absurd htail hs.1
  | cons c tail => exact ⟨c, tail, rfl, (hs.2 c (by rw [htail]; exact List.mem_cons_self)).1⟩

/-- A token between gaps is found, for a kind whose tokens start with ink and end before a gap. -/
theorem Spelled.token? (h : Spelled s cs rest) (hm : Measures length) (hs : IsToken length s)
    (hink : ∀ {c : Char} {tail : List Char}, length (c :: tail) ≠ 0 → Token.isInk c = true)
    (hends : length (s.toList ++ rest) = length s.toList) :
    token? length cs = some (s, rest) := by
  obtain ⟨hne, hlength⟩ := hs
  refine (token?_eq_some hm).mpr ⟨h.skip_eq ?_, hne, hends.trans hlength⟩
  cases htail : s.toList with
  | nil => exact absurd htail hne
  | cons c tail => exact ⟨c, tail, rfl, hink (by rw [← htail, hlength, htail]; simp)⟩

theorem Spelled.numberToken (h : Spelled s cs rest) (hs : IsToken Token.numberLength s) :
    Unread.token? Token.numberLength cs = some (s, rest) := by
  refine h.token? measures_number hs ?_ (Token.numberLength_append h.bounded)
  intro c tail hc
  exact (Bool.and_eq_true_iff.mp (opensExpr_of_startsNumber (startsNumber_of_length hc))).1

theorem Spelled.literalToken (h : Spelled s cs rest) (hs : IsToken Token.literalLength s) :
    Unread.token? Token.literalLength cs = some (s, rest) := by
  refine h.token? measures_literal hs ?_ (Token.literalLength_append ?_ rest)
  · intro c tail hc
    exact (Bool.and_eq_true_iff.mp (opensExpr_of_startsLiteral (startsLiteral_of_length hc))).1
  · rw [hs.2]
    exact fun hzero => hs.1 (List.eq_nil_of_length_eq_zero hzero)

theorem Spelled.variableToken (h : Spelled s cs rest) (hs : IsToken Token.variableLength s) :
    Unread.token? Token.variableLength cs = some (s, rest) := by
  have hvariable : Token.IsVariable s.toList :=
    (Token.isVariable_of_length (r := []) (by rw [List.append_nil]; exact hs.2) hs.1
      (by intro c hc; cases hc)).1
  have hruns : Token.runsOn rest = false := by
    cases rest with
    | nil => rfl
    | cons c rest => exact h.bounded.head (p := Token.isWordStart) (by decide) c rfl
  refine h.token? measures_variable hs ?_ ?_
  · exact fun hc => Token.isInk_of_isLetter (Token.isLetter_of_variableLength hc)
  · rw [hs.2]
    exact hvariable.length_append h.bounded.clear hruns

theorem Spelled.nameToken (h : Spelled s cs rest) (hs : IsToken Token.nameLength s) :
    Unread.token? Token.nameLength cs = some (s, rest) := by
  refine h.token? measures_name hs ?_ (Token.nameLength_append h.bounded)
  exact fun hc => Token.isInk_of_isLetter (Token.isLetter_of_nameLength hc)

/-- An operator between gaps is not taken for one whose symbol starts or prolongs its own. -/
theorem Spelled.operator? {op : BinaryOp} (h : Spelled op.symbol cs rest) :
    Unread.operator? cs = some (op, rest) := by
  have hskip := symbol?_eq_some.mp (h.symbol? (isSymbol_operator op))
  have hbounded := h.bounded
  simp only [Unread.operator?, BinaryOp.all, Unread.symbol?, hskip]
  cases rest with
  | nil => cases op <;> rfl
  | cons c rest =>
      rcases Token.eq_of_isGap (hbounded c rfl) with rfl | rfl
      · cases op <;> rfl
      · cases op <;> rfl

theorem Spelled.sign? {op : UnaryOp} {low : Level} (h : Spelled op.symbol cs rest)
    (hlow : low ≤ op.level) : Unread.sign? low cs = some (op, rest) := by
  apply sign?_eq_some.mpr
  cases op with
  | not =>
      refine .inl ⟨rfl, hlow, word?_eq_some.mpr (h.nameToken ?_)⟩
      exact ⟨by decide, by decide⟩
  | neg => exact .inr (.inl ⟨rfl, h.symbol? (by decide)⟩)
  | pos => exact .inr (.inr ⟨rfl, h.symbol? (by decide)⟩)

end Spelled

/-! ## What follows an expression -/

/-- What comes next neither belongs to an atom in front nor is an operator above the level `high`.
-/
structure Permits (high : Level) (cs : List Char) : Prop where
  bracket : symbol? "[" cs = none
  parenthesis : symbol? "(" cs = none
  level : ∀ op rest, operator? cs = some (op, rest) → op.level ≤ high

theorem permits_operator {op : BinaryOp} {high : Level} {cs rest : List Char}
    (h : Spelled op.symbol cs rest) (hlevel : op.level ≤ high) : Permits high cs := by
  have hopens : Opens (fun c => c != '[' && c != '(') cs :=
    opens_of_symbol? (isSymbol_operator op) (by cases op <;> decide)
      (h.symbol? (isSymbol_operator op))
  refine ⟨symbol?_none_of_opens (by decide) (by decide) hopens,
    symbol?_none_of_opens (by decide) (by decide) hopens, ?_⟩
  intro op' rest' hop
  rw [h.operator?] at hop
  cases hop
  exact hlevel

def isClosing (c : Char) : Bool := c == ')' || c == ']' || c == ','

/-- An expression is over: nothing or a closing symbol comes next. -/
def Closes (cs : List Char) : Prop := skip cs = [] ∨ Opens isClosing cs

theorem Closes.symbol?_eq_none {s : String} {cs : List Char} (h : Closes cs) (hs : IsSymbol s)
    (hclosing : starts isClosing s = false) : symbol? s cs = none := by
  rcases h with hnil | hopens
  · cases hsymbol : symbol? s cs with
    | none => rfl
    | some rest =>
        rw [symbol?_eq_some, hnil] at hsymbol
        exact absurd (List.append_eq_nil_iff.mp hsymbol.symm).1 hs.1
  · exact symbol?_none_of_opens hs hclosing hopens

theorem Closes.operator?_eq_none {cs : List Char} (h : Closes cs) : operator? cs = none := by
  rw [operator?, List.findSome?_eq_none_iff]
  intro op _
  rw [Option.map_eq_none_iff]
  exact h.symbol?_eq_none (isSymbol_operator op) (by cases op <;> decide)

theorem Closes.permits {high : Level} {cs : List Char} (h : Closes cs) : Permits high cs := by
  refine ⟨h.symbol?_eq_none (by decide) (by decide), h.symbol?_eq_none (by decide) (by decide), ?_⟩
  intro op rest hop
  rw [h.operator?_eq_none] at hop
  cases hop

theorem Closes.stop {low high : Level} {e : Expr} {cs : List Char} (h : Closes cs) :
    ReadsRest low high e cs e cs := by
  refine .stop (between?_eq_none.mpr ?_)
  intro op rest hop
  rw [h.operator?_eq_none] at hop
  cases hop

theorem Spelled.closes {s : String} {cs rest : List Char} (h : Spelled s cs rest)
    (hs : IsSymbol s) (hclosing : starts isClosing s = true) : Closes cs :=
  .inr (opens_of_symbol? hs hclosing (h.symbol? hs))

/-! ## Levels

An operator that may follow an expression binds looser than the right operand of that expression has
to, and an operand whose level suffices for its place lets the operator there follow.
-/

theorem BinaryOp.level_lt_rightLevel {op next : BinaryOp} (h : next.level ≤ op.followLevel) :
    next.level < op.rightLevel := by
  cases op <;> cases next <;> revert h <;> decide

theorem UnaryOp.level_lt_level {op : UnaryOp} {next : BinaryOp} (h : next.level ≤ op.level) :
    next.level < op.level := by
  cases op <;> cases next <;> revert h <;> decide

theorem BinaryOp.level_lt_atom (op : BinaryOp) : op.level < Level.atom := by
  cases op <;> decide

theorem BinaryOp.level_le_leftLevel (op : BinaryOp) : op.level ≤ op.leftLevel := by
  cases op <;> decide

theorem BinaryOp.level_le_followLevel (op : BinaryOp) : op.level ≤ op.followLevel + 1 := by
  cases op <;> decide

theorem BinaryOp.level_le_of_left {op inner : BinaryOp} (h : op.leftLevel ≤ inner.level) :
    op.level ≤ inner.followLevel := by
  cases op <;> cases inner <;> revert h <;> decide

theorem Expr.level_le_followLevel (e : Expr) : e.level ≤ e.followLevel + 1 := by
  cases e with
  | unary op _ => exact Nat.le_succ op.level
  | binary op _ _ => exact op.level_le_followLevel
  | _ => exact Nat.le_succ Level.atom

theorem Expr.level_le_of_left {op : BinaryOp} {left : Expr} (h : op.leftLevel ≤ left.level) :
    op.level ≤ left.followLevel := by
  cases left with
  | unary sign _ => exact Nat.le_trans op.level_le_leftLevel h
  | binary inner _ _ => exact BinaryOp.level_le_of_left h
  | _ => exact Nat.le_of_lt op.level_lt_atom

/-! ## Reading the tokens of an expression -/

/-- What is read from the expression as a left operand is read from the start of its tokens. -/
def Expr.Rereads (e : Expr) : Prop :=
  ∀ ⦃low : Level⦄ ⦃cs m cs' : List Char⦄ ⦃e' : Expr⦄, Spells e.tokens cs m → low ≤ e.level →
    Permits e.followLevel m → ReadsRest low e.followLevel e m e' cs' → ReadsExpr low cs e' cs'

/-- The highest level of an operator that may follow an expression in the place of an operand. -/
def Expr.followLevelAt (required : Level) (e : Expr) : Level :=
  if e.level < required then Level.atom else e.followLevel

section Rereads

variable {e e' : Expr} {low required : Level} {cs m cs' : List Char}

theorem Expr.Rereads.closed (h : e.Rereads) (htokens : Spells e.tokens cs m) (hm : Closes m) :
    ReadsExpr Level.whole cs e m :=
  h htokens (Nat.zero_le _) hm.permits hm.stop

theorem sign?_eq_none_of_opens {p : Char → Bool} (hword : word? "NOT" cs = none)
    (hp : p '-' = false ∧ p '+' = false) (h : Opens p cs) : sign? low cs = none := by
  refine sign?_eq_none.mpr ⟨fun _ => hword, ?_, ?_⟩
  · exact symbol?_none_of_opens (by decide) hp.1 h
  · exact symbol?_none_of_opens (by decide) hp.2 h

theorem Expr.Rereads.group (h : e.Rereads) (htokens : Spells ("(" :: e.tokens ++ [")"]) cs m)
    (hrest : ReadsRest low Level.atom e m e' cs') : ReadsExpr low cs e' cs' := by
  obtain ⟨cs₁, hopen, htokens⟩ := htokens
  obtain ⟨cs₂, htokens, hclose⟩ := spells_append.mp htokens
  rw [spells_singleton] at hclose
  have hread := h.closed htokens (hclose.closes (by decide) (by decide))
  have hsymbol := hopen.symbol? (by decide)
  have hopens : Opens (fun c => c == '(') cs := opens_of_symbol? (by decide) (by decide) hsymbol
  have hword : word? "NOT" cs = none := word?_none_of_symbol? (by decide) (by decide) hsymbol
  refine .operand (.atom ?_ (.group hsymbol hread (hclose.symbol? (by decide)))) hrest
  exact sign?_eq_none_of_opens hword (by decide) hopens

/-- The same for an operand, which may be in parentheses. -/
theorem Expr.Rereads.enclosed (h : e.Rereads)
    (htokens : Spells (enclose required e.level e.tokens) cs m) (hlow : low ≤ required)
    (hm : Permits (e.followLevelAt required) m)
    (hrest : ReadsRest low (e.followLevelAt required) e m e' cs') : ReadsExpr low cs e' cs' := by
  unfold enclose at htokens
  unfold Expr.followLevelAt at hm hrest
  split at htokens
  · next hlevel =>
    rw [if_pos hlevel] at hrest
    exact h.group htokens hrest
  · next hlevel =>
    rw [if_neg hlevel] at hm hrest
    exact h htokens (Nat.le_trans hlow (Nat.le_of_not_lt hlevel)) hm hrest

/-- An operand on the right ends where no operator of its level can follow. -/
theorem Expr.Rereads.right (h : e.Rereads)
    (htokens : Spells (enclose required e.level e.tokens) cs m)
    (hbracket : symbol? "[" m = none) (hparenthesis : symbol? "(" m = none)
    (hlevel : ∀ op rest, operator? m = some (op, rest) → op.level < required) :
    ReadsExpr required cs e m := by
  refine h.enclosed htokens (Nat.le_refl required) ⟨hbracket, hparenthesis, ?_⟩ (.stop ?_)
  · intro op rest hop
    unfold Expr.followLevelAt
    split
    · exact Nat.le_of_lt op.level_lt_atom
    · next hle =>
      have hlt : op.level < e.level :=
        Nat.lt_of_lt_of_le (hlevel op rest hop) (Nat.le_of_not_lt hle)
      exact Nat.le_of_lt_succ (Nat.lt_of_lt_of_le hlt e.level_le_followLevel)
  · rw [between?_eq_none]
    intro op rest hop hbetween
    exact absurd hbetween.1 (Nat.not_le_of_lt (hlevel op rest hop))

end Rereads

section Leaves

variable {e e' : Expr} {s : String} {low : Level} {cs m cs' : List Char}

theorem sign?_eq_none_of_number (h : token? Token.numberLength cs = some (s, m)) :
    sign? low cs = none := by
  have hopens := opens_of_token? measures_number startsNumber_of_length h
  have hword : word? "NOT" cs = none :=
    word?_none_of_opens (fun _ => isLetter_of_startsNumber) hopens
  exact sign?_eq_none_of_opens hword (by decide) hopens

theorem sign?_eq_none_of_literal (h : token? Token.literalLength cs = some (s, m)) :
    sign? low cs = none := by
  have hopens := opens_of_token? measures_literal startsLiteral_of_length h
  have hword : word? "NOT" cs = none :=
    word?_none_of_opens (fun _ => isLetter_of_startsLiteral) hopens
  exact sign?_eq_none_of_opens hword (by decide) hopens

theorem sign?_eq_none_of_variable (h : token? Token.variableLength cs = some (s, m)) :
    sign? low cs = none := by
  have hopens := opens_of_token? measures_variable Token.isLetter_of_variableLength h
  exact sign?_eq_none_of_opens (word?_none_of_variable h) (by decide) hopens

theorem sign?_eq_none_of_name (h : token? Token.nameLength cs = some (s, m)) (hs : s ≠ "NOT") :
    sign? low cs = none := by
  have hopens := opens_of_token? measures_name Token.isLetter_of_nameLength h
  have hword : word? "NOT" cs = none := by
    rw [word?_of_name h, if_neg (by simpa using hs)]
  exact sign?_eq_none_of_opens hword (by decide) hopens

end Leaves

mutual

theorem Expr.rereads : (e : Expr) → e.Valid → e.Rereads
  | .number digits, hvalid => by
      intro low cs m cs' e' htokens _ _ hrest
      have hnumber := (spells_singleton.mp htokens).numberToken hvalid
      exact .operand (.atom (sign?_eq_none_of_number hnumber) (.number hnumber)) hrest
  | .literal quoted, hvalid => by
      intro low cs m cs' e' htokens _ _ hrest
      have hliteral := (spells_singleton.mp htokens).literalToken hvalid
      exact .operand (.atom (sign?_eq_none_of_literal hliteral) (.literal hliteral)) hrest
  | .var name, hvalid => by
      intro low cs m cs' e' htokens _ hm hrest
      have hvariable := (spells_singleton.mp htokens).variableToken hvalid
      exact .operand (.atom (sign?_eq_none_of_variable hvariable) (.var hvariable hm.bracket)) hrest
  | .element name index, hvalid => by
      intro low cs m cs' e' htokens _ _ hrest
      obtain ⟨cs₁, hname, cs₂, hopen, htokens⟩ := htokens
      obtain ⟨cs₃, htokens, hclose⟩ := spells_append.mp htokens
      rw [spells_singleton] at hclose
      have hvariable := hname.variableToken hvalid.1
      have hindex := (index.rereads hvalid.2).closed htokens (hclose.closes (by decide) (by decide))
      refine .operand (.atom (sign?_eq_none_of_variable hvariable) ?_) hrest
      exact .element hvariable (hopen.symbol? (by decide)) hindex (hclose.symbol? (by decide))
  | .constant name, hvalid => by
      intro low cs m cs' e' htokens _ hm hrest
      have hname := (spells_singleton.mp htokens).nameToken hvalid.1
      exact .operand
        (.atom (sign?_eq_none_of_name hname hvalid.2) (.constant hname hm.parenthesis)) hrest
  | .call name args, hvalid => by
      intro low cs m cs' e' htokens _ _ hrest
      obtain ⟨cs₁, hname, cs₂, hopen, htokens⟩ := htokens
      have hname' := hname.nameToken hvalid.1.1
      refine .operand (.atom (sign?_eq_none_of_name hname' hvalid.1.2) ?_) hrest
      by_cases hargs : args = []
      · subst hargs
        exact .callNone hname' (hopen.symbol? (by decide))
          ((spells_singleton.mp htokens).symbol? (by decide))
      · exact .call hname' (hopen.symbol? (by decide))
          (rereads_arguments args hargs hvalid.2 htokens)
  | .unary op operand, hvalid => by
      intro low cs m cs' e' htokens hlow hm hrest
      obtain ⟨cs₁, hsign, htokens⟩ := htokens
      have hread : ReadsExpr op.level cs₁ operand m :=
        (operand.rereads hvalid).right htokens hm.bracket hm.parenthesis fun next rest hnext =>
          UnaryOp.level_lt_level (hm.level next rest hnext)
      exact .operand (.unary (hsign.sign? hlow) hread) hrest
  | .binary op left right, hvalid => by
      intro low cs m cs' e' htokens hlow hm hrest
      obtain ⟨cs₁, hleft, cs₂, hop, hright⟩ := spells_append.mp htokens
      have hread : ReadsExpr op.rightLevel cs₂ right m :=
        (right.rereads hvalid.2).right hright hm.bracket hm.parenthesis fun next rest hnext =>
          BinaryOp.level_lt_rightLevel (hm.level next rest hnext)
      have hlevel : op.level ≤ left.followLevelAt op.leftLevel := by
        unfold Expr.followLevelAt
        split
        · exact Nat.le_of_lt op.level_lt_atom
        · next hle => exact Expr.level_le_of_left (Nat.le_of_not_lt hle)
      have hbetween : between? low (left.followLevelAt op.leftLevel) cs₁ = some (op, cs₂) :=
        between?_eq_some.mpr ⟨hop.operator?, hlow, hlevel⟩
      exact (left.rereads hvalid.1).enclosed hleft (Nat.le_trans hlow op.level_le_leftLevel)
        (permits_operator hop hlevel) (.operator hbetween hread hrest)

theorem rereads_arguments : (args : List Expr) → args ≠ [] → ValidArguments args →
    ∀ ⦃cs m : List Char⦄, Spells (argumentTokens args ++ [")"]) cs m → ReadsArguments cs args m
  | [], hne, _ => absurd rfl hne
  | [e], _, hvalid => by
      intro cs m htokens
      obtain ⟨cs₁, htokens, hclose⟩ := spells_append.mp htokens
      rw [spells_singleton] at hclose
      have hread := (e.rereads hvalid.1).closed htokens (hclose.closes (by decide) (by decide))
      exact .last hread (hclose.symbol? (by decide))
  | e :: a :: args, _, hvalid => by
      intro cs m htokens
      rw [argumentTokens, List.append_assoc] at htokens
      obtain ⟨cs₁, htokens, cs₂, hcomma, hargs⟩ := spells_append.mp htokens
      have hread := (e.rereads hvalid.1).closed htokens (hcomma.closes (by decide) (by decide))
      exact .more hread (hcomma.symbol? (by decide))
        (rereads_arguments (a :: args) (List.cons_ne_nil a args) hvalid.2 hargs)

end

def spaceOut : List String → List Char
  | [] => []
  | [token] => token.toList
  | token :: next :: tokens => token.toList ++ ([' '] ++ spaceOut (next :: tokens))

theorem spaced_spaceOut {tokens : List String} (h : tokens ≠ []) :
    Spaced tokens (spaceOut tokens) := by
  induction tokens with
  | nil => exact absurd rfl h
  | cons token tokens ih =>
      cases tokens with
      | nil => exact .single token
      | cons next tokens =>
          exact .cons (by simp) (by simp [Text.isGap]) (ih (List.cons_ne_nil next tokens))

theorem Expr.tokens_ne_nil (e : Expr) : e.tokens ≠ [] := by
  cases e <;> simp [Expr.tokens]

/-- A valid expression can be written down, and however many gaps are put between its tokens,
reading the text gives the expression back. -/
theorem parseExpression_of_spaced (e : Expr) (hvalid : e.Valid) :
    (∃ text : String, Spaced e.tokens text.toList) ∧
      ∀ text : String, Spaced e.tokens text.toList → parseExpression text = .ok e := by
  constructor
  · refine ⟨String.ofList (spaceOut e.tokens), ?_⟩
    rw [String.toList_ofList]
    exact spaced_spaceOut e.tokens_ne_nil
  · intro text htext
    have hread := (e.rereads hvalid).closed htext.spells (.inl rfl)
    exact parseExpression_eq_ok.mpr ⟨[], hread, rfl⟩

theorem parseExpression_of_spaced_signs :
    Spaced ["NOT", "(", "-", "PI", ")", "^", "-", "A1"] "NOT ( -  PI )\t^ - A1".toList ∧
      parseExpression "NOT ( -  PI )\t^ - A1" =
        .ok (.unary .not
          (.binary .pow (.unary .neg (.constant "PI")) (.unary .neg (.var "A1")))) := by
  have hvalid : Expr.Valid
      (.unary .not (.binary .pow (.unary .neg (.constant "PI")) (.unary .neg (.var "A1")))) :=
    ⟨⟨⟨by decide, by decide⟩, by decide⟩, by decide, by decide⟩
  have hgaps (gaps : List Char) (h : gaps.all Text.isGap = true) :
      ∀ c ∈ gaps, Text.isGap c = true := List.all_eq_true.mp h
  have htext : Spaced ["NOT", "(", "-", "PI", ")", "^", "-", "A1"]
      "NOT ( -  PI )\t^ - A1".toList :=
    .cons (by simp) (hgaps [' '] rfl) <| .cons (by simp) (hgaps [' '] rfl) <|
      .cons (by simp) (hgaps [' ', ' '] rfl) <| .cons (by simp) (hgaps [' '] rfl) <|
      .cons (by simp) (hgaps ['\t'] rfl) <| .cons (by simp) (hgaps [' '] rfl) <|
      .cons (by simp) (hgaps [' '] rfl) <| .single "A1"
  exact ⟨htext, (parseExpression_of_spaced _ hvalid).2 _ htext⟩

end LineBasic

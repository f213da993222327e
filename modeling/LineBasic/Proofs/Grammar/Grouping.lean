import LineBasic.Proofs.Grammar.Printing

/-!
# What the text of an expression is made of

An expression is written down as a list of pieces: its own tokens in their order, and the
parentheses that only group. `Writes low e pieces` says so, and that every operand is of a level
that its place admits or stands in such parentheses. Without them the pieces are the tokens of the
expression from left to right (`Writes.ungrouped`).

The reader takes every text apart into pieces like these. Nothing but blanks between the pieces is
passed over. A text is read from left to right, so the invariant of the operators behind a left
operand (`ReadsRest.exists_pieces`) asks of that operand to be written at the level of the left side
of every operator that may still follow it.
-/

namespace LineBasic

open Unread

/-! ## Pieces -/

/-- A piece of a written expression: a token of its own, or a parenthesis that only groups. -/
inductive Piece where
  | token (text : String)
  | opening
  | closing
deriving DecidableEq, Repr

namespace Piece

def chars : Piece → List Char
  | .token text => text.toList
  | .opening => ['(']
  | .closing => [')']

def groups : Piece → Bool
  | .token _ => false
  | _ => true

end Piece

def pieceChars (pieces : List Piece) : List Char := pieces.flatMap Piece.chars

@[simp] theorem pieceChars_nil : pieceChars [] = [] := rfl

@[simp] theorem pieceChars_cons (piece : Piece) (pieces : List Piece) :
    pieceChars (piece :: pieces) = piece.chars ++ pieceChars pieces := rfl

@[simp] theorem pieceChars_append (front back : List Piece) :
    pieceChars (front ++ back) = pieceChars front ++ pieceChars back :=
  List.flatMap_append

/-- The pieces that do not only group. -/
def ungrouped (pieces : List Piece) : List Piece := pieces.filter fun piece => !piece.groups

@[simp] theorem ungrouped_nil : ungrouped [] = [] := rfl

@[simp] theorem ungrouped_token (text : String) (pieces : List Piece) :
    ungrouped (.token text :: pieces) = .token text :: ungrouped pieces := rfl

@[simp] theorem ungrouped_opening (pieces : List Piece) :
    ungrouped (.opening :: pieces) = ungrouped pieces := rfl

@[simp] theorem ungrouped_closing (pieces : List Piece) :
    ungrouped (.closing :: pieces) = ungrouped pieces := rfl

@[simp] theorem ungrouped_append (front back : List Piece) :
    ungrouped (front ++ back) = ungrouped front ++ ungrouped back :=
  List.filter_append ..

mutual

/-- The tokens of an expression from left to right, without any that only group: the texts of the
leaves, the symbols of the operators, the brackets of an index, and the parentheses and commas of a
call. -/
def Expr.inOrder : Expr → List String
  | .number digits => [digits]
  | .literal quoted => [quoted]
  | .var name => [name]
  | .element name index => name :: "[" :: index.inOrder ++ ["]"]
  | .constant name => [name]
  | .call name args => name :: "(" :: argumentsInOrder args ++ [")"]
  | .unary op operand => op.symbol :: operand.inOrder
  | .binary op left right => left.inOrder ++ op.symbol :: right.inOrder

def argumentsInOrder : List Expr → List String
  | [] => []
  | [e] => e.inOrder
  | e :: a :: args => e.inOrder ++ "," :: argumentsInOrder (a :: args)

end

/-! ## Written expressions -/

mutual

/-- The pieces write an expression where at least the level `low` is asked for. Leaves are tokens
of their kinds. Only a group and what is an atom anyway may stand where the level of the expression
would not do. -/
inductive Writes : Level → Expr → List Piece → Prop
  | number {low : Level} {digits : String} :
      IsToken Token.numberLength digits → Writes low (.number digits) [.token digits]
  | literal {low : Level} {quoted : String} :
      IsToken Token.literalLength quoted → Writes low (.literal quoted) [.token quoted]
  | var {low : Level} {name : String} :
      IsToken Token.variableLength name → Writes low (.var name) [.token name]
  | element {low : Level} {name : String} {index : Expr} {pieces : List Piece} :
      IsToken Token.variableLength name → Writes Level.whole index pieces →
      Writes low (.element name index) (.token name :: .token "[" :: pieces ++ [.token "]"])
  | constant {low : Level} {name : String} :
      IsToken Token.nameLength name → Writes low (.constant name) [.token name]
  | callNone {low : Level} {name : String} :
      IsToken Token.nameLength name →
      Writes low (.call name []) [.token name, .token "(", .token ")"]
  | call {low : Level} {name : String} {args : List Expr} {pieces : List Piece} :
      IsToken Token.nameLength name → WritesArguments args pieces →
      Writes low (.call name args) (.token name :: .token "(" :: pieces ++ [.token ")"])
  | group {low : Level} {e : Expr} {pieces : List Piece} :
      Writes Level.whole e pieces → Writes low e (.opening :: pieces ++ [.closing])
  | unary {low : Level} {op : UnaryOp} {e : Expr} {pieces : List Piece} :
      low ≤ op.level → Writes op.level e pieces →
      Writes low (.unary op e) (.token op.symbol :: pieces)
  | binary {low : Level} {op : BinaryOp} {left right : Expr} {front back : List Piece} :
      low ≤ op.level → Writes op.leftLevel left front → Writes op.rightLevel right back →
      Writes low (.binary op left right) (front ++ .token op.symbol :: back)

/-- The pieces write at least one argument, with commas between the arguments. -/
inductive WritesArguments : List Expr → List Piece → Prop
  | last {e : Expr} {pieces : List Piece} :
      Writes Level.whole e pieces → WritesArguments [e] pieces
  | more {e a : Expr} {args : List Expr} {front back : List Piece} :
      Writes Level.whole e front → WritesArguments (a :: args) back →
      WritesArguments (e :: a :: args) (front ++ .token "," :: back)

end

mutual

/-- Without the parentheses that only group, what is written is the tokens in their order. -/
theorem Writes.ungrouped {low : Level} {e : Expr} {pieces : List Piece} :
    Writes low e pieces → LineBasic.ungrouped pieces = e.inOrder.map .token
  | .number _ => by simp [Expr.inOrder]
  | .literal _ => by simp [Expr.inOrder]
  | .var _ => by simp [Expr.inOrder]
  | .element _ hindex => by simp [Expr.inOrder, hindex.ungrouped]
  | .constant _ => by simp [Expr.inOrder]
  | .callNone _ => by simp [Expr.inOrder, argumentsInOrder]
  | .call _ hargs => by simp [Expr.inOrder, hargs.ungrouped]
  | .group he => by simp [he.ungrouped]
  | .unary _ he => by simp [Expr.inOrder, he.ungrouped]
  | .binary _ hleft hright => by simp [Expr.inOrder, hleft.ungrouped, hright.ungrouped]

theorem WritesArguments.ungrouped {args : List Expr} {pieces : List Piece} :
    WritesArguments args pieces → LineBasic.ungrouped pieces = (argumentsInOrder args).map .token
  | .last he => by simp [argumentsInOrder, he.ungrouped]
  | .more he hargs => by simp [argumentsInOrder, he.ungrouped, hargs.ungrouped]

end

/-! ## Blanks between the pieces -/

/-- The characters without the blanks outside string literals. A scan that is inside a literal
knows whether a backslash escapes the next character. -/
def unblanked : (inside : Option Bool) → List Char → List Char
  | _, [] => []
  | none, c :: cs =>
    if Text.isGap c then unblanked none cs
    else c :: unblanked (if c == '"' then some false else none) cs
  | some escaped, c :: cs =>
    c :: unblanked (if c == '"' && !escaped then none else some (c == '\\' && !escaped)) cs

theorem unblanked_gaps {gaps : List Char} (h : ∀ c ∈ gaps, Text.isGap c = true)
    (cs : List Char) : unblanked none (gaps ++ cs) = unblanked none cs := by
  induction gaps with
  | nil => rfl
  | cons c gaps ih =>
      rw [List.forall_mem_cons] at h
      simp [unblanked, h.1, ih h.2]

theorem unblanked_skip (cs : List Char) : unblanked none (skip cs) = unblanked none cs := by
  obtain ⟨gaps, hcs, hgaps⟩ := exists_gaps cs
  calc unblanked none (skip cs) = unblanked none (gaps ++ skip cs) := (unblanked_gaps hgaps _).symm
    _ = unblanked none cs := by rw [← hcs]

theorem unblanked_plain {w : List Char} (h : ∀ c ∈ w, Token.isPlain c = true) (cs : List Char) :
    unblanked none (w ++ cs) = w ++ unblanked none cs := by
  induction w with
  | nil => rfl
  | cons c w ih =>
      rw [List.forall_mem_cons] at h
      have hgap := isGap_of_isInk (Token.isInk_of_isPlain h.1)
      simp [unblanked, hgap, Token.ne_quote_of_isPlain h.1, ih h.2]

theorem lt_literalLengthFrom {n : Nat} {escaped : Bool} {cs : List Char}
    (h : Token.literalLengthFrom n escaped cs ≠ 0) : n < Token.literalLengthFrom n escaped cs := by
  obtain ⟨w, rest, -, -, hlength⟩ := Token.exists_quote_of_literalLengthFrom h
  omega

/-- The scan leaves a literal where the measure of literals ends it. -/
theorem unblanked_inside {n : Nat} {escaped : Bool} {w cs : List Char} (hn : 0 < n)
    (h : Token.literalLengthFrom n escaped (w ++ cs) = n + w.length) :
    unblanked (some escaped) (w ++ cs) = w ++ unblanked none cs := by
  induction w generalizing n escaped with
  | nil =>
      have hlt : n < Token.literalLengthFrom n escaped ([] ++ cs) :=
        lt_literalLengthFrom (by omega)
      rw [h, List.length_nil] at hlt
      omega
  | cons c w ih =>
      rw [List.cons_append, Token.literalLengthFrom, List.length_cons] at h
      split at h
      · omega
      · split at h
        · next hquote =>
          have hnil : w = [] := List.eq_nil_of_length_eq_zero (by omega)
          simp [unblanked, hquote, hnil]
        · next hquote =>
          simp [unblanked, hquote, ih (Nat.succ_pos n) (by rw [h]; omega)]

theorem unblanked_literal {w cs : List Char}
    (h : Token.literalLength (w ++ cs) = w.length) (hw : w ≠ []) :
    unblanked none (w ++ cs) = w ++ unblanked none cs := by
  cases w with
  | nil => exact absurd rfl hw
  | cons c w =>
      rw [List.cons_append, List.length_cons] at h
      have hc : c = '"' := Token.head_of_literalLength (by rw [h]; exact Nat.succ_ne_zero _)
      subst hc
      have hinside : Token.literalLengthFrom 1 false (w ++ cs) = 1 + w.length := by
        rw [Nat.add_comm]
        exact h
      change '"' :: unblanked (some false) (w ++ cs) = _
      rw [unblanked_inside Nat.one_pos hinside, List.cons_append]

/-! ## What the reader takes off a text -/

/-- The text from `cs` on starts with the pieces, with blanks only between them, and `rest` follows.
-/
def Lays (pieces : List Piece) (cs rest : List Char) : Prop :=
  unblanked none cs = pieceChars pieces ++ unblanked none rest

section Lays

variable {pieces front back : List Piece} {s : String} {cs cs₁ rest : List Char}
  {length : List Char → Nat}

theorem Lays.append (hfront : Lays front cs cs₁) (hback : Lays back cs₁ rest) :
    Lays (front ++ back) cs rest := by
  rw [Lays, hfront, hback, pieceChars_append, List.append_assoc]

theorem lays_token (hskip : skip cs = s.toList ++ rest)
    (hs : unblanked none (s.toList ++ rest) = s.toList ++ unblanked none rest) :
    Lays [.token s] cs rest := by
  rw [Lays, ← unblanked_skip, hskip, hs]
  simp [Piece.chars]

theorem lays_symbol (hs : s.toList.all Token.isPlain = true) (h : symbol? s cs = some rest) :
    Lays [.token s] cs rest :=
  lays_token (symbol?_eq_some.mp h) (unblanked_plain (List.all_eq_true.mp hs) rest)

theorem lays_opening (h : symbol? "(" cs = some rest) : Lays [.opening] cs rest :=
  lays_symbol (by decide) h

theorem lays_closing (h : symbol? ")" cs = some rest) : Lays [.closing] cs rest :=
  lays_symbol (by decide) h

/-- A token of a kind that holds plain characters only. -/
theorem lays_plain (hplain : ∀ cs, length cs ≤ Token.countWhile Token.isPlain cs)
    (h : token? length cs = some (s, rest)) : Lays [.token s] cs rest := by
  obtain ⟨hskip, -, hlength⟩ := (token?_eq_some (.of_plain hplain)).mp h
  refine lays_token hskip (unblanked_plain ?_ rest)
  intro c hc
  apply isPlain_of_mem_take (hplain (s.toList ++ rest))
  rwa [hlength, List.take_left]

theorem lays_literal (h : token? Token.literalLength cs = some (s, rest)) :
    Lays [.token s] cs rest := by
  obtain ⟨hskip, hs, hlength⟩ := (token?_eq_some measures_literal).mp h
  exact lays_token hskip (unblanked_literal hlength hs)

/-- What is found at the start of a text is a token by itself, for the kinds that stop by
themselves. -/
theorem isToken_of_cut (hm : Measures length)
    (hcut : ∀ {a b : List Char}, length (a ++ b) ≤ a.length → length a = length (a ++ b))
    (h : token? length cs = some (s, rest)) : IsToken length s := by
  obtain ⟨-, hs, hlength⟩ := (token?_eq_some hm).mp h
  exact ⟨hs, (hcut (Nat.le_of_eq hlength)).trans hlength⟩

/-- A variable that has lost its last digit or its dollar sign to what follows is one still. -/
theorem isVariable_take {cs : List Char} (h : Token.variableLength cs ≠ 0) :
    Token.IsVariable (cs.take (Token.variableLength cs)) := by
  cases cs with
  | nil => exact absurd rfl h
  | cons c cs =>
      have hc := Token.isLetter_of_variableLength h
      have hdigits : ∀ d ∈ cs.takeWhile Char.isDigit, d.isDigit = true :=
        fun d hd => List.all_eq_true.mp List.all_takeWhile d hd
      have hshort (n : Nat) (hn : n ≤ Token.countWhile Char.isDigit cs) :
          Token.IsVariable ((c :: cs).take (1 + n)) := by
        have htake : cs.take n = (cs.takeWhile Char.isDigit).take n := by
          rw [← Token.take_countWhile, List.take_take, Nat.min_eq_left hn]
        refine ⟨c, (cs.takeWhile Char.isDigit).take n, [], ?_, hc, ?_, .inl rfl⟩
        · rw [Nat.add_comm, List.take_succ_cons, htake, List.append_nil]
        · exact fun d hd => hdigits d (List.mem_of_mem_take hd)
      rcases Token.dollar_or_not cs with ⟨more, hmore⟩ | hmore
      · rw [Token.variableLength_of_dollar hc hmore]
        split
        · exact hshort _ (Nat.le_refl _)
        · refine ⟨c, cs.takeWhile Char.isDigit, ['$'], ?_, hc, hdigits, .inr rfl⟩
          have htake : cs.take (Token.countWhile Char.isDigit cs + 1) =
              cs.takeWhile Char.isDigit ++ ['$'] := by
            rw [List.take_add, Token.take_countWhile, Token.drop_countWhile, hmore]
            rfl
          rw [Nat.add_comm, List.take_succ_cons, htake]
      · rw [Token.variableLength_of_ne_dollar hc hmore] at h ⊢
        split
        · next hruns =>
          rw [if_pos hruns] at h
          obtain ⟨n, hn⟩ := Nat.exists_eq_succ_of_ne_zero h
          rw [hn, Nat.succ_eq_one_add]
          exact hshort n (by omega)
        · exact hshort _ (Nat.le_refl _)

theorem isToken_variable (h : token? Token.variableLength cs = some (s, rest)) :
    IsToken Token.variableLength s := by
  obtain ⟨-, hs, hlength⟩ := (token?_eq_some measures_variable).mp h
  have hvariable : Token.IsVariable s.toList := by
    have hne : Token.variableLength (s.toList ++ rest) ≠ 0 := by
      rw [hlength]
      exact Nat.pos_iff_ne_zero.mp (List.length_pos_iff.mpr hs)
    have htake := isVariable_take hne
    rwa [hlength, List.take_left] at htake
  have hself := hvariable.length_append (r := []) (by simp [Token.Clear]) rfl
  rw [List.append_nil] at hself
  exact ⟨hs, hself⟩

end Lays

/-! ## Levels -/

theorem UnaryOp.leftLevel_le {op : UnaryOp} {next : BinaryOp} (h : next.level ≤ op.level) :
    next.leftLevel ≤ op.level := by
  cases op <;> cases next <;> revert h <;> decide

theorem BinaryOp.leftLevel_le {op next : BinaryOp} (h : next.level ≤ op.followLevel) :
    next.leftLevel ≤ op.level := by
  cases op <;> cases next <;> revert h <;> decide

theorem BinaryOp.rightLevel_le_sign (op : BinaryOp) : op.rightLevel ≤ Level.sign := by
  cases op <;> decide

theorem UnaryOp.level_le_sign (op : UnaryOp) : op.level ≤ Level.sign := by
  cases op <;> decide

theorem level_le_of_sign? {low : Level} {op : UnaryOp} {cs rest : List Char}
    (h : sign? low cs = some (op, rest)) (hlow : low ≤ Level.sign) : low ≤ op.level := by
  rcases sign?_eq_some.mp h with ⟨rfl, hnot, -⟩ | ⟨rfl, -⟩ | ⟨rfl, -⟩
  · exact hnot
  · exact hlow
  · exact hlow

theorem plain_operator (op : BinaryOp) : op.symbol.toList.all Token.isPlain = true := by
  cases op <;> decide

theorem plain_sign (op : UnaryOp) : op.symbol.toList.all Token.isPlain = true := by
  cases op <;> decide

/-! ## Readings as writings -/

mutual

/-- What is read as an expression is a text of pieces that write it. -/
theorem ReadsExpr.exists_pieces {low : Level} {cs cs' : List Char} {e : Expr} :
    ReadsExpr low cs e cs' → low ≤ Level.sign →
      ∃ pieces, Writes low e pieces ∧ Lays pieces cs cs'
  | .operand hoperand hrest, hlow => by
      obtain ⟨front, hfront, hfollow, hlays⟩ := hoperand.exists_pieces hlow
      obtain ⟨back, hback, hlays'⟩ := hrest.exists_pieces hlow hfront hfollow
      exact ⟨front ++ back, hback, hlays.append hlays'⟩

/-- An operand is also written at the level of the left side of every operator that may follow. -/
theorem ReadsOperand.exists_pieces {low high : Level} {cs cs' : List Char} {e : Expr} :
    ReadsOperand low cs e high cs' → low ≤ Level.sign →
      ∃ pieces, Writes low e pieces ∧
        (∀ op : BinaryOp, op.level ≤ high → Writes op.leftLevel e pieces) ∧ Lays pieces cs cs'
  | @ReadsOperand.unary _ op _ _ _ _ hsign he, hlow => by
      obtain ⟨pieces, hpieces, hlays⟩ := he.exists_pieces op.level_le_sign
      have hsymbol := lays_symbol (plain_sign op) (symbol?_of_sign? hsign)
      refine ⟨_, .unary (level_le_of_sign? hsign hlow) hpieces, ?_, hsymbol.append hlays⟩
      intro next hnext
      exact .unary (UnaryOp.leftLevel_le hnext) hpieces
  | .atom _ hatom, _ => by
      obtain ⟨pieces, hpieces, hlays⟩ := hatom.exists_pieces
      exact ⟨pieces, hpieces low, fun op _ => hpieces op.leftLevel, hlays⟩

/-- An atom may stand anywhere. -/
theorem ReadsAtom.exists_pieces {cs cs' : List Char} {e : Expr} :
    ReadsAtom cs e cs' → ∃ pieces, (∀ low, Writes low e pieces) ∧ Lays pieces cs cs'
  | .number h =>
      ⟨_, fun _ => .number (isToken_of_cut measures_number Token.numberLength_cut h),
        lays_plain Token.numberLength_le_plain h⟩
  | .literal h =>
      ⟨_, fun _ => .literal (isToken_of_cut measures_literal Token.literalLength_cut h),
        lays_literal h⟩
  | .var h _ =>
      ⟨_, fun _ => .var (isToken_variable h), lays_plain Token.variableLength_le_plain h⟩
  | .element h hopen hindex hclose => by
      obtain ⟨pieces, hpieces, hlays⟩ := hindex.exists_pieces (Nat.zero_le _)
      have hname := lays_plain Token.variableLength_le_plain h
      have hopening := lays_symbol (by decide) hopen
      have hclosing := lays_symbol (by decide) hclose
      exact ⟨_, fun _ => .element (isToken_variable h) hpieces,
        (hname.append hopening).append (hlays.append hclosing)⟩
  | .constant h _ =>
      ⟨_, fun _ => .constant (isToken_of_cut measures_name Token.nameLength_cut h),
        lays_plain Token.nameLength_le_plain h⟩
  | .callNone h hopen hclose => by
      have hname := lays_plain Token.nameLength_le_plain h
      have hopening := lays_symbol (by decide) hopen
      have hclosing := lays_symbol (by decide) hclose
      exact ⟨_, fun _ => .callNone (isToken_of_cut measures_name Token.nameLength_cut h),
        (hname.append hopening).append hclosing⟩
  | .call h hopen hargs => by
      obtain ⟨pieces, hpieces, hlays⟩ := hargs.exists_pieces
      have hname := lays_plain Token.nameLength_le_plain h
      have hopening := lays_symbol (by decide) hopen
      exact ⟨_, fun _ => .call (isToken_of_cut measures_name Token.nameLength_cut h) hpieces,
        (hname.append hopening).append hlays⟩
  | .group hopen he hclose => by
      obtain ⟨pieces, hpieces, hlays⟩ := he.exists_pieces (Nat.zero_le _)
      exact ⟨_, fun _ => .group hpieces,
        ((lays_opening hopen).append hlays).append (lays_closing hclose)⟩

/-- Arguments are followed by the parenthesis that closes the call. -/
theorem ReadsArguments.exists_pieces {cs cs' : List Char} {args : List Expr} :
    ReadsArguments cs args cs' →
      ∃ pieces, WritesArguments args pieces ∧ Lays (pieces ++ [.token ")"]) cs cs'
  | .last he hclose => by
      obtain ⟨pieces, hpieces, hlays⟩ := he.exists_pieces (Nat.zero_le _)
      exact ⟨pieces, .last hpieces, hlays.append (lays_symbol (by decide) hclose)⟩
  | .more he hcomma hargs => by
      obtain ⟨front, hfront, hlays⟩ := he.exists_pieces (Nat.zero_le _)
      obtain ⟨back, hback, hlays'⟩ := hargs.exists_pieces
      have hseparator := lays_symbol (by decide) hcomma
      refine ⟨front ++ .token "," :: back, ?_, ?_⟩
      · cases hback with
        | last hlast => exact .more hfront (.last hlast)
        | more hnext hmore => exact .more hfront (.more hnext hmore)
      · rw [List.append_assoc]
        exact hlays.append (hseparator.append hlays')

/-- Operators behind a left operand whose pieces write it on the left side of each of them. -/
theorem ReadsRest.exists_pieces {low high : Level} {left e : Expr} {cs cs' : List Char}
    {front : List Piece} : ReadsRest low high left cs e cs' → low ≤ Level.sign →
      Writes low left front →
      (∀ op : BinaryOp, op.level ≤ high → Writes op.leftLevel left front) →
      ∃ back, Writes low e (front ++ back) ∧ Lays back cs cs'
  | .stop _, _, hfront, _ => ⟨[], by rwa [List.append_nil], rfl⟩
  | @ReadsRest.operator _ _ op _ _ _ _ _ _ _ hop hright hrest, hlow, hfront, hfollow => by
      obtain ⟨hoperator, hle, hhigh⟩ := between?_eq_some.mp hop
      obtain ⟨pieces, hpieces, hlays⟩ := hright.exists_pieces op.rightLevel_le_sign
      have hwrites {low : Level} (hlow : low ≤ op.level) :
          Writes low (.binary op left _) (front ++ .token op.symbol :: pieces) :=
        .binary hlow (hfollow op hhigh) hpieces
      obtain ⟨back, hback, hlays'⟩ := hrest.exists_pieces hlow (hwrites hle)
        fun next hnext => hwrites (BinaryOp.leftLevel_le hnext)
      have hsymbol := lays_symbol (plain_operator op) (symbol?_of_operator? hoperator)
      refine ⟨.token op.symbol :: pieces ++ back, ?_, (hsymbol.append hlays).append hlays'⟩
      rwa [← List.append_assoc]

end

/-- Whatever text is read as an expression is made of pieces that write the expression: with the
blanks outside literals taken away it is the pieces one after another, every operand is of a level
that its place admits or is grouped by parentheses, and without these the pieces are the tokens of
the expression from left to right. -/
theorem parseExpression_writes {text : String} {e : Expr} (h : parseExpression text = .ok e) :
    ∃ pieces, unblanked none text.toList = pieceChars pieces ∧
      ungrouped pieces = e.inOrder.map .token ∧ Writes Level.whole e pieces := by
  obtain ⟨rest, hread, hend⟩ := parseExpression_eq_ok.mp h
  obtain ⟨pieces, hwrites, hlays⟩ := hread.exists_pieces (Nat.zero_le _)
  have hrest : unblanked none rest = [] := by
    rw [← unblanked_skip, hend, unblanked]
  refine ⟨pieces, ?_, hwrites.ungrouped, hwrites⟩
  rw [hlays, hrest, List.append_nil]

theorem parseExpression_writes_unspaced :
    ∃ pieces, unblanked none "1AND(A$ <>\" (\\\" \"OR 2MOD-3)".toList = pieceChars pieces ∧
      ungrouped pieces =
        ["1", "AND", "A$", "<>", "\" (\\\" \"", "OR", "2", "MOD", "-", "3"].map .token ∧
      Writes Level.whole
        (.binary .and (.number "1")
          (.binary .or (.binary .ne (.var "A$") (.literal "\" (\\\" \""))
            (.binary .mod (.number "2") (.unary .neg (.number "3"))))) pieces := by
  have hread : parseExpression "1AND(A$ <>\" (\\\" \"OR 2MOD-3)" =
      .ok (.binary .and (.number "1")
        (.binary .or (.binary .ne (.var "A$") (.literal "\" (\\\" \""))
          (.binary .mod (.number "2") (.unary .neg (.number "3"))))) := by
    with_unfolding_all rfl
  exact parseExpression_writes hread

end LineBasic

import LineBasic.Proofs.Grammar.Cutting

/-!
# Expressions inside of lines

A statement keeps every expression with the text it was written with. Each of these texts is read as
the same expression on its own, whatever the statement: behind an expression of a statement there is
a symbol or the end of the line, and neither prolongs a variable. In the other direction, every text
that is an expression can stand on the right of an assignment, which keeps the text without the
blanks around it.
-/

namespace LineBasic

open Unread
open Token (Clear)

/-! ## Readers that leave no shortened variable behind -/

/-- Whenever the reader succeeds and what is left is clear, the result is as stated. -/
def Ensures {α : Type} (good : α → Prop) (p : Scan α) : Prop :=
  ∀ c a c', p c = .ok (a, c') → Clear c'.rest → good a

/-- Whenever the reader succeeds and what is left is clear, what it started from is clear. -/
def KeepsClear {α : Type} (p : Scan α) : Prop :=
  ∀ c a c', p c = .ok (a, c') → Clear c'.rest → Clear c.rest

section Ensures

variable {α β : Type} {good : α → Prop} {goodAfter : β → Prop} {p : Scan α} {s : String}

theorem KeepsClear.pure {a : α} : KeepsClear (Pure.pure a) := by
  intro c b c' h hclear
  cases h
  exact hclear

/-- A symbol is clear by itself. -/
theorem KeepsClear.symbol {f : Unit → Scan β} (hs : IsSymbol s) :
    KeepsClear (Scan.symbol s >>= f) := by
  intro c b c' h _
  obtain ⟨_, c₁, hsymbol, -⟩ := Scan.exists_of_bind_ok h
  obtain ⟨rest, hrest, -⟩ := Scan.exists_of_symbol_ok hsymbol
  exact symbol?_clear hs hrest

theorem KeepsClear.symbol? {f : Bool → Scan β} (hs : IsSymbol s) (hf : KeepsClear (f false)) :
    KeepsClear (Scan.symbol? s >>= f) := by
  intro c b c' h hclear
  cases hsymbol : Unread.symbol? s c.rest with
  | some rest => exact symbol?_clear hs hsymbol
  | none =>
      rw [Scan.bind_of_ok (Scan.symbol?_of_none hsymbol)] at h
      exact hf c b c' h hclear

theorem Ensures.pure {a : α} (h : good a) : Ensures good (Pure.pure a) := by
  intro c b c' hb _
  cases hb
  exact h

theorem Ensures.fail : Ensures good Scan.fail := by
  intro c a c' h
  cases h

/-- Where the first reader has no bearing on the result, the second decides. -/
theorem Ensures.bind {f : α → Scan β} (h : ∀ a, Ensures goodAfter (f a)) :
    Ensures goodAfter (p >>= f) := by
  intro c b c' hb hclear
  obtain ⟨a, c₁, -, hf⟩ := Scan.exists_of_bind_ok hb
  exact h a c₁ b c' hf hclear

theorem Ensures.choice {p : Scan Bool} {f : Bool → Scan β} (htrue : Ensures goodAfter (f true))
    (hfalse : Ensures goodAfter (f false)) : Ensures goodAfter (p >>= f) := by
  refine .bind fun b => ?_
  cases b with
  | true => exact htrue
  | false => exact hfalse

/-- What the first reader ensures holds if the second one starts from something clear. -/
theorem Ensures.seq {f : α → Scan β} (hp : Ensures good p) (hclear : ∀ a, KeepsClear (f a))
    (h : ∀ a, good a → Ensures goodAfter (f a)) : Ensures goodAfter (p >>= f) := by
  intro c b c' hb hc'
  obtain ⟨a, c₁, ha, hf⟩ := Scan.exists_of_bind_ok hb
  exact h a (hp c a c₁ ha (hclear a c₁ b c' hf hc')) c₁ b c' hf hc'

end Ensures

/-! ## Statements keep texts that can be read again -/

/-- The text of a formula spells its tree. -/
def Formula.Reparses (f : Formula) : Prop := parseExpression f.text = .ok f.tree

def Command.Reparses (command : Command) : Prop := ∀ f ∈ command.formulas, f.Reparses

def Instruction.Reparses (instruction : Instruction) : Prop :=
  ∀ f ∈ instruction.formulas, f.Reparses

/-- A result that may still hold a fault is as stated if it holds none. -/
def IfOk {α : Type} (good : α → Prop) (result : Except Fault α) : Prop :=
  ∀ a, result = .ok a → good a

theorem parseFormula_ensures : Ensures Formula.Reparses parseFormula := by
  intro c f c' h hclear
  exact (parseFormula_reads h).reparses hclear

theorem unitStep_reparses : unitStep.Reparses := by
  apply parseExpression_eq_ok.mpr
  refine ⟨[], .operand (.atom rfl (.number rfl)) (.stop rfl), rfl⟩

theorem parsePrintItems_ensures (fuel : Nat) :
    Ensures (fun items => ∀ item ∈ items, item.formula.Reparses) (parsePrintItems fuel) := by
  induction fuel with
  | zero => exact .fail
  | succ fuel ih =>
      rw [parsePrintItems]
      refine .choice (.pure (by simp)) ?_
      refine parseFormula_ensures.seq
        (fun _ => .symbol? (by decide) (.symbol? (by decide) .pure)) fun f hf => ?_
      have hcons (items : List PrintItem) (separator : Option Separator)
          (h : ∀ item ∈ items, item.formula.Reparses) :
          ∀ item ∈ { formula := f, separator := separator } :: items, item.formula.Reparses := by
        simpa using ⟨hf, h⟩
      refine .choice (ih.seq (fun _ => .pure) fun items h => .pure (hcons items _ h)) ?_
      refine .choice (ih.seq (fun _ => .pure) fun items h => .pure (hcons items _ h)) ?_
      exact .pure (hcons [] _ (by simp))

theorem parseAssignment_ensures (name : String) :
    Ensures Command.Reparses (parseAssignment name) := by
  refine .choice ?_ ?_
  · refine parseFormula_ensures.seq (fun _ => .symbol (by decide)) fun index hindex => ?_
    refine .bind fun _ => .bind fun _ => ?_
    refine parseFormula_ensures.seq (fun _ => .pure) fun value hvalue => .pure ?_
    simpa [Command.Reparses, Command.formulas] using ⟨hindex, hvalue⟩
  · refine .bind fun _ => ?_
    refine parseFormula_ensures.seq (fun _ => .pure) fun value hvalue => .pure ?_
    simpa [Command.Reparses, Command.formulas] using hvalue

theorem parseLoop_ensures : Ensures Command.Reparses parseLoop := by
  refine .bind fun name => .bind fun _ => ?_
  refine parseFormula_ensures.seq (fun _ => .symbol (by decide)) fun start hstart => ?_
  refine .bind fun _ => ?_
  refine parseFormula_ensures.seq (fun _ => .symbol? (by decide) .pure) fun stop hstop => ?_
  refine .choice ?_ ?_
  · refine parseFormula_ensures.seq (fun _ => .pure) fun step hstep => .pure ?_
    simpa [Command.Reparses, Command.formulas] using ⟨hstart, hstop, hstep⟩
  · refine .pure ?_
    simpa [Command.Reparses, Command.formulas] using ⟨hstart, hstop, unitStep_reparses⟩

theorem parsePlot_ensures : Ensures Command.Reparses parsePlot := by
  refine parseFormula_ensures.seq (fun _ => .symbol (by decide)) fun x hx => .bind fun _ => ?_
  refine parseFormula_ensures.seq (fun _ => .symbol (by decide)) fun y hy => .bind fun _ => ?_
  refine parseFormula_ensures.seq (fun _ => .pure) fun color hcolor => .pure ?_
  simpa [Command.Reparses, Command.formulas] using ⟨hx, hy, hcolor⟩

theorem IfOk.ok {α : Type} {good : α → Prop} {a : α} (h : good a) : IfOk good (.ok a) := by
  intro b hb
  cases hb
  exact h

theorem IfOk.map {α β : Type} {good : α → Prop} {goodAfter : β → Prop} {f : α → β}
    {result : Except Fault α} (h : IfOk good result) (hf : ∀ a, good a → goodAfter (f a)) :
    IfOk goodAfter (result.map f) := by
  intro b hb
  cases result with
  | error fault => cases hb
  | ok a =>
      cases hb
      exact hf a (h a rfl)

theorem Ensures.ok {α : Type} {good : α → Prop} {p : Scan α} (h : Ensures good p) :
    Ensures (IfOk good) (do return .ok (← p)) :=
  h.seq (fun _ => .pure) fun _ ha => .pure (.ok ha)

/-- A command without expressions. -/
theorem Command.reparses_of_nil {command : Command} (h : command.formulas = []) :
    command.Reparses := by
  intro f hf
  rw [h] at hf
  cases hf

theorem ifOk_lineNumber {make : Nat → Command} {digits : String}
    (h : ∀ n, (make n).formulas = []) :
    IfOk Command.Reparses ((lineNumber digits).map make) := by
  have htrue : IfOk (fun _ : Nat => True) (lineNumber digits) := fun _ _ => trivial
  exact htrue.map fun n _ => Command.reparses_of_nil (h n)

theorem parseJump_ensures {make : Nat → Command} (h : ∀ n, (make n).formulas = []) :
    Ensures (IfOk Command.Reparses) (parseJump make) :=
  .bind fun _ => .pure (ifOk_lineNumber h)

theorem parseInput_ensures : Ensures (IfOk Command.Reparses) parseInput := by
  refine .bind fun quoted => ?_
  cases quoted with
  | none => exact .bind fun name => .pure (.ok (Command.reparses_of_nil rfl))
  | some quoted =>
      refine .bind fun _ => .bind fun name => .pure ?_
      intro command hcommand
      cases htext : decodeText quoted with
      | error fault =>
          rw [htext] at hcommand
          cases hcommand
      | ok text =>
          rw [htext] at hcommand
          cases hcommand
          exact Command.reparses_of_nil rfl

theorem parsePrint_ensures : Ensures Command.Reparses parsePrint := by
  intro c
  have hitems : Ensures Command.Reparses
      (do return Command.print (← parsePrintItems (c.rest.length + 1)) : Scan Command) := by
    refine (parsePrintItems_ensures _).seq (fun _ => .pure) fun items hitems => .pure ?_
    simpa [Command.Reparses, Command.formulas] using hitems
  exact hitems c

theorem parseCommand_ensures : Ensures (IfOk Command.Reparses) parseCommand := by
  have hnil {command : Command} (h : command.formulas = []) :
      Ensures (IfOk Command.Reparses) (pure (.ok command)) :=
    .pure (.ok (Command.reparses_of_nil h))
  refine .bind fun remark => ?_
  cases remark with
  | some remark => exact hnil rfl
  | none =>
  refine .bind fun name => ?_
  cases name with
  | some name => exact (parseAssignment_ensures name).ok
  | none =>
  -- one alternative for each word, in the order in which they are tried
  refine .choice parsePrint_ensures.ok ?_
  refine .choice (.bind fun name => (parseAssignment_ensures name).ok) ?_
  refine .choice (parseJump_ensures fun _ => rfl) ?_
  refine .choice (parseJump_ensures fun _ => rfl) ?_
  refine .choice (hnil rfl) ?_
  refine .choice (hnil rfl) ?_
  refine .choice parseLoop_ensures.ok ?_
  refine .choice (.bind fun _ => hnil rfl) ?_
  refine .choice (parseFormula_ensures.seq (fun _ => .pure) fun f hf => .pure (.ok ?_)) ?_
  · simpa [Command.Reparses, Command.formulas] using hf
  refine .choice parseInput_ensures ?_
  refine .choice (.bind fun _ => hnil rfl) ?_
  refine .choice parsePlot_ensures.ok ?_
  refine .choice (hnil rfl) ?_
  refine .choice (hnil rfl) ?_
  exact .choice (hnil rfl) .fail

theorem parseBranch_ensures : Ensures (IfOk Command.Reparses) parseBranch := by
  refine .bind fun digits => ?_
  cases digits with
  | none => exact parseCommand_ensures
  | some digits => exact .pure (ifOk_lineNumber fun _ => rfl)

theorem Instruction.reparses_branch {condition : Formula} {yes : Command} {no : Option Command}
    (hcondition : condition.Reparses) (hyes : yes.Reparses)
    (hno : ∀ command ∈ no, command.Reparses) :
    (Instruction.branch condition yes no).Reparses := by
  intro f hf
  simp only [Instruction.formulas, List.cons_append, List.mem_cons, List.mem_append] at hf
  rcases hf with rfl | hf | hf
  · exact hcondition
  · exact hyes f hf
  · cases no with
    | none => cases hf
    | some command => exact hno command rfl f hf

theorem parseInstruction_ensures : Ensures (IfOk Instruction.Reparses) parseInstruction := by
  refine .choice ?_ ?_
  · refine parseFormula_ensures.seq (fun _ => .symbol (by decide)) fun condition hcondition => ?_
    refine .bind fun _ => ?_
    refine parseBranch_ensures.seq (fun _ => .symbol? (by decide) .pure) fun yes hyes => ?_
    refine .choice ?_ ?_
    · refine parseBranch_ensures.seq (fun _ => .pure) fun no hno => .pure ?_
      intro instruction hok
      cases yes with
      | error fault => cases hok
      | ok yes =>
          cases no with
          | error fault => cases hok
          | ok no =>
              cases hok
              exact Instruction.reparses_branch hcondition (hyes yes rfl)
                (by simpa using hno no rfl)
    · refine .pure ?_
      intro instruction hok
      cases yes with
      | error fault => cases hok
      | ok yes =>
          cases hok
          exact Instruction.reparses_branch hcondition (hyes yes rfl) (by simp)
  · exact parseCommand_ensures.seq (fun _ => .pure) fun command hcommand =>
      .pure (hcommand.map fun _ h => h)

theorem clear_of_skip_eq_nil {cs : List Char} (h : skip cs = []) : Clear cs := by
  apply clear_of_skip
  rw [h]
  intro c hc
  cases hc

theorem parseBody_eq_ok {text : String} {instruction : Instruction} :
    parseBody text = .ok instruction ↔ parseInstruction.whole text = .ok (.ok instruction) := by
  rw [parseBody]
  cases parseInstruction.whole text with
  | error fault =>
      constructor
      · intro h
        cases h
      · intro h
        cases h
  | ok result =>
      constructor
      · intro h
        exact congrArg Except.ok h
      · intro h
        exact Except.ok.inj h

/-- The text of every expression in a line spells that expression. -/
theorem parseLine_reparses {text : String} {line : Line} (h : parseLine text = .ok line) :
    line.instruction.Reparses := by
  simp only [parseLine] at h
  split at h
  · cases h
  · next digits body _ =>
    split at h
    · split at h
      · next instruction hbody =>
        cases h
        obtain ⟨c', hparse, hend⟩ := whole_eq_ok.mp (parseBody_eq_ok.mp hbody)
        exact parseInstruction_ensures _ _ c' hparse (clear_of_skip_eq_nil hend) instruction rfl
      · cases h
    · cases h

/-! ## Expressions as values of assignments -/

theorem dropWhile_of_head {p : Char → Bool} {cs : List Char}
    (h : ∀ c ∈ cs.head?, p c = false) : cs.dropWhile p = cs := by
  rw [← Token.drop_countWhile, Token.countWhile_of_head h, List.drop_zero]

theorem trimLeft_append {blanks cs : List Char} (hblanks : ∀ c ∈ blanks, Text.isBlank c = true)
    (hcs : ∀ c ∈ cs.head?, Text.isBlank c = false) : Text.trimLeft (blanks ++ cs) = cs := by
  rw [Text.trimLeft, List.dropWhile_append_of_pos hblanks, dropWhile_of_head hcs]

theorem trimRight_append {cs blanks : List Char} (hcs : ∀ c ∈ cs.getLast?, Text.isBlank c = false)
    (hblanks : ∀ c ∈ blanks, Text.isBlank c = true) : Text.trimRight (cs ++ blanks) = cs := by
  have hreverse : ∀ c ∈ blanks.reverse, Text.isBlank c = true := by simpa using hblanks
  have hhead : ∀ c ∈ cs.reverse.head?, Text.isBlank c = false := by
    rwa [List.head?_reverse]
  rw [Text.trimRight, List.reverse_append, List.dropWhile_append_of_pos hreverse,
    dropWhile_of_head hhead, List.reverse_reverse]

/-- A line is split behind its digits. -/
theorem splitLine?_append {digits body : List Char} (hne : digits ≠ [])
    (hdigits : ∀ c ∈ digits, Text.isDigit c = true)
    (hbody : ∀ c ∈ body.head?, Text.isBlank c = false) (hbreak : '\n' ∉ body) :
    splitLine? (digits ++ ' ' :: body) = some (digits, Text.trimRight body) := by
  have hline : Text.trimLeft (digits ++ ' ' :: body) = digits ++ ' ' :: body := by
    apply dropWhile_of_head
    intro c hc
    rw [List.head?_append, List.head?_eq_some_head hne, Option.some_or, Option.mem_some_iff] at hc
    have hink := Token.isInk_of_isDigit (hdigits c (hc ▸ List.head_mem hne))
    simpa [Token.isInk] using hink
  have hnumber : (digits ++ ' ' :: body).takeWhile Text.isDigit = digits := by
    rw [List.takeWhile_append_of_pos hdigits]
    simp [show Text.isDigit ' ' = false by decide]
  have hrest : Text.trimLeft ((digits ++ ' ' :: body).dropWhile Text.isDigit) = body := by
    rw [List.dropWhile_append_of_pos hdigits, dropWhile_of_head (by simp; decide)]
    rw [← List.singleton_append, trimLeft_append (by simp; decide) hbody]
  have hall : body.takeWhile (· != '\n') = body := by
    have hchars : ∀ c ∈ body, (c != '\n') = true := by
      intro c hc
      rw [bne_iff_ne]
      rintro rfl
      exact hbreak hc
    have hself : (body ++ []).takeWhile (· != '\n') = body ++ [].takeWhile (· != '\n') :=
      List.takeWhile_append_of_pos hchars
    simpa using hself
  cases digits with
  | nil => exact absurd rfl hne
  | cons c digits => simp only [splitLine?, hline, hnumber, hrest, hall, List.drop_length]

/-- A text is an expression, whose own text is `w`, with gaps around it. -/
structure Padded (t : String) (e : Expr) (gaps w rest : List Char) : Prop where
  toList_eq : t.toList = gaps ++ (w ++ rest)
  gaps : ∀ c ∈ gaps, Text.isGap c = true
  rest : ∀ c ∈ rest, Text.isGap c = true
  reads : ReadsExpr Level.whole w e []
  solid : Solid w
  head : ∀ c ∈ w.head?, Text.isBlank c = false

theorem exists_padded {t : String} {e : Expr} (h : parseExpression t = .ok e) :
    ∃ gaps w rest, Padded t e gaps w rest := by
  obtain ⟨rest, hread, hend⟩ := parseExpression_eq_ok.mp h
  obtain ⟨x, hx, hread⟩ := hread.cut (List.nil_append rest).symm (clear_of_skip_eq_nil hend)
  obtain ⟨gaps, hgaps, hgap⟩ := exists_gaps x
  have hread' := hread.of_skip (skip_skip x)
  refine ⟨gaps, skip x, rest, ?_, hgap, isGap_of_skip_eq_nil hend, hread', ?_, ?_⟩
  · rw [hx, ← List.append_assoc, ← hgaps]
  · obtain ⟨w, hw, hsolid⟩ := hread'.takes
    rw [hw, List.append_nil]
    exact hsolid
  · obtain ⟨c, tail, hskip, hc⟩ := hread.opens
    rw [hskip]
    intro d hd
    rw [List.head?_cons, Option.mem_some_iff] at hd
    rw [← hd]
    simpa [Token.isInk] using (Bool.and_eq_true_iff.mp hc).1

namespace Padded

variable {t : String} {e : Expr} {gaps w rest : List Char}

theorem ne_nil (h : Padded t e gaps w rest) : w ≠ [] := by
  rintro rfl
  exact absurd h.reads.length_lt (by decide)

theorem blank_rest (h : Padded t e gaps w rest) : ∀ c ∈ rest, Text.isBlank c = true :=
  fun c hc => Text.isBlank_of_isGap (h.rest c hc)

theorem toList_trimText (h : Padded t e gaps w rest) : (Text.trimText t).toList = w := by
  have hblank : ∀ c ∈ gaps, Text.isBlank c = true :=
    fun c hc => Text.isBlank_of_isGap (h.gaps c hc)
  have hhead : ∀ c ∈ (w ++ rest).head?, Text.isBlank c = false := by
    rw [List.head?_append, List.head?_eq_some_head h.ne_nil, Option.some_or,
      ← List.head?_eq_some_head h.ne_nil]
    exact h.head
  rw [Text.trimText, String.toList_ofList, Text.trim, h.toList_eq, trimLeft_append hblank hhead,
    trimRight_append h.solid.2 h.blank_rest]

theorem readsFormula (h : Padded t e gaps w rest) :
    ReadsFormula (' ' :: (gaps ++ w)) { text := Text.trimText t, tree := e } [] := by
  have hgaps : ∀ c ∈ ' ' :: gaps, Text.isGap c = true := by simpa using ⟨by decide, h.gaps⟩
  have hskip : skip (' ' :: (gaps ++ w)) = skip w := skip_append_of_gaps hgaps w
  have hself : skip w = w := by
    apply dropWhile_of_head
    intro c hc
    by_cases hgap : Text.isGap c = true
    · have hblank := h.head c hc
      rw [Text.isBlank_of_isGap hgap] at hblank
      cases hblank
    · simpa using hgap
  refine ⟨h.reads.of_skip hskip, ?_⟩
  rw [hskip, hself, List.append_nil]
  exact h.toList_trimText.symm

theorem break_not_mem (h : Padded t e gaps w rest) : '\n' ∉ t.toList := by
  rw [h.toList_eq]
  intro hmem
  simp only [List.mem_append] at hmem
  rcases hmem with hmem | hmem | hmem
  · exact absurd (h.gaps _ hmem) (by decide)
  · exact h.solid.1 hmem
  · exact absurd (h.rest _ hmem) (by decide)

theorem trimRight_append (h : Padded t e gaps w rest) (front : List Char) :
    Text.trimRight (front ++ t.toList) = front ++ (gaps ++ w) := by
  have hlast : ∀ c ∈ (front ++ gaps ++ w).getLast?, Text.isBlank c = false := by
    rw [List.getLast?_append, List.getLast?_eq_some_getLast h.ne_nil, Option.some_or,
      ← List.getLast?_eq_some_getLast h.ne_nil]
    exact h.solid.2
  rw [h.toList_eq, ← List.append_assoc, ← List.append_assoc,
    LineBasic.trimRight_append hlast h.blank_rest, List.append_assoc]

end Padded

theorem finds_token?_none {length : List Char → Nat} {cs : List Char}
    (h : token? length cs = none) : Finds (Scan.token? length) cs none cs := by
  rintro c rfl
  exact ⟨c, Scan.token?_of_none h, rfl⟩

theorem finds_variable {s : String} {cs rest : List Char}
    (h : token? Token.variableLength cs = some (s, rest)) :
    Finds (Scan.token Token.variableLength) cs s rest := by
  rintro c rfl
  exact ⟨_, Scan.token_of_some measures_variable h, rfl⟩

/-- The body of a line that assigns to `X`. -/
theorem assignment_finds {cs : List Char} {f : Formula} (h : ReadsFormula (' ' :: cs) f []) :
    Finds parseInstruction ("LET X =".toList ++ ' ' :: cs)
      (.ok (.command (.assign "X" none f))) [] := by
  have hword : symbol? "LET" ("LET X =".toList ++ ' ' :: cs) =
      some (" X =".toList ++ ' ' :: cs) := rfl
  have hname : token? Token.variableLength (" X =".toList ++ ' ' :: cs) =
      some ("X", " =".toList ++ ' ' :: cs) := rfl
  have hequals : symbol? "=" (" =".toList ++ ' ' :: cs) = some (' ' :: cs) := rfl
  have hassignment : Finds (parseAssignment "X") (" =".toList ++ ' ' :: cs)
      (.assign "X" none f) [] := by
    refine (finds_symbol?_false rfl).bind ((finds_symbol hequals).bind ?_)
    exact h.finds.bind (.pure _ _)
  have hcommand : Finds parseCommand ("LET X =".toList ++ ' ' :: cs)
      (.ok (.assign "X" none f)) [] := by
    refine (finds_token?_none rfl).bind ((finds_token?_none rfl).bind ?_)
    refine (finds_symbol?_false rfl).bind ((finds_symbol?_true hword).bind ?_)
    exact (finds_variable hname).bind (hassignment.bind (.pure _ _))
  exact (finds_symbol?_false rfl).bind (hcommand.bind (.pure _ _))

theorem parseBody_of_finds {cs : List Char} {instruction : Instruction}
    (h : Finds parseInstruction cs (.ok instruction) []) :
    parseBody (String.ofList cs) = .ok instruction := by
  obtain ⟨c', hparse, hrest⟩ := h (Cursor.ofText (String.ofList cs)) String.toList_ofList
  exact parseBody_eq_ok.mpr (whole_eq_ok.mpr ⟨c', hparse, by rw [hrest]; rfl⟩)

/-- A text that is an expression is the value of an assignment, without the blanks around it. -/
theorem parseLine_assignment {t : String} {e : Expr} (h : parseExpression t = .ok e) :
    parseLine ("10 LET X = " ++ t) =
      .ok { number := 10
            instruction :=
              .command (.assign "X" none { text := Text.trimText t, tree := e }) } := by
  obtain ⟨gaps, w, rest, hpadded⟩ := exists_padded h
  have htext : ("10 LET X = " ++ t).toList =
      "10".toList ++ ' ' :: ("LET X = ".toList ++ t.toList) :=
    String.toList_append
  have hdigits : ∀ c ∈ "10".toList, Text.isDigit c = true := List.all_eq_true.mp (by decide)
  have hhead : ∀ c ∈ ("LET X = ".toList ++ t.toList).head?, Text.isBlank c = false := by
    intro c hc
    cases hc
    decide
  have hbreak : '\n' ∉ "LET X = ".toList ++ t.toList := by
    intro hmem
    rcases List.mem_append.mp hmem with hmem | hmem
    · exact absurd hmem (by decide)
    · exact hpadded.break_not_mem hmem
  have hsplit : splitLine? ("10 LET X = " ++ t).toList =
      some ("10".toList, "LET X =".toList ++ ' ' :: (gaps ++ w)) := by
    rw [htext, splitLine?_append (by decide) hdigits hhead hbreak,
      hpadded.trimRight_append]
    rfl
  have hbody := parseBody_of_finds (assignment_finds hpadded.readsFormula)
  simp only [parseLine, hsplit]
  rw [if_pos (by decide), hbody]
  rfl

/-- Lines and expressions are read alike. The text kept with any expression of a line, in whatever
statement or branch it stands, is read as that expression on its own. And a text that is read as an
expression can be assigned in a line, which keeps it without the blanks around it. -/
theorem parseLine_parseExpression_agree :
    (∀ (text : String) (line : Line), parseLine text = .ok line →
      ∀ f ∈ line.instruction.formulas, parseExpression f.text = .ok f.tree) ∧
    ∀ (t : String) (e : Expr), parseExpression t = .ok e →
      parseLine ("10 LET X = " ++ t) =
        .ok { number := 10
              instruction :=
                .command (.assign "X" none { text := Text.trimText t, tree := e }) } :=
  ⟨fun _ _ h => parseLine_reparses h, fun _ _ h => parseLine_assignment h⟩

theorem parseLine_parseExpression_agree_branch :
    (∃ line,
      parseLine "20 IF A1$<>\"NO\" THEN PRINT NOT B AND (C+1)^-2; ELSE FOR I=1TO N*(2)STEP .5" =
        .ok line ∧
      line.instruction.formulas.map (·.text) =
        ["A1$<>\"NO\"", "NOT B AND (C+1)^-2", "1", "N*(2)", ".5"] ∧
      ∀ f ∈ line.instruction.formulas, parseExpression f.text = .ok f.tree) ∧
    parseExpression " NOT PI>A1 \t" =
        .ok (.unary .not (.binary .gt (.constant "PI") (.var "A1"))) ∧
      parseLine ("10 LET X = " ++ " NOT PI>A1 \t") =
        .ok { number := 10
              instruction := .command (.assign "X" none
                { text := Text.trimText " NOT PI>A1 \t"
                  tree := .unary .not (.binary .gt (.constant "PI") (.var "A1")) }) } := by
  have hline : parseLine
      "20 IF A1$<>\"NO\" THEN PRINT NOT B AND (C+1)^-2; ELSE FOR I=1TO N*(2)STEP .5" =
      .ok { number := 20
            instruction := .branch
              { text := "A1$<>\"NO\""
                tree := .binary .ne (.var "A1$") (.literal "\"NO\"") }
              (.print [{ formula :=
                           { text := "NOT B AND (C+1)^-2"
                             tree := .binary .and (.unary .not (.var "B"))
                               (.binary .pow (.binary .add (.var "C") (.number "1"))
                                 (.unary .neg (.number "2"))) }
                         separator := some .semicolon }])
              (some (.loop "I" { text := "1", tree := .number "1" }
                { text := "N*(2)", tree := .binary .mul (.var "N") (.number "2") }
                { text := ".5", tree := .number ".5" })) } := by
    with_unfolding_all rfl
  have hexpression : parseExpression " NOT PI>A1 \t" =
      .ok (.unary .not (.binary .gt (.constant "PI") (.var "A1"))) := by
    with_unfolding_all rfl
  exact ⟨⟨_, hline, rfl, parseLine_parseExpression_agree.1 _ _ hline⟩, hexpression,
    parseLine_parseExpression_agree.2 _ _ hexpression⟩

end LineBasic

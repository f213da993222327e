import LineBasic.Proofs.Grammar.Extending
import LineBasic.Proofs.Grammar.Numbering
import LineBasic.Proofs.Grammar.Printing

/-!
# The form of statements

Not every value of the type of statements comes out of the reader. Formulas keep a text that is read
as their tree, names are variables, targets can be written, a remark is trimmed and on one line, and
the items of `PRINT` are separated and do not start with the word of the other branch. A remark
takes the rest of the line, so no other branch follows it. `Instruction.Formed` collects this, and
`parseLine_formed` says that every line that was read has it.

A command starts with one of a list of words, each with a reader for what comes after it.
-/

namespace LineBasic

open Unread
open Token (Clear)

/-! ## The words of commands -/

/-- Reads the first word of a table that comes next, and then as the table says. -/
def firstWord {α : Type} : List (String × Scan α) → Scan α
  | [] => Scan.fail
  | (word, reader) :: table => do
    if ← Scan.symbol? word then reader else firstWord table

/-- The words that start commands, in the order in which they are tried. -/
def commandReaders : List (String × Scan (Except Fault Command)) :=
  [("PRINT", do return .ok (← parsePrint)),
   ("LET", do return .ok (← parseAssignment (← Scan.token Token.variableLength))),
   ("GOTO", parseJump .jump),
   ("GOSUB", parseJump .call),
   ("RETURN", return .ok .comeBack),
   ("END", return .ok .halt),
   ("FOR", do return .ok (← parseLoop)),
   ("NEXT", do return .ok (.next (← Scan.token Token.variableLength))),
   ("PAUSE", do return .ok (.pause (← parseFormula))),
   ("INPUT", parseInput),
   ("ARRAY", do return .ok (.array (← Scan.token Token.variableLength))),
   ("PLOT", do return .ok (← parsePlot)),
   ("CLS", return .ok .clearAll),
   ("CLT", return .ok .clearConsole),
   ("CLC", return .ok .clearDisplay)]

/-- A command is a remark, an assignment without its word, or starts with a word of the table. -/
theorem parseCommand_eq : parseCommand = (do
    if let some remark ← Scan.token? Token.remarkLength then
      return .ok (.remark (remarkText remark))
    else if let some name ← Scan.token? Token.variableLength then
      return .ok (← parseAssignment name)
    else firstWord commandReaders) := rfl

/-! ## Postconditions of readers -/

/-- From a text without line breaks the reader leaves a text without line breaks, and if what is
left is clear, the result and what is left are as stated. -/
def Forms {α : Type} (good : α → List Char → Prop) (p : Scan α) : Prop :=
  ∀ c a c', p c = .ok (a, c') → '\n' ∉ c.rest →
    '\n' ∉ c'.rest ∧ (Clear c'.rest → good a c'.rest)

namespace Forms

variable {α β : Type} {good : α → List Char → Prop} {goodAfter : β → List Char → Prop}
  {p : Scan α} {f : α → Scan β} {s : String}

theorem pure {a : α} (h : ∀ rest, good a rest) : Forms good (Pure.pure a) := by
  intro c b c' hb hbreak
  cases hb
  exact ⟨hbreak, fun _ => h _⟩

theorem fail : Forms good Scan.fail := by
  intro c a c' h
  cases h

theorem mono {better : α → List Char → Prop} (h : Forms better p)
    (himp : ∀ a rest, better a rest → good a rest) : Forms good p := by
  intro c a c' ha hbreak
  obtain ⟨hbreak', hgood⟩ := h c a c' ha hbreak
  exact ⟨hbreak', fun hclear => himp a _ (hgood hclear)⟩

/-- What the first reader forms is there for the second one, if that one starts from something
clear. -/
theorem seq (hp : Forms good p) (hclear : ∀ a, KeepsClear (f a))
    (hf : ∀ a c b c', f a c = .ok (b, c') → '\n' ∉ c.rest →
      '\n' ∉ c'.rest ∧ (Clear c'.rest → good a c.rest → goodAfter b c'.rest)) :
    Forms goodAfter (p >>= f) := by
  intro c b c' hb hbreak
  obtain ⟨a, c₁, ha, hfa⟩ := Scan.exists_of_bind_ok hb
  obtain ⟨hbreak₁, hgood⟩ := hp c a c₁ ha hbreak
  obtain ⟨hbreak', hafter⟩ := hf a c₁ b c' hfa hbreak₁
  exact ⟨hbreak', fun hc' => hafter hc' (hgood (hclear a c₁ b c' hfa hc'))⟩

/-- As before, where what the first reader forms does not depend on what it leaves. -/
theorem bind {good : α → Prop} (hp : Forms (fun a _ => good a) p) (hclear : ∀ a, KeepsClear (f a))
    (hf : ∀ a, Forms (fun b rest => good a → goodAfter b rest) (f a)) :
    Forms goodAfter (p >>= f) :=
  hp.seq hclear hf

/-- Where the first reader has no bearing on the result, the second decides. -/
theorem step (hp : Forms (fun _ _ => True) p) (hf : ∀ a, Forms goodAfter (f a)) :
    Forms goodAfter (p >>= f) := by
  intro c b c' hb hnone
  obtain ⟨a, c₁, ha, hfa⟩ := Scan.exists_of_bind_ok hb
  exact hf a c₁ b c' hfa (hp c a c₁ ha hnone).1

theorem choice {p : Scan Bool} {f : Bool → Scan β} (hp : Forms (fun _ _ => True) p)
    (htrue : Forms goodAfter (f true)) (hfalse : Forms goodAfter (f false)) :
    Forms goodAfter (p >>= f) := by
  refine hp.step fun b => ?_
  cases b with
  | true => exact htrue
  | false => exact hfalse

end Forms

theorem break_not_mem_of_skip {cs s rest : List Char} (h : skip cs = s ++ rest)
    (hbreak : '\n' ∉ cs) : '\n' ∉ rest := by
  intro hmem
  have hskip : '\n' ∈ skip cs := by
    rw [h]
    exact List.mem_append_right s hmem
  exact hbreak ((List.dropWhile_sublist Text.isGap).mem hskip)

theorem forms_symbol? (s : String) : Forms (fun _ _ => True) (Scan.symbol? s) := by
  intro c a c' h hbreak
  refine ⟨?_, fun _ => trivial⟩
  cases hsymbol : Unread.symbol? s c.rest with
  | none =>
      rw [Scan.symbol?_of_none hsymbol] at h
      cases h
      exact hbreak
  | some rest =>
      rw [Scan.symbol?_of_some hsymbol] at h
      cases h
      exact break_not_mem_of_skip (symbol?_eq_some.mp hsymbol) hbreak

theorem forms_symbol (s : String) : Forms (fun _ _ => True) (Scan.symbol s) := by
  intro c a c' h hbreak
  obtain ⟨rest, hsymbol, rfl⟩ := Scan.exists_of_symbol_ok h
  exact ⟨break_not_mem_of_skip (symbol?_eq_some.mp hsymbol) hbreak, fun _ => trivial⟩

theorem forms_token? {length : List Char → Nat} (hm : Measures length) :
    Forms (fun _ _ => True) (Scan.token? length) := by
  intro c a c' h hbreak
  refine ⟨?_, fun _ => trivial⟩
  rcases htoken : Unread.token? length c.rest with _ | ⟨s, rest⟩
  · rw [Scan.token?_of_none htoken] at h
    cases h
    exact hbreak
  · rw [Scan.token?_of_some hm htoken] at h
    cases h
    exact break_not_mem_of_skip ((token?_eq_some hm).mp htoken).1 hbreak

theorem Scan.exists_of_token_ok {length : List Char → Nat} (hm : Measures length) {c c' : Cursor}
    {s : String} (h : Scan.token length c = .ok (s, c')) :
    ∃ rest, Unread.token? length c.rest = some (s, rest) ∧ c' = c.past rest := by
  simp only [Scan.token, Cursor.token?_eq hm] at h
  rcases htoken : Unread.token? length c.rest with _ | ⟨s', rest⟩
  · rw [htoken] at h
    cases h
  · rw [htoken] at h
    cases h
    exact ⟨rest, rfl, rfl⟩

theorem forms_token {length : List Char → Nat} (hm : Measures length) :
    Forms (fun _ _ => True) (Scan.token length) := by
  intro c s c' h hbreak
  obtain ⟨rest, htoken, rfl⟩ := Scan.exists_of_token_ok hm h
  exact ⟨break_not_mem_of_skip ((token?_eq_some hm).mp htoken).1 hbreak, fun _ => trivial⟩

/-- A variable that has not been shortened is a token by itself. -/
theorem isToken_of_variable {s : String} {cs rest : List Char}
    (h : token? Token.variableLength cs = some (s, rest)) (hclear : Clear rest) :
    IsToken Token.variableLength s := by
  obtain ⟨-, hs, hlength⟩ := (token?_eq_some measures_variable).mp h
  obtain ⟨hvariable, -⟩ := Token.isVariable_of_length hlength hs hclear
  refine ⟨hs, ?_⟩
  have hself := hvariable.length_append (r := []) (by intro c hc; cases hc) rfl
  rwa [List.append_nil] at hself

theorem forms_variable :
    Forms (fun s _ => IsToken Token.variableLength s) (Scan.token Token.variableLength) := by
  intro c s c' h hbreak
  obtain ⟨rest, htoken, rfl⟩ := Scan.exists_of_token_ok measures_variable h
  exact ⟨break_not_mem_of_skip ((token?_eq_some measures_variable).mp htoken).1 hbreak,
    isToken_of_variable htoken⟩

theorem forms_variable? :
    Forms (fun found _ => ∀ s ∈ found, IsToken Token.variableLength s)
      (Scan.token? Token.variableLength) := by
  intro c found c' h hbreak
  refine ⟨(forms_token? measures_variable c found c' h hbreak).1, fun hclear => ?_⟩
  rcases htoken : Unread.token? Token.variableLength c.rest with _ | ⟨s, rest⟩
  · rw [Scan.token?_of_none htoken] at h
    cases h
    intro s hs
    cases hs
  · rw [Scan.token?_of_some measures_variable htoken] at h
    cases h
    intro s' hs'
    cases hs'
    exact isToken_of_variable htoken hclear

theorem forms_formula : Forms (fun f _ => f.Stands) parseFormula := by
  intro c f c' h hbreak
  have hreads := parseFormula_reads h
  exact ⟨break_not_mem_of_skip hreads.2 hbreak, hreads.stands⟩

/-! ## Statements that can be read -/

/-- The items of `PRINT`: all but the last are separated, and none starts with the word of the other
branch. -/
def FormedItems : List PrintItem → Prop
  | [] => True
  | item :: rest =>
    item.formula.Stands ∧ word? "ELSE" item.formula.text.toList = none ∧
      (item.separator = none → rest = []) ∧ FormedItems rest

/-- A text on one line without blanks at either end. -/
structure Trimmed (cs : List Char) : Prop where
  head : ∀ c ∈ cs.head?, Text.isBlank c = false
  last : ∀ c ∈ cs.getLast?, Text.isBlank c = false
  line : '\n' ∉ cs

/-- A command has the parts that can be read. -/
def Command.Formed : Command → Prop
  | .print items => FormedItems items
  | .assign name index value =>
    IsToken Token.variableLength name ∧ (∀ f ∈ index, f.Stands) ∧ value.Stands
  | .remark text => Trimmed text.toList
  | .jump target => (Decimal.writeInt? target).isSome = true
  | .call target => (Decimal.writeInt? target).isSome = true
  | .loop name start stop step =>
    IsToken Token.variableLength name ∧ start.Stands ∧ stop.Stands ∧ step.Stands
  | .next name => IsToken Token.variableLength name
  | .pause millis => millis.Stands
  | .input _ name => IsToken Token.variableLength name
  | .array name => IsToken Token.variableLength name
  | .plot x y color => x.Stands ∧ y.Stands ∧ color.Stands
  | _ => True

/-- Whether a command takes the rest of its line. -/
def Command.isRemark : Command → Bool
  | .remark _ => true
  | _ => false

/-- A command has the parts that can be read and may be followed by another one. -/
def Command.Plain (c : Command) : Prop := c.Formed ∧ c.isRemark = false

def Instruction.Formed : Instruction → Prop
  | .command c => c.Formed
  | .branch condition yes no =>
    condition.Stands ∧ yes.Formed ∧ (∀ c ∈ no, c.Formed) ∧ (yes.isRemark = true → no = none)

theorem unitStep_stands : unitStep.Stands :=
  ⟨.operand (.atom rfl (.number rfl)) (.stop rfl), rfl⟩

/-- The reader of an item starts behind the words that end the list. -/
theorem Forms.item {good : List PrintItem → List Char → Prop} {k : Formula → Scan (List PrintItem)}
    (hnil : ∀ rest, good [] rest) (hclear : ∀ f, KeepsClear (k f))
    (hk : ∀ f, Forms (fun items rest =>
      f.Stands → word? "ELSE" f.text.toList = none → good items rest) (k f)) :
    Forms good (do if ← printEnds then return [] else k (← parseFormula)) := by
  intro c items c' h hbreak
  obtain ⟨ends, c₁, hends, h⟩ := Scan.exists_of_bind_ok h
  cases hends
  split at h
  · cases h
    exact ⟨hbreak, fun _ => hnil _⟩
  · next hmore =>
    obtain ⟨f, c₂, hf, h⟩ := Scan.exists_of_bind_ok h
    obtain ⟨hbreak₂, hstands⟩ := forms_formula c f c₂ hf hbreak
    obtain ⟨hbreak', hgood⟩ := hk f c₂ items c' h hbreak₂
    refine ⟨hbreak', fun hc' => ?_⟩
    have hf' := hstands (hclear f c₂ items c' h hc')
    have hword : word? "ELSE" c.rest = none := by
      simp only [Cursor.word?_eq, Bool.or_eq_true, not_or, Option.isSome_map] at hmore
      simpa using hmore.2
    exact hgood hc' hf' ((parseFormula_reads hf).word?_eq_none hf' hword)

theorem forms_printItems (fuel : Nat) :
    Forms (fun items _ => FormedItems items) (parsePrintItems fuel) := by
  induction fuel with
  | zero => exact .fail
  | succ fuel ih =>
      rw [parsePrintItems]
      refine .item (fun _ => trivial)
        (fun f => .symbol? (by decide) (.symbol? (by decide) .pure)) fun f => ?_
      refine .choice (forms_symbol? ";") ?_ (.choice (forms_symbol? ",") ?_ ?_)
      · exact ih.bind (fun _ => .pure) fun items => .pure fun _ hitems hf hword =>
          ⟨hf, hword, by simp, hitems⟩
      · exact ih.bind (fun _ => .pure) fun items => .pure fun _ hitems hf hword =>
          ⟨hf, hword, by simp, hitems⟩
      · exact .pure fun _ hf hword => ⟨hf, hword, fun _ => rfl, trivial⟩

theorem forms_print : Forms (fun c _ => c.Plain) parsePrint := by
  intro c
  have hitems : Forms (fun c _ => c.Plain)
      (do return Command.print (← parsePrintItems (c.rest.length + 1)) : Scan Command) :=
    (forms_printItems _).bind (fun _ => .pure) fun items => .pure fun _ h => ⟨h, rfl⟩
  exact hitems c

theorem keepsClear_assignment (name : String) : KeepsClear (parseAssignment name) :=
  .symbol? (by decide) (.symbol (by decide))

theorem forms_assignment (name : String) :
    Forms (fun c _ => IsToken Token.variableLength name → c.Plain) (parseAssignment name) := by
  refine .choice (forms_symbol? "[") ?_ ?_
  · refine forms_formula.bind (fun _ => .symbol (by decide)) fun index => ?_
    refine (forms_symbol "]").step fun _ => (forms_symbol "=").step fun _ => ?_
    refine forms_formula.bind (fun _ => .pure) fun value => .pure ?_
    intro _ hvalue hindex hname
    exact ⟨⟨hname, by simpa using hindex, hvalue⟩, rfl⟩
  · refine (forms_symbol "=").step fun _ => ?_
    refine forms_formula.bind (fun _ => .pure) fun value => .pure ?_
    intro _ hvalue hname
    exact ⟨⟨hname, by simp, hvalue⟩, rfl⟩

theorem forms_loop : Forms (fun c _ => c.Plain) parseLoop := by
  refine forms_variable.bind (fun _ => .symbol (by decide)) fun name => ?_
  refine (forms_symbol "=").step fun _ => ?_
  refine forms_formula.bind (fun _ => .symbol (by decide)) fun start => ?_
  refine (forms_symbol "TO").step fun _ => ?_
  refine forms_formula.bind (fun _ => .symbol? (by decide) .pure) fun stop => ?_
  refine .choice (forms_symbol? "STEP") ?_ ?_
  · refine forms_formula.bind (fun _ => .pure) fun step => .pure ?_
    intro _ hstep hstop hstart hname
    exact ⟨⟨hname, hstart, hstop, hstep⟩, rfl⟩
  · refine .pure ?_
    intro _ hstop hstart hname
    exact ⟨⟨hname, hstart, hstop, unitStep_stands⟩, rfl⟩

theorem forms_plot : Forms (fun c _ => c.Plain) parsePlot := by
  refine forms_formula.bind (fun _ => .symbol (by decide)) fun x => ?_
  refine (forms_symbol ",").step fun _ => ?_
  refine forms_formula.bind (fun _ => .symbol (by decide)) fun y => ?_
  refine (forms_symbol ",").step fun _ => ?_
  refine forms_formula.bind (fun _ => .pure) fun color => .pure ?_
  intro _ hcolor hy hx
  exact ⟨⟨hx, hy, hcolor⟩, rfl⟩

theorem forms_input : Forms (fun result _ => IfOk Command.Plain result) parseInput := by
  refine (forms_token? measures_literal).step fun quoted => ?_
  cases quoted with
  | none =>
      refine forms_variable.bind (fun _ => .pure) fun name => .pure ?_
      intro _ hname
      exact .ok ⟨hname, rfl⟩
  | some quoted =>
      refine (forms_symbol ";").step fun _ => ?_
      refine forms_variable.bind (fun _ => .pure) fun name => .pure ?_
      intro _ hname command hcommand
      cases htext : decodeText quoted with
      | error fault =>
          rw [htext] at hcommand
          cases hcommand
      | ok text =>
          rw [htext] at hcommand
          cases hcommand
          exact ⟨hname, rfl⟩

/-- The target of a jump was read from no more digits than may be written. -/
theorem writable_lineNumber {digits : String} {n : Nat} (h : lineNumber digits = .ok n) :
    (Decimal.writeInt? n).isSome = true := by
  unfold lineNumber at h
  split at h
  · split at h
    · next hlength =>
      cases h
      exact isSome_writeInt?_digitsValue (by rw [String.length_toList]; exact hlength)
    · cases h
  · cases h

theorem plain_lineNumber {make : Nat → Command}
    (hmake : ∀ n : Nat, (Decimal.writeInt? n).isSome = true → (make n).Plain) (digits : String) :
    IfOk Command.Plain ((lineNumber digits).map make) := by
  have hwritable : IfOk (fun n : Nat => (Decimal.writeInt? n).isSome = true) (lineNumber digits) :=
    fun n hn => writable_lineNumber hn
  exact hwritable.map hmake

theorem forms_jump {make : Nat → Command}
    (hmake : ∀ n : Nat, (Decimal.writeInt? n).isSome = true → (make n).Plain) :
    Forms (fun result _ => IfOk Command.Plain result) (parseJump make) :=
  (forms_token measures_number).step fun digits => .pure fun _ => plain_lineNumber hmake digits

/-! ## Remarks -/

theorem trimmed_trim {cs : List Char} (h : '\n' ∉ cs) : Trimmed (Text.trim cs) := by
  have hstart : Text.trim cs <+: Text.trimLeft cs := by
    rw [← List.reverse_suffix]
    exact (List.reverse_reverse _).symm ▸ List.dropWhile_suffix Text.isBlank
  constructor
  · intro c hc
    obtain ⟨blanks, hblanks⟩ := hstart
    have hhead := List.head?_dropWhile_not Text.isBlank cs
    rw [← Text.trimLeft, ← hblanks, List.head?_append, hc, Option.some_or] at hhead
    simpa using hhead
  · intro c hc
    rw [Text.trim, Text.trimRight, List.getLast?_reverse] at hc
    have hlast := List.head?_dropWhile_not Text.isBlank (Text.trimLeft cs).reverse
    rw [hc] at hlast
    simpa using hlast
  · intro hmem
    exact h ((List.dropWhile_sublist Text.isBlank).mem (hstart.mem hmem))

/-- A remark takes all that is left. -/
theorem remark_eq {c c' : Cursor} {s : String}
    (h : Scan.token? Token.remarkLength c = .ok (some s, c')) :
    s.toList = skip c.rest ∧ c'.rest = [] := by
  have hall : Token.remarkLength (skip c.rest) = 0 ∨
      Token.remarkLength (skip c.rest) = (skip c.rest).length := by
    unfold Token.remarkLength
    split
    · split
      · exact .inr rfl
      · split
        · exact .inr rfl
        · exact .inl rfl
    · exact .inl rfl
  simp only [Scan.token?, Cursor.token?, Cursor.skipGaps_rest] at h
  rcases hall with hzero | hlength
  · rw [if_pos hzero] at h
    cases h
  · by_cases hzero : Token.remarkLength (skip c.rest) = 0
    · rw [if_pos hzero] at h
      cases h
    · rw [if_neg hzero, hlength] at h
      cases h
      refine ⟨by rw [String.toList_ofList, List.take_length], ?_⟩
      simp only [Cursor.advance, Cursor.skipGaps_rest, List.drop_length]

theorem remark_none {c c' : Cursor} (h : Scan.token? Token.remarkLength c = .ok (none, c')) :
    c' = c := by
  simp only [Scan.token?] at h
  split at h
  · cases h
  · cases h
    rfl

/-! ## Commands -/

theorem forms_firstWord {α : Type} {good : α → List Char → Prop} {table : List (String × Scan α)}
    (h : ∀ entry ∈ table, Forms good entry.2) : Forms good (firstWord table) := by
  induction table with
  | nil => exact .fail
  | cons entry table ih =>
      obtain ⟨hentry, htable⟩ := List.forall_mem_cons.mp h
      exact .choice (forms_symbol? entry.1) hentry (ih htable)

theorem Forms.ok {α : Type} {good : α → Prop} {p : Scan α} (h : Forms (fun a _ => good a) p) :
    Forms (fun result _ => IfOk good result) (do return .ok (← p)) :=
  h.bind (fun _ => .pure) fun _ => .pure fun _ ha => .ok ha

theorem forms_assigned (name : String) :
    Forms (fun result _ => IsToken Token.variableLength name → IfOk Command.Plain result)
      (do return .ok (← parseAssignment name)) :=
  (forms_assignment name).ok.mono fun _ _ h hname c hc => h c hc hname

/-- A command that is made of a variable alone. -/
theorem forms_named {make : String → Command}
    (hmake : ∀ name, IsToken Token.variableLength name → (make name).Plain) :
    Forms (fun result _ => IfOk Command.Plain result)
      (do return .ok (make (← Scan.token Token.variableLength))) :=
  forms_variable.bind (fun _ => .pure) fun name => .pure fun _ hname => .ok (hmake name hname)

theorem KeepsClear.bind {α β : Type} {p : Scan α} {f : α → Scan β} (hp : KeepsClear p)
    (hf : ∀ a, KeepsClear (f a)) : KeepsClear (p >>= f) := by
  intro c b c' h hclear
  obtain ⟨a, c₁, ha, hfa⟩ := Scan.exists_of_bind_ok h
  exact hp c a c₁ ha (hf a c₁ b c' hfa hclear)

theorem keepsClear_firstWord {α : Type} {table : List (String × Scan α)}
    (h : ∀ entry ∈ table, IsSymbol entry.1) : KeepsClear (firstWord table) := by
  induction table with
  | nil =>
      intro c a c' h
      cases h
  | cons entry table ih =>
      obtain ⟨hentry, htable⟩ := List.forall_mem_cons.mp h
      exact .symbol? hentry (ih htable)

theorem forms_commandReaders : ∀ entry ∈ commandReaders,
    Forms (fun result _ => IfOk Command.Plain result) entry.2 := by
  have hplain {c : Command} (h : c.Plain) :
      Forms (fun result _ => IfOk Command.Plain result) (pure (.ok c)) := .pure fun _ => .ok h
  simp only [commandReaders, List.forall_mem_cons]
  refine ⟨forms_print.ok, ?_, forms_jump fun _ h => ⟨h, rfl⟩, forms_jump fun _ h => ⟨h, rfl⟩,
    hplain ⟨trivial, rfl⟩, hplain ⟨trivial, rfl⟩, forms_loop.ok,
    forms_named fun _ h => ⟨h, rfl⟩, ?_, forms_input, forms_named fun _ h => ⟨h, rfl⟩,
    forms_plot.ok, hplain ⟨trivial, rfl⟩, hplain ⟨trivial, rfl⟩, hplain ⟨trivial, rfl⟩, by simp⟩
  · exact forms_variable.bind (fun name => (keepsClear_assignment name).bind fun _ => .pure)
      forms_assigned
  · exact forms_formula.bind (fun _ => .pure) fun millis => .pure fun _ h => .ok ⟨h, rfl⟩

/-- A command is formed, and a remark leaves nothing. -/
def FormedBefore (result : Except Fault Command) (rest : List Char) : Prop :=
  IfOk (fun c => c.Formed ∧ (c.isRemark = true → rest = [])) result

theorem formedBefore_of_plain {result : Except Fault Command} (h : IfOk Command.Plain result)
    (rest : List Char) : FormedBefore result rest := by
  intro c hc
  obtain ⟨hformed, hremark⟩ := h c hc
  exact ⟨hformed, fun h => by rw [hremark] at h; cases h⟩

theorem forms_command : Forms FormedBefore parseCommand := by
  rw [parseCommand_eq]
  intro c result c' h hbreak
  obtain ⟨remark, c₁, hremark, h⟩ := Scan.exists_of_bind_ok h
  cases remark with
  | some remark =>
      obtain ⟨htext, hrest⟩ := remark_eq hremark
      cases h
      rw [hrest]
      refine ⟨by simp, fun _ command hcommand => ?_⟩
      cases hcommand
      refine ⟨?_, fun _ => rfl⟩
      have hnone : '\n' ∉ remark.toList.drop 3 := by
        intro hmem
        rw [htext] at hmem
        exact hbreak ((List.dropWhile_sublist Text.isGap).mem (List.mem_of_mem_drop hmem))
      change Trimmed (remarkText remark).toList
      rw [remarkText, String.toList_ofList]
      exact trimmed_trim hnone
  | none =>
      rw [remark_none hremark] at h
      have hforms : Forms (fun result _ => IfOk Command.Plain result) (do
          if let some name ← Scan.token? Token.variableLength then
            return .ok (← parseAssignment name)
          else firstWord commandReaders) := by
        refine forms_variable?.bind (fun found => ?_) fun found => ?_
        · cases found with
          | some name => exact (keepsClear_assignment name).bind fun _ => .pure
          | none => exact keepsClear_firstWord (by simp only [commandReaders]; decide)
        · cases found with
          | some name => exact (forms_assigned name).mono fun _ _ h hname => h (hname name rfl)
          | none => exact (forms_firstWord forms_commandReaders).mono fun _ _ h _ => h
      exact (hforms.mono fun _ rest h => formedBefore_of_plain h rest) c result c' h hbreak

theorem forms_branch : Forms FormedBefore parseBranch := by
  refine (forms_token? measures_number).step fun digits => ?_
  cases digits with
  | none => exact forms_command
  | some digits =>
      have hplain : IfOk Command.Plain ((lineNumber digits).map .jump) :=
        @plain_lineNumber .jump (fun _ h => ⟨h, rfl⟩) digits
      exact .pure (formedBefore_of_plain hplain)

/-! ## Instructions and lines -/

/-- What follows the first branch of `IF`. -/
def parseOther (condition : Formula) (yes : Except Fault Command) :
    Scan (Except Fault Instruction) := do
  if ← Scan.symbol? "ELSE" then
    let no ← parseBranch
    return do
      let yes ← yes
      let no ← no
      return .branch condition yes (some no)
  else return do return .branch condition (← yes) none

theorem parseInstruction_eq : parseInstruction = (do
    if ← Scan.symbol? "IF" then
      let condition ← parseFormula
      Scan.symbol "THEN"
      parseOther condition (← parseBranch)
    else return (← parseCommand).map .command) := rfl

theorem forms_other (condition : Formula) (yes : Except Fault Command) (c : Cursor)
    (result : Except Fault Instruction) (c' : Cursor)
    (h : parseOther condition yes c = .ok (result, c')) (hbreak : '\n' ∉ c.rest) :
    '\n' ∉ c'.rest ∧ (Clear c'.rest → FormedBefore yes c.rest → condition.Stands →
      IfOk Instruction.Formed result) := by
  rw [parseOther] at h
  cases helse : symbol? "ELSE" c.rest with
  | none =>
      rw [Scan.bind_of_ok (Scan.symbol?_of_none helse)] at h
      cases h
      refine ⟨hbreak, fun _ hyes hcondition instruction hok => ?_⟩
      cases yes with
      | error fault => cases hok
      | ok yes =>
          cases hok
          exact ⟨hcondition, (hyes yes rfl).1, by simp, fun _ => rfl⟩
  | some rest =>
      -- something is left behind the first branch, so that is not a remark
      have hrest : c.rest ≠ [] := by
        intro hnil
        rw [hnil] at helse
        cases helse
      rw [Scan.bind_of_ok (Scan.symbol?_of_some helse)] at h
      obtain ⟨no, c₁, hno, h⟩ := Scan.exists_of_bind_ok h
      cases h
      obtain ⟨hbreak', hformed⟩ := forms_branch _ no c' hno
        (break_not_mem_of_skip (symbol?_eq_some.mp helse) hbreak)
      refine ⟨hbreak', fun hclear hyes hcondition instruction hok => ?_⟩
      cases yes with
      | error fault => cases hok
      | ok yes =>
          cases no with
          | error fault => cases hok
          | ok no =>
              cases hok
              obtain ⟨hyes, hremark⟩ := hyes yes rfl
              refine ⟨hcondition, hyes, ?_, fun h => absurd (hremark h) hrest⟩
              simpa using (hformed hclear no rfl).1

theorem forms_instruction :
    Forms (fun result _ => IfOk Instruction.Formed result) parseInstruction := by
  rw [parseInstruction_eq]
  refine .choice (forms_symbol? "IF") ?_ ?_
  · refine forms_formula.bind (fun _ => .symbol (by decide)) fun condition => ?_
    refine (forms_symbol "THEN").step fun _ => ?_
    exact forms_branch.seq (fun _ => .symbol? (by decide) .pure) (forms_other condition)
  · refine forms_command.seq (fun _ => .pure) fun command c result c' h hbreak => ?_
    cases h
    refine ⟨hbreak, fun _ hcommand => ?_⟩
    exact IfOk.map hcommand fun _ h => h.1

theorem splitLine?_break {text digits body : List Char}
    (h : splitLine? text = some (digits, body)) : '\n' ∉ body := by
  have hline {rest : List Char} : '\n' ∉ Text.trimRight (rest.takeWhile (· != '\n')) := by
    intro hmem
    rw [Text.trimRight, List.mem_reverse] at hmem
    have hmem' := List.mem_reverse.mp ((List.dropWhile_sublist Text.isBlank).mem hmem)
    exact absurd (List.all_eq_true.mp List.all_takeWhile _ hmem') (by decide)
  unfold splitLine? at h
  dsimp only at h
  split at h
  · cases h
  · cases h
    exact hline
  · cases h
    exact hline
  · cases h

/-- Every line that is read is formed, and its number can be written. -/
theorem parseLine_formed {text : String} {line : Line} (h : parseLine text = .ok line) :
    line.instruction.Formed ∧ (Decimal.writeInt? line.number).isSome = true := by
  refine ⟨?_, parseLine_number h⟩
  unfold parseLine at h
  split at h
  · cases h
  · next digits body hsplit =>
    split at h
    · dsimp only at h
      split at h
      · next instruction hbody =>
        cases h
        obtain ⟨c', hparse, hend⟩ := whole_eq_ok.mp (parseBody_eq_ok.mp hbody)
        have hbreak : '\n' ∉ (Cursor.ofText (String.ofList body)).rest := by
          rw [Cursor.ofText, String.toList_ofList]
          exact splitLine?_break hsplit
        obtain ⟨-, hformed⟩ := forms_instruction _ _ c' hparse hbreak
        exact hformed (clear_of_skip_eq_nil hend) instruction rfl
      · cases h
    · cases h

end LineBasic

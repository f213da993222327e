import LineBasic.Proofs.Grammar.Forming
import LineBasic.Proofs.Grammar.Spelling

/-!
# Lines written out and read again

A line is written as words with one blank between them: its number, the word of its statement, and
the parts of the statement. Expressions are written with the text they were read with, `FOR` always
with its step, a prompt as a literal, and the branches of `IF` as statements. Reading what was
written gives the line back (`parseLine_render`).

The blank stands in front of each word but the first. So a reader that has taken one word stands
before a gap, and what it has taken is not prolonged by what follows.
-/

namespace LineBasic

open Unread
open Token (Bounded Clear)

/-! ## Words -/

def PrintItem.words (item : PrintItem) : List String :=
  item.formula.text :: (item.separator.map Separator.symbol).toList

def Command.arguments : Command → List String
  | .print items => items.flatMap PrintItem.words
  | .assign name none value => [name, "=", value.text]
  | .assign name (some index) value => [name, "[", index.text, "]", "=", value.text]
  | .remark text => [text]
  | .jump target => [Decimal.intText target]
  | .call target => [Decimal.intText target]
  | .loop name start stop step => [name, "=", start.text, "TO", stop.text, "STEP", step.text]
  | .next name => [name]
  | .pause millis => [millis.text]
  | .input none name => [name]
  | .input (some prompt) name => [Text.literal prompt, ";", name]
  | .array name => [name]
  | .plot x y color => [x.text, ",", y.text, ",", color.text]
  | _ => []

def Command.words (c : Command) : List String := c.keyword :: c.arguments

def Instruction.words : Instruction → List String
  | .command c => c.words
  | .branch condition yes none => "IF" :: condition.text :: "THEN" :: yes.words
  | .branch condition yes (some no) =>
    "IF" :: condition.text :: "THEN" :: (yes.words ++ "ELSE" :: no.words)

/-- A line written out. -/
def Line.render (l : Line) : String :=
  String.intercalate " " (Decimal.intText l.number :: l.instruction.words)

def spread : List String → List Char
  | [] => []
  | w :: ws => ' ' :: (w.toList ++ spread ws)

theorem spread_append (ws vs : List String) : spread (ws ++ vs) = spread ws ++ spread vs := by
  induction ws with
  | nil => rfl
  | cons w ws ih => simp [spread, ih]

theorem toList_intercalate (w : String) (ws : List String) :
    (String.intercalate " " (w :: ws)).toList = w.toList ++ spread ws := by
  induction ws generalizing w with
  | nil => simp [spread]
  | cons v ws ih =>
      rw [String.intercalate_cons_cons, String.toList_append, ih]
      simp [spread]

theorem length_le_spread (ws : List String) : ws.length ≤ (spread ws).length := by
  induction ws with
  | nil => exact Nat.le_refl 0
  | cons w ws ih =>
      simp only [spread, List.length_cons, List.length_append]
      omega

/-! ## Reading a word -/

section Words

variable {w : String} {ws : List String} {tail : List Char}

theorem bounded_spread (ws : List String) (htail : Bounded tail) : Bounded (spread ws ++ tail) := by
  cases ws with
  | nil => exact htail
  | cons w ws =>
      intro c hc
      cases hc
      decide

theorem spelled_spread (htail : Bounded tail) :
    Spelled w (spread (w :: ws) ++ tail) (spread ws ++ tail) :=
  ⟨[' '], by simp [spread], by simp; decide, bounded_spread ws htail⟩

/-- The first characters of the symbols that break off an expression. -/
def isBreak (c : Char) : Bool :=
  c == ']' || c == ',' || c == ';' || c == 'T' || c == 'S' || c == 'E'

theorem breaks_of_symbol? {s : String} {cs rest : List Char} (hbounded : Bounded cs)
    (hs : IsSymbol s) (hbreak : starts isBreak s = true) (h : symbol? s cs = some rest) :
    Breaks cs := by
  have hopens := opens_of_symbol? hs hbreak h
  refine ⟨hbounded, symbol?_none_of_opens (by decide) (by decide) hopens,
    symbol?_none_of_opens (by decide) (by decide) hopens, ?_⟩
  rw [operator?, List.findSome?_eq_none_iff]
  intro op _
  rw [Option.map_eq_none_iff]
  exact symbol?_none_of_opens (isSymbol_operator op) (by cases op <;> decide) hopens

theorem breaks_spread (htail : Bounded tail) (hs : IsSymbol w) (hbreak : starts isBreak w = true) :
    Breaks (spread (w :: ws) ++ tail) :=
  breaks_of_symbol? (bounded_spread _ htail) hs hbreak ((spelled_spread htail).symbol? hs)

theorem skip_spread : skip (spread (w :: ws) ++ tail) = skip (w.toList ++ (spread ws ++ tail)) := by
  simp [spread, skip, Text.isGap]

theorem Formula.Stands.reads_spread {f : Formula} (h : f.Stands)
    (hbreaks : Breaks (spread ws ++ tail)) :
    ReadsFormula (spread (f.text :: ws) ++ tail) f (spread ws ++ tail) := by
  refine h.reads ?_ hbreaks
  rw [skip_spread, skip_append (by rw [h.skip_text]; exact h.text_ne_nil), h.skip_text]

theorem symbol?_spread (htail : Bounded tail) (hs : IsSymbol w) :
    symbol? w (spread (w :: ws) ++ tail) = some (spread ws ++ tail) :=
  (spelled_spread htail).symbol? hs

theorem finds_word (htail : Bounded tail) (hs : IsSymbol w) :
    Finds (Scan.symbol w) (spread (w :: ws) ++ tail) () (spread ws ++ tail) :=
  finds_symbol (symbol?_spread htail hs)

theorem finds_word? (htail : Bounded tail) (hs : IsSymbol w) :
    Finds (Scan.symbol? w) (spread (w :: ws) ++ tail) true (spread ws ++ tail) :=
  finds_symbol?_true (symbol?_spread htail hs)

theorem finds_name (htail : Bounded tail) (h : IsToken Token.variableLength w) :
    Finds (Scan.token Token.variableLength) (spread (w :: ws) ++ tail) w (spread ws ++ tail) :=
  finds_variable ((spelled_spread htail).variableToken h)

/-- An expression in front of a word that breaks it off. -/
theorem finds_formula {f : Formula} (htail : Bounded tail) (h : f.Stands) (hs : IsSymbol w)
    (hbreak : starts isBreak w = true) :
    Finds parseFormula (spread (f.text :: w :: ws) ++ tail) f (spread (w :: ws) ++ tail) :=
  (h.reads_spread (breaks_spread htail hs hbreak)).finds

/-- An expression at the end of a command. -/
theorem finds_last {f : Formula} (htail : Breaks tail) (h : f.Stands) :
    Finds parseFormula (spread [f.text] ++ tail) f tail := by
  have hbreaks : Breaks (spread [] ++ tail) := htail
  exact (h.reads_spread hbreaks).finds

end Words

/-! ## Dispatch by the first word -/

/-- One of two symbols starts with the other. -/
def clashes (s t : String) : Bool :=
  s.toList.isPrefixOf t.toList || t.toList.isPrefixOf s.toList

theorem symbol?_none_of_symbol? {s t : String} {cs rest : List Char} (hclash : clashes s t = false)
    (h : symbol? s cs = some rest) : symbol? t cs = none := by
  rw [Option.eq_none_iff_forall_ne_some]
  intro rest' h'
  have hs : s.toList <+: skip cs := ⟨rest, (symbol?_eq_some.mp h).symm⟩
  have ht : t.toList <+: skip cs := ⟨rest', (symbol?_eq_some.mp h').symm⟩
  rw [clashes, Bool.or_eq_false_iff] at hclash
  rcases List.prefix_or_prefix_of_prefix hs ht with hst | hts
  · rw [List.isPrefixOf_iff_prefix.mpr hst] at hclash
    cases hclash.1
  · rw [List.isPrefixOf_iff_prefix.mpr hts] at hclash
    cases hclash.2

theorem finds_firstWord {α : Type} {table : List (String × Scan α)} {entry : String × Scan α}
    {a : α} {cs rest tail : List Char}
    (hdistinct : table.Pairwise fun e e' => clashes e'.1 e.1 = false) (hmem : entry ∈ table)
    (hword : symbol? entry.1 cs = some rest) (h : Finds entry.2 rest a tail) :
    Finds (firstWord table) cs a tail := by
  induction table with
  | nil => cases hmem
  | cons first table ih =>
      obtain ⟨hfirst, htable⟩ := List.pairwise_cons.mp hdistinct
      rcases List.mem_cons.mp hmem with rfl | hmem
      · exact (finds_symbol?_true hword).bind h
      · have hnone := symbol?_none_of_symbol? (hfirst entry hmem) hword
        exact (finds_symbol?_false hnone).bind (ih htable hmem)

theorem commandReaders_distinct :
    commandReaders.Pairwise fun e e' => clashes e'.1 e.1 = false := by
  simp only [commandReaders]
  decide

/-- A word of two letters at least, which is not that of a remark. -/
def isCommandWord (s : String) : Bool :=
  2 ≤ (s.toList.takeWhile Token.isLetter).length && !clashes s "REM"

theorem commandReaders_words : ∀ entry ∈ commandReaders, isCommandWord entry.1 = true := by
  simp only [commandReaders]
  decide

theorem remark_none_of_symbol? {cs : List Char} (h : symbol? "REM" cs = none) :
    token? Token.remarkLength cs = none := by
  rw [token?_eq_none, Token.remarkLength]
  rw [symbol?] at h
  split at h
  · cases h
  · next hword => rw [if_neg hword]

theorem variable_none_of_word {s : String} {cs rest : List Char} (hs : isCommandWord s = true)
    (h : symbol? s cs = some rest) : token? Token.variableLength cs = none := by
  have hletters := of_decide_eq_true (Bool.and_eq_true_iff.mp hs).1
  rw [token?_eq_none, symbol?_eq_some.mp h]
  apply Token.variableLength_of_nameLength
  match hword : s.toList with
  | [] =>
      rw [hword] at hletters
      simp at hletters
  | [a] =>
      rw [hword] at hletters
      have hle := (List.takeWhile_sublist Token.isLetter (l := [a])).length_le
      rw [List.length_singleton] at hle
      omega
  | a :: b :: w =>
      rw [hword, List.takeWhile_cons, List.takeWhile_cons] at hletters
      by_cases ha : Token.isLetter a = true
      · by_cases hb : Token.isLetter b = true
        · simp [Token.nameLength_cons_cons, Token.isWordStart, ha, hb]
        · simp [ha, hb] at hletters
      · simp [ha] at hletters

/-- A command is read as the table says for its first word. -/
theorem finds_command {word : String} {reader : Scan (Except Fault Command)}
    {result : Except Fault Command} {cs rest tail : List Char}
    (hcs : skip cs = word.toList ++ rest) (hreader : commandReaders.lookup word = some reader)
    (h : Finds reader rest result tail) : Finds parseCommand cs result tail := by
  have hmem : (word, reader) ∈ commandReaders := by
    obtain ⟨before, after, htable, -⟩ := List.lookup_eq_some_iff.mp hreader
    rw [htable]
    simp
  have hword := commandReaders_words _ hmem
  have hsymbol := symbol?_eq_some.mpr hcs
  have hremark : symbol? "REM" cs = none :=
    symbol?_none_of_symbol? (by simpa using (Bool.and_eq_true_iff.mp hword).2) hsymbol
  rw [parseCommand_eq]
  refine (finds_token?_none (remark_none_of_symbol? hremark)).bind ?_
  refine (finds_token?_none (variable_none_of_word hword hsymbol)).bind ?_
  exact finds_firstWord commandReaders_distinct hmem hsymbol h

/-! ## Commands -/

/-- What may follow a command: nothing, or the other branch. -/
def Ends (tail : List Char) : Prop := tail = [] ∨ ∃ rest, tail = spread ["ELSE"] ++ ' ' :: rest

namespace Ends

variable {tail : List Char}

theorem bounded (h : Ends tail) : Bounded tail := by
  rcases h with rfl | ⟨rest, rfl⟩
  · intro c hc
    cases hc
  · intro c hc
    cases hc
    decide

theorem spelled_else {rest : List Char} :
    Spelled "ELSE" (spread ["ELSE"] ++ ' ' :: rest) (spread [] ++ ' ' :: rest) := by
  refine spelled_spread ?_
  intro c hc
  cases hc
  decide

theorem breaks (h : Ends tail) : Breaks tail := by
  have hbounded := h.bounded
  rcases h with rfl | ⟨rest, rfl⟩
  · exact ⟨hbounded, rfl, rfl, rfl⟩
  · exact breaks_of_symbol? hbounded (by decide) (by decide) (spelled_else.symbol? (by decide))

theorem symbol?_eq_none {s : String} (h : Ends tail) (hs : IsSymbol s)
    (helse : clashes "ELSE" s = false) : symbol? s tail = none := by
  rcases h with rfl | ⟨rest, rfl⟩
  · rw [Option.eq_none_iff_forall_ne_some]
    intro rest hrest
    exact hs.1 (List.append_eq_nil_iff.mp (symbol?_eq_some.mp hrest).symm).1
  · exact symbol?_none_of_symbol? helse (spelled_else.symbol? (by decide))

theorem printEnds (h : Ends tail) : ((skip tail).isEmpty || (word? "ELSE" tail).isSome) = true := by
  rcases h with rfl | ⟨rest, rfl⟩
  · rfl
  · have hword : word? "ELSE" (spread ["ELSE"] ++ ' ' :: rest) = some (spread [] ++ ' ' :: rest) :=
      word?_eq_some.mpr (spelled_else.nameToken ⟨by decide, by decide⟩)
    rw [hword, Option.isSome_some, Bool.or_true]

end Ends

theorem finds_printEnds {cs : List Char} {ends : Bool}
    (h : ((skip cs).isEmpty || (word? "ELSE" cs).isSome) = ends) :
    Finds printEnds cs ends cs := by
  rintro c rfl
  refine ⟨c, ?_, rfl⟩
  rw [printEnds, Cursor.atEnd_eq, Cursor.word?_eq, Option.isSome_map, h]

theorem finds_token?_some {length : List Char → Nat} {s : String} {cs rest : List Char}
    (hm : Measures length) (h : token? length cs = some (s, rest)) :
    Finds (Scan.token? length) cs (some s) rest := by
  rintro c rfl
  exact ⟨_, Scan.token?_of_some hm h, rfl⟩

theorem finds_token {length : List Char → Nat} {s : String} {cs rest : List Char}
    (hm : Measures length) (h : token? length cs = some (s, rest)) :
    Finds (Scan.token length) cs s rest := by
  rintro c rfl
  exact ⟨_, Scan.token_of_some hm h, rfl⟩

section Commands

variable {tail : List Char}

/-- An item is not taken for the end of the list. -/
theorem printEnds_item {f : Formula} {ws : List String} (hf : f.Stands)
    (hword : word? "ELSE" f.text.toList = none) (htail : Bounded tail) :
    ((skip (spread (f.text :: ws) ++ tail)).isEmpty ||
      (word? "ELSE" (spread (f.text :: ws) ++ tail)).isSome) = false := by
  have hne : skip f.text.toList ≠ [] := by
    rw [hf.skip_text]
    exact hf.text_ne_nil
  have hnone : word? "ELSE" (spread (f.text :: ws) ++ tail) = none := by
    have hsame : word? "ELSE" (spread (f.text :: ws) ++ tail) =
        word? "ELSE" (f.text.toList ++ (spread ws ++ tail)) := by
      rw [word?, word?, token?_of_skip skip_spread]
    rw [hsame, word?_append_of_bounded hne (bounded_spread ws htail), hword]
    rfl
  rw [hnone, skip_spread, skip_append hne]
  simp [hne]

theorem finds_printItems {items : List PrintItem} (h : FormedItems items) (htail : Ends tail)
    {fuel : Nat} (hfuel : items.length < fuel) :
    Finds (parsePrintItems fuel) (spread (items.flatMap PrintItem.words) ++ tail) items tail := by
  induction items generalizing fuel with
  | nil =>
      obtain ⟨fuel, rfl⟩ := Nat.exists_eq_add_one_of_ne_zero (Nat.ne_of_gt hfuel)
      rw [parsePrintItems]
      exact (finds_printEnds htail.printEnds).bind (.pure _ _)
  | cons item items ih =>
      obtain ⟨fuel, rfl⟩ :=
        Nat.exists_eq_add_one_of_ne_zero (Nat.ne_of_gt (Nat.zero_lt_of_lt hfuel))
      obtain ⟨f, separator⟩ := item
      obtain ⟨hf, hword, hlast, hitems⟩ := h
      have hrest : Finds (parsePrintItems fuel) (spread (items.flatMap PrintItem.words) ++ tail)
          items tail := ih hitems (by simpa using hfuel)
      have hbounded := htail.bounded
      rw [parsePrintItems, List.flatMap_cons, PrintItem.words, List.cons_append]
      refine (finds_printEnds (printEnds_item hf hword hbounded)).bind ?_
      cases separator with
      | none =>
          obtain rfl := hlast rfl
          refine (finds_last htail.breaks hf).bind ?_
          refine (finds_symbol?_false (htail.symbol?_eq_none (by decide) (by decide))).bind ?_
          refine (finds_symbol?_false (htail.symbol?_eq_none (by decide) (by decide))).bind ?_
          exact .pure _ _
      | some separator =>
          cases separator with
          | semicolon =>
              refine (finds_formula hbounded hf (by decide) (by decide)).bind ?_
              exact (finds_word? hbounded (by decide)).bind (hrest.bind (.pure _ _))
          | comma =>
              have hcomma : symbol? "," (spread ("," :: items.flatMap PrintItem.words) ++ tail) =
                  some (spread (items.flatMap PrintItem.words) ++ tail) :=
                symbol?_spread hbounded (by decide)
              refine (finds_formula hbounded hf (by decide) (by decide)).bind ?_
              refine (finds_symbol?_false (symbol?_none_of_symbol? (by decide) hcomma)).bind ?_
              exact (finds_symbol?_true hcomma).bind (hrest.bind (.pure _ _))

theorem finds_print {items : List PrintItem} (h : FormedItems items) (htail : Ends tail) :
    Finds parsePrint (spread (items.flatMap PrintItem.words) ++ tail) (.print items) tail := by
  intro c hc
  have hwords : items.length ≤ (items.flatMap PrintItem.words).length := by
    clear h hc
    induction items with
    | nil => exact Nat.le_refl 0
    | cons item items ih =>
        simp only [List.flatMap_cons, PrintItem.words, List.length_append, List.length_cons]
        omega
  have hfuel : items.length < c.rest.length + 1 := by
    have := length_le_spread (items.flatMap PrintItem.words)
    rw [hc, List.length_append]
    omega
  have hprint : Finds (do return Command.print (← parsePrintItems (c.rest.length + 1)))
      (spread (items.flatMap PrintItem.words) ++ tail) (.print items) tail :=
    (finds_printItems h htail hfuel).bind (.pure _ _)
  exact hprint c hc

theorem finds_assignment {name : String} {index : Option Formula} {value : Formula}
    (h : (Command.assign name index value).Formed) (htail : Ends tail) :
    Finds (do return Except.ok (← parseAssignment (← Scan.token Token.variableLength)) :
        Scan (Except Fault Command))
      (spread (Command.assign name index value).arguments ++ tail)
      (.ok (.assign name index value)) tail := by
  have hbounded := htail.bounded
  obtain ⟨hname, hindex, hvalue⟩ := h
  cases index with
  | none =>
      refine (finds_name hbounded hname).bind (Finds.bind ?_ (.pure _ _))
      have hequals : symbol? "=" (spread ["=", value.text] ++ tail) =
          some (spread [value.text] ++ tail) := symbol?_spread hbounded (by decide)
      refine (finds_symbol?_false (symbol?_none_of_symbol? (by decide) hequals)).bind ?_
      refine (finds_symbol hequals).bind ?_
      exact (finds_last htail.breaks hvalue).bind (.pure _ _)
  | some index =>
      refine (finds_name hbounded hname).bind (Finds.bind ?_ (.pure _ _))
      refine (finds_word? hbounded (by decide)).bind ?_
      refine (finds_formula hbounded (hindex index rfl) (by decide) (by decide)).bind ?_
      refine (finds_word hbounded (by decide)).bind ((finds_word hbounded (by decide)).bind ?_)
      exact (finds_last htail.breaks hvalue).bind (.pure _ _)

theorem finds_loop {name : String} {start stop step : Formula}
    (h : (Command.loop name start stop step).Formed) (htail : Ends tail) :
    Finds parseLoop (spread (Command.loop name start stop step).arguments ++ tail)
      (.loop name start stop step) tail := by
  have hbounded := htail.bounded
  obtain ⟨hname, hstart, hstop, hstep⟩ := h
  refine (finds_name hbounded hname).bind ((finds_word hbounded (by decide)).bind ?_)
  refine (finds_formula hbounded hstart (by decide) (by decide)).bind ?_
  refine (finds_word hbounded (by decide)).bind ?_
  refine (finds_formula hbounded hstop (by decide) (by decide)).bind ?_
  refine (finds_word? hbounded (by decide)).bind ?_
  exact (finds_last htail.breaks hstep).bind (.pure _ _)

theorem finds_plot {x y color : Formula} (h : (Command.plot x y color).Formed)
    (htail : Ends tail) :
    Finds parsePlot (spread (Command.plot x y color).arguments ++ tail) (.plot x y color) tail := by
  have hbounded := htail.bounded
  obtain ⟨hx, hy, hcolor⟩ := h
  refine (finds_formula hbounded hx (by decide) (by decide)).bind ?_
  refine (finds_word hbounded (by decide)).bind ?_
  refine (finds_formula hbounded hy (by decide) (by decide)).bind ?_
  refine (finds_word hbounded (by decide)).bind ?_
  exact (finds_last htail.breaks hcolor).bind (.pure _ _)

theorem finds_input {prompt : Option String} {name : String}
    (h : (Command.input prompt name).Formed) (htail : Ends tail) :
    Finds parseInput (spread (Command.input prompt name).arguments ++ tail)
      (.ok (.input prompt name)) tail := by
  have hbounded := htail.bounded
  cases prompt with
  | none =>
      have hname : token? Token.variableLength (spread [name] ++ tail) =
          some (name, spread [] ++ tail) := (spelled_spread hbounded).variableToken h
      have hliteral : token? Token.literalLength (spread [name] ++ tail) = none :=
        token?_none_of_opens startsLiteral_of_length (fun _ => startsLiteral_of_isLetter)
          (opens_of_token? measures_variable Token.isLetter_of_variableLength hname)
      exact (finds_token?_none hliteral).bind ((finds_variable hname).bind (.pure _ _))
  | some prompt =>
      have hliteral : token? Token.literalLength
          (spread [Text.literal prompt, ";", name] ++ tail) =
          some (Text.literal prompt, spread [";", name] ++ tail) :=
        (spelled_spread hbounded).literalToken (Token.isToken_literal prompt)
      have hdecode : decodeText (Text.literal prompt) = .ok prompt := by
        rw [decodeText, Text.decodeLiteral?_literal]
      refine (finds_token?_some measures_literal hliteral).bind ?_
      refine (finds_word hbounded (by decide)).bind ((finds_name hbounded h).bind ?_)
      rw [hdecode]
      exact .pure _ _

theorem finds_jump {make : Nat → Command} {target : Nat}
    (h : (Decimal.writeInt? target).isSome = true) (htail : Ends tail) :
    Finds (parseJump make) (spread [Decimal.intText target] ++ tail) (.ok (make target)) tail := by
  have hnumber : token? Token.numberLength (spread [Decimal.intText target] ++ tail) =
      some (Decimal.intText target, spread [] ++ tail) :=
    (spelled_spread htail.bounded).numberToken (Decimal.isToken_intText target)
  refine (finds_token measures_number hnumber).bind ?_
  rw [Decimal.lineNumber_intText h]
  exact .pure _ _

/-- A command other than a remark is read from its words. -/
theorem Command.Plain.finds {c : Command} {cs : List Char} (h : c.Plain) (htail : Ends tail)
    (hcs : skip cs = c.keyword.toList ++ (spread c.arguments ++ tail)) :
    Finds parseCommand cs (.ok c) tail := by
  obtain ⟨h, hremark⟩ := h
  have hbounded := htail.bounded
  have halone {c : Command} : Finds (pure (.ok c) : Scan (Except Fault Command))
      (spread [] ++ tail) (.ok c) tail := .pure _ _
  cases c with
  | print items =>
      exact finds_command hcs rfl
        ((finds_print h htail).bind (.pure _ _))
  | assign name index value =>
      exact finds_command hcs rfl (finds_assignment h htail)
  | remark text => cases hremark
  | jump target =>
      exact finds_command hcs rfl (finds_jump h htail)
  | call target =>
      exact finds_command hcs rfl (finds_jump h htail)
  | comeBack => exact finds_command hcs rfl halone
  | halt => exact finds_command hcs rfl halone
  | loop name start stop step =>
      exact finds_command hcs rfl
        ((finds_loop h htail).bind (.pure _ _))
  | next name =>
      exact finds_command hcs rfl
        ((finds_name hbounded h).bind (.pure _ _))
  | pause millis =>
      exact finds_command hcs rfl
        ((finds_last htail.breaks h).bind (.pure _ _))
  | input prompt name =>
      exact finds_command hcs rfl (finds_input h htail)
  | array name =>
      exact finds_command hcs rfl
        ((finds_name hbounded h).bind (.pure _ _))
  | plot x y color =>
      exact finds_command hcs rfl
        ((finds_plot h htail).bind (.pure _ _))
  | clearAll => exact finds_command hcs rfl halone
  | clearConsole => exact finds_command hcs rfl halone
  | clearDisplay => exact finds_command hcs rfl halone

end Commands

/-! ## Blanks at the end

Only a remark without text leaves a blank at the end of its line, and that blank is trimmed before
the line is read.
-/

theorem trimRight_append_eq (a b : List Char) : Text.trimRight (a ++ b) =
    if Text.trimRight b = [] then Text.trimRight a else a ++ Text.trimRight b := by
  simp only [Text.trimRight, List.reverse_append, List.dropWhile_append, List.isEmpty_iff,
    List.reverse_eq_nil_iff]
  split
  · rfl
  · simp

theorem Unread.Solid.trimRight {cs : List Char} (h : Solid cs) : Text.trimRight cs = cs := by
  have htrim := trimRight_append h.2 (List.forall_mem_nil _)
  rwa [List.append_nil] at htrim

/-- A word that is not empty, holds no line break and does not end in a blank. -/
def IsWord (w : String) : Prop := Solid w.toList ∧ w.toList ≠ []

theorem isWord_symbol {w : String} (h : IsSymbol w) : IsWord w :=
  ⟨solid_of_ink fun c hc => (h.2 c hc).1, h.1⟩

theorem isWord_token {length : List Char → Nat} {w : String} (hm : Measures length)
    (h : IsToken length w) : IsWord w := by
  have hsolid := hm.solid w.toList
  rw [h.2, List.take_length] at hsolid
  exact ⟨hsolid, h.1⟩

theorem Formula.Stands.isWord {f : Formula} (h : f.Stands) : IsWord f.text :=
  ⟨h.solid, h.text_ne_nil⟩

theorem isGap_blank : ∀ c ∈ [' '], Text.isGap c = true :=
  List.forall_mem_singleton.mpr (by decide)

theorem solid_spread {ws : List String} (h : ∀ w ∈ ws, IsWord w) : Solid (spread ws) := by
  induction ws with
  | nil => exact solid_nil
  | cons w ws ih =>
      obtain ⟨⟨hsolid, hne⟩, hws⟩ := List.forall_mem_cons.mp h
      exact (hsolid.append (ih hws)).gaps_append isGap_blank
        fun hnil => hne (List.append_eq_nil_iff.mp hnil).1

theorem FormedItems.stands {items : List PrintItem} (h : FormedItems items) :
    ∀ item ∈ items, item.formula.Stands := by
  induction items with
  | nil => simp
  | cons item items ih => exact List.forall_mem_cons.mpr ⟨h.1, ih h.2.2.2⟩

theorem isWord_separator (s : Separator) : IsWord s.symbol := by
  cases s with
  | semicolon => exact isWord_symbol (by decide)
  | comma => exact isWord_symbol (by decide)

theorem Command.isSymbol_keyword (c : Command) : IsSymbol c.keyword := by
  cases c <;> simp only [keyword] <;> decide

theorem Command.Plain.isWord {c : Command} (h : c.Plain) : ∀ w ∈ c.arguments, IsWord w := by
  have hname {name : String} (h : IsToken Token.variableLength name) : IsWord name :=
    isWord_token measures_variable h
  have hnumber (n : Nat) : IsWord (Decimal.intText n) :=
    isWord_token measures_number (Decimal.isToken_intText n)
  have hliteral (s : String) : IsWord (Text.literal s) :=
    isWord_token measures_literal (Token.isToken_literal s)
  have hequals : IsWord "=" := isWord_symbol (by decide)
  have hcomma : IsWord "," := isWord_symbol (by decide)
  have hsemicolon : IsWord ";" := isWord_symbol (by decide)
  have hopen : IsWord "[" := isWord_symbol (by decide)
  have hclose : IsWord "]" := isWord_symbol (by decide)
  have hto : IsWord "TO" := isWord_symbol (by decide)
  have hstep : IsWord "STEP" := isWord_symbol (by decide)
  obtain ⟨h, hremark⟩ := h
  cases c with
  | print items =>
      intro w hw
      obtain ⟨item, hitem, hw⟩ := List.mem_flatMap.mp hw
      rcases List.mem_cons.mp hw with rfl | hw
      · exact (FormedItems.stands h item hitem).isWord
      · obtain ⟨s, -, rfl⟩ := Option.map_eq_some_iff.mp (Option.mem_toList.mp hw)
        exact isWord_separator s
  | assign name index value =>
      obtain ⟨h, hindex, hvalue⟩ := h
      cases index with
      | none => simpa [arguments] using ⟨hname h, hequals, hvalue.isWord⟩
      | some index =>
          simpa [arguments] using
            ⟨hname h, hopen, (hindex index rfl).isWord, hclose, hequals, hvalue.isWord⟩
  | remark text => cases hremark
  | jump target => simpa [arguments] using hnumber target
  | call target => simpa [arguments] using hnumber target
  | loop name start stop step =>
      obtain ⟨h, hstart, hstop, hend⟩ := h
      simpa [arguments] using
        ⟨hname h, hequals, hstart.isWord, hto, hstop.isWord, hstep, hend.isWord⟩
  | next name => simpa [arguments] using hname h
  | pause millis => simpa [arguments] using Formula.Stands.isWord h
  | input prompt name =>
      cases prompt with
      | none => simpa [arguments] using hname h
      | some prompt => simpa [arguments] using ⟨hliteral prompt, hsemicolon, hname h⟩
  | array name => simpa [arguments] using hname h
  | plot x y color =>
      obtain ⟨hx, hy, hcolor⟩ := h
      simpa [arguments] using ⟨hx.isWord, hcomma, hy.isWord, hcomma, hcolor.isWord⟩
  | _ => simp [arguments]

def lay : List String → List Char
  | [] => []
  | w :: ws => w.toList ++ spread ws

theorem Command.exists_trimRight (c : Command) :
    ∃ more, Text.trimRight (lay c.words) = c.keyword.toList ++ more := by
  have hkeyword := (isWord_symbol c.isSymbol_keyword).1.trimRight
  rw [words, lay, trimRight_append_eq, hkeyword]
  split
  · exact ⟨[], (List.append_nil _).symm⟩
  · exact ⟨_, rfl⟩

theorem Command.Plain.trimRight {c : Command} (h : c.Plain) :
    Text.trimRight (lay c.words) = lay c.words :=
  ((isWord_symbol c.isSymbol_keyword).1.append (solid_spread h.isWord)).trimRight

/-! ## Remarks -/

theorem finds_remark_token {cs : List Char}
    (h : Token.remarkLength (skip cs) = (skip cs).length) (hne : skip cs ≠ []) :
    Finds (Scan.token? Token.remarkLength) cs (some (String.ofList (skip cs))) [] := by
  rintro c rfl
  have hlength : (skip c.rest).length ≠ 0 := fun hzero => hne (List.eq_nil_of_length_eq_zero hzero)
  refine ⟨c.skipGaps.advance (skip c.rest).length, ?_, ?_⟩
  · simp only [Scan.token?, Cursor.token?, Cursor.skipGaps_rest, h, if_neg hlength,
      List.take_length]
  · simp only [Cursor.advance, Cursor.skipGaps_rest, List.drop_length]

/-- A remark is written as its word and a gap with its text, where the gap is missing if there is no
text. -/
theorem exists_trimRight_remark {text : String} (h : Trimmed text.toList) :
    ∃ more, Text.trimRight (lay (Command.remark text).words) = "REM".toList ++ more ∧
      Text.trim more = text.toList ∧ Bounded more := by
  by_cases hempty : text.toList = []
  · refine ⟨[], ?_, hempty.symm, nofun⟩
    change Text.trimRight ("REM".toList ++ ' ' :: (text.toList ++ [])) = _
    rw [hempty]
    decide
  · have hblank : Text.trim (' ' :: text.toList) = text.toList := by
      have hgap : ∀ c ∈ [' '], Text.isBlank c = true :=
        fun c hc => Text.isBlank_of_isGap (isGap_blank c hc)
      rw [Text.trim, ← List.singleton_append, trimLeft_append hgap h.head]
      exact Unread.Solid.trimRight ⟨h.line, h.last⟩
    refine ⟨' ' :: text.toList, ?_, hblank, by intro c hc; cases hc; decide⟩
    have hsolid : Solid ([' '] ++ text.toList) :=
      Solid.gaps_append isGap_blank ⟨h.line, h.last⟩ hempty
    have hword : Solid "REM".toList := (isWord_symbol (by decide)).1
    change Text.trimRight ("REM".toList ++ ([' '] ++ (text.toList ++ []))) = _
    rw [List.append_nil, (hword.append hsolid).trimRight]
    rfl

/-- A remark is read from what it is written as. -/
theorem finds_remark {text : String} {cs : List Char} (h : Trimmed text.toList)
    (hcs : skip cs = Text.trimRight (lay (Command.remark text).words)) :
    Finds parseCommand cs (.ok (.remark text)) [] := by
  obtain ⟨more, hmore, htrim, hbounded⟩ := exists_trimRight_remark h
  have hskip : skip cs = "REM".toList ++ more := hcs.trans hmore
  have hlength : Token.remarkLength (skip cs) = (skip cs).length := by
    rw [hskip]
    cases more with
    | nil => rfl
    | cons c more =>
        have hgap := hbounded c rfl
        change (if Text.isGap c = true then _ else 0) = _
        rw [if_pos hgap]
  have htext : remarkText (String.ofList (skip cs)) = text := by
    rw [remarkText, String.toList_ofList, hskip]
    change String.ofList (Text.trim more) = text
    rw [htrim, String.ofList_toList]
  have hread := finds_remark_token hlength (by rw [hskip]; exact List.cons_ne_nil _ _)
  rw [parseCommand_eq]
  refine hread.bind ?_
  dsimp only
  rw [htext]
  exact .pure _ _

/-! ## Instructions -/

section Instructions

variable {c : Command} {cs tail : List Char}

/-- A command is read from its words, with the blanks at the end of the line trimmed. -/
theorem Command.Formed.finds (h : c.Formed) (htail : Ends tail)
    (hremark : c.isRemark = true → tail = [])
    (hcs : skip cs = Text.trimRight (lay c.words) ++ tail) :
    Finds parseCommand cs (.ok c) tail := by
  by_cases hc : c.isRemark = true
  · obtain rfl := hremark hc
    cases c with
    | remark text =>
        rw [List.append_nil] at hcs
        exact finds_remark h hcs
    | _ => cases hc
  · have hplain : c.Plain := ⟨h, by simpa using hc⟩
    rw [hplain.trimRight, Command.words, lay, List.append_assoc] at hcs
    exact hplain.finds htail hcs

theorem symbol?_keyword (hcs : skip cs = Text.trimRight (lay c.words) ++ tail) :
    ∃ rest, symbol? c.keyword cs = some rest := by
  obtain ⟨more, hmore⟩ := c.exists_trimRight
  exact ⟨more ++ tail, symbol?_eq_some.mpr (by rw [hcs, hmore, List.append_assoc])⟩

theorem Command.Formed.finds_branch (h : c.Formed) (htail : Ends tail)
    (hremark : c.isRemark = true → tail = [])
    (hcs : skip cs = Text.trimRight (lay c.words) ++ tail) : Finds parseBranch cs (.ok c) tail := by
  obtain ⟨rest, hkeyword⟩ := symbol?_keyword hcs
  have hletter : starts Token.isLetter c.keyword = true := by
    cases c <;> simp only [keyword] <;> decide
  have hnumber : token? Token.numberLength cs = none :=
    token?_none_of_opens startsNumber_of_length (fun _ => startsNumber_of_isLetter)
      (opens_of_symbol? c.isSymbol_keyword hletter hkeyword)
  exact (finds_token?_none hnumber).bind (h.finds htail hremark hcs)

/-- A command is an instruction, since no word that starts one is taken for `IF`. -/
theorem Command.Formed.finds_instruction (h : c.Formed)
    (hcs : skip cs = Text.trimRight (lay c.words) ++ []) :
    Finds parseInstruction cs (.ok (.command c)) [] := by
  obtain ⟨rest, hkeyword⟩ := symbol?_keyword hcs
  have hif : clashes c.keyword "IF" = false := by
    cases c <;> simp only [keyword] <;> decide
  refine (finds_symbol?_false (symbol?_none_of_symbol? hif hkeyword)).bind ?_
  exact (h.finds (.inl rfl) (fun _ => rfl) hcs).bind (.pure _ _)

theorem Command.skip_words (c : Command) (tail : List Char) :
    skip (Text.trimRight (lay c.words) ++ tail) = Text.trimRight (lay c.words) ++ tail := by
  obtain ⟨more, hmore⟩ := c.exists_trimRight
  apply dropWhile_of_head
  intro d hd
  rw [hmore, List.append_assoc, List.head?_append,
    List.head?_eq_some_head c.isSymbol_keyword.1, Option.some_or, Option.mem_some_iff] at hd
  exact isGap_of_isInk (c.isSymbol_keyword.2 d (hd ▸ List.head_mem _)).1

theorem Command.trimRight_append (c : Command) (front : List Char) :
    Text.trimRight (front ++ lay c.words) = front ++ Text.trimRight (lay c.words) := by
  obtain ⟨more, hmore⟩ := c.exists_trimRight
  rw [trimRight_append_eq, if_neg]
  rw [hmore]
  exact fun hnil => c.isSymbol_keyword.1 (List.append_eq_nil_iff.mp hnil).1

/-- An `IF` is read from its words, given how its branches are. -/
theorem finds_if {condition : Formula} {yes : Except Fault Command}
    {result : Except Fault Instruction} {rest : List Char} (hrest : Bounded rest)
    (hcondition : condition.Stands) (hyes : Finds parseBranch rest yes tail)
    (hother : Finds (parseOther condition yes) tail result []) :
    Finds parseInstruction ("IF".toList ++ (spread [condition.text, "THEN"] ++ rest))
      result [] := by
  have hif : symbol? "IF" ("IF".toList ++ (spread [condition.text, "THEN"] ++ rest)) =
      some (spread [condition.text, "THEN"] ++ rest) := rfl
  rw [parseInstruction_eq]
  refine (finds_symbol?_true hif).bind ?_
  refine (finds_formula hrest hcondition (by decide) (by decide)).bind ?_
  exact (finds_word hrest (by decide)).bind (hyes.bind hother)

end Instructions

theorem bounded_blank (cs : List Char) : Bounded (' ' :: cs) := by
  intro c hc
  cases hc
  decide

/-- A branch is read behind a blank. -/
theorem Command.Formed.finds_blank {c : Command} {tail : List Char} (h : c.Formed)
    (htail : Ends tail) (hremark : c.isRemark = true → tail = []) :
    Finds parseBranch (' ' :: (Text.trimRight (lay c.words) ++ tail)) (.ok c) tail :=
  h.finds_branch htail hremark (c.skip_words tail)

/-- An instruction is read from its words, with the blanks at the end of the line trimmed. -/
theorem Instruction.Formed.finds {instruction : Instruction} (h : instruction.Formed) :
    Finds parseInstruction (Text.trimRight (lay instruction.words)) (.ok instruction) [] := by
  match instruction with
  | .command c =>
      refine Command.Formed.finds_instruction h ?_
      have hskip := c.skip_words []
      rwa [List.append_nil] at hskip ⊢
  | .branch condition yes none =>
      obtain ⟨hcondition, hyes, -, -⟩ := h
      have hwords : lay (Instruction.branch condition yes none).words =
          ("IF".toList ++ (spread [condition.text, "THEN"] ++ [' '])) ++ lay yes.words := by
        simp [words, lay, spread, Command.words]
      have htext : Text.trimRight (lay (Instruction.branch condition yes none).words) =
          "IF".toList ++ (spread [condition.text, "THEN"] ++
            ' ' :: (Text.trimRight (lay yes.words) ++ [])) := by
        rw [hwords, yes.trimRight_append]
        simp
      rw [htext]
      refine finds_if (bounded_blank _) hcondition (hyes.finds_blank (.inl rfl) fun _ => rfl) ?_
      exact (finds_symbol?_false rfl).bind (.pure _ _)
  | .branch condition yes (some no) =>
      obtain ⟨hcondition, hyes, hno, hremark⟩ := h
      have hplain : yes.Plain := by
        refine ⟨hyes, ?_⟩
        by_cases hyes : yes.isRemark = true
        · cases hremark hyes
        · simpa using hyes
      have hwords : lay (Instruction.branch condition yes (some no)).words =
          ("IF".toList ++ (spread [condition.text, "THEN"] ++
            ' ' :: (lay yes.words ++ (spread ["ELSE"] ++ [' '])))) ++ lay no.words := by
        simp [words, lay, spread, spread_append, Command.words]
      have htext : Text.trimRight (lay (Instruction.branch condition yes (some no)).words) =
          "IF".toList ++ (spread [condition.text, "THEN"] ++
            ' ' :: (Text.trimRight (lay yes.words) ++ (spread ["ELSE"] ++
              ' ' :: (Text.trimRight (lay no.words) ++ [])))) := by
        rw [hwords, no.trimRight_append, hplain.trimRight]
        simp
      rw [htext]
      refine finds_if (bounded_blank _) hcondition (hyes.finds_blank (.inr ⟨_, rfl⟩) ?_) ?_
      · intro h
        rw [hplain.2] at h
        cases h
      · refine (finds_symbol?_true (Ends.spelled_else.symbol? (by decide))).bind ?_
        exact ((hno no rfl).finds_blank (.inl rfl) fun _ => rfl).bind (.pure _ _)

/-! ## Lines -/

theorem exists_word_of_mem_spread {ws : List String} {c : Char} (h : c ∈ spread ws)
    (hc : c ≠ ' ') : ∃ w ∈ ws, c ∈ w.toList := by
  induction ws with
  | nil => cases h
  | cons w ws ih =>
      simp only [spread, List.mem_cons, List.mem_append] at h
      rcases h with h | h | h
      · exact absurd h hc
      · exact ⟨w, by simp, h⟩
      · obtain ⟨v, hv, hmem⟩ := ih h
        exact ⟨v, by simp [hv], hmem⟩

theorem Command.Formed.line {c : Command} (h : c.Formed) : ∀ w ∈ c.words, '\n' ∉ w.toList := by
  intro w hw
  rcases List.mem_cons.mp hw with rfl | hw
  · exact (isWord_symbol c.isSymbol_keyword).1.1
  · by_cases hc : c.isRemark = true
    · cases c with
      | remark text =>
          rw [List.mem_singleton.mp hw]
          exact Trimmed.line h
      | _ => cases hc
    · have hplain : c.Plain := ⟨h, by simpa using hc⟩
      exact (hplain.isWord w hw).1.1

theorem Instruction.Formed.line {instruction : Instruction} (h : instruction.Formed) :
    ∀ w ∈ instruction.words, '\n' ∉ w.toList := by
  match instruction with
  | .command c => exact Command.Formed.line h
  | .branch condition yes none =>
      obtain ⟨hcondition, hyes, -, -⟩ := h
      intro w hw
      simp only [words, List.mem_cons] at hw
      rcases hw with rfl | rfl | rfl | hw
      · decide
      · exact hcondition.solid.1
      · decide
      · exact hyes.line w hw
  | .branch condition yes (some no) =>
      obtain ⟨hcondition, hyes, hno, -⟩ := h
      intro w hw
      simp only [words, List.mem_cons, List.mem_append] at hw
      rcases hw with rfl | rfl | rfl | hw | rfl | hw
      · decide
      · exact hcondition.solid.1
      · decide
      · exact hyes.line w hw
      · decide
      · exact (hno no rfl).line w hw

/-- The first word of an instruction. -/
theorem Instruction.exists_words (instruction : Instruction) :
    ∃ ws, instruction.words = instruction.keyword :: ws := by
  match instruction with
  | .command c => exact ⟨_, rfl⟩
  | .branch condition yes none => exact ⟨_, rfl⟩
  | .branch condition yes (some no) => exact ⟨_, rfl⟩

theorem Instruction.isSymbol_keyword (instruction : Instruction) :
    IsSymbol instruction.keyword := by
  cases instruction with
  | command c => exact c.isSymbol_keyword
  | branch condition yes no => simp only [keyword]; decide

/-- Statements survive being written out and read again: whatever text a line was read from, the
line that is read from its canonical text is the same. -/
theorem parseLine_render {text : String} {line : Line} (h : parseLine text = .ok line) :
    parseLine line.render = .ok line := by
  obtain ⟨hformed, hnumber⟩ := parseLine_formed h
  obtain ⟨ws, hwords⟩ := line.instruction.exists_words
  have hsymbol := line.instruction.isSymbol_keyword
  have htext : line.render.toList =
      (Decimal.intText line.number).toList ++ ' ' :: lay line.instruction.words := by
    rw [Line.render, toList_intercalate, hwords]
    rfl
  have hhead : ∀ c ∈ (lay line.instruction.words).head?, Text.isBlank c = false := by
    intro c hc
    rw [hwords, lay, List.head?_append, List.head?_eq_some_head hsymbol.1, Option.some_or,
      Option.mem_some_iff] at hc
    simpa [Token.isInk] using (hsymbol.2 c (hc ▸ List.head_mem _)).1
  have hbreak : '\n' ∉ lay line.instruction.words := by
    intro hmem
    have hspread : '\n' ∈ spread line.instruction.words := by
      rw [hwords] at hmem ⊢
      exact List.mem_cons_of_mem ' ' hmem
    obtain ⟨w, hw, hmem⟩ := exists_word_of_mem_spread hspread (by decide)
    exact hformed.line w hw hmem
  have hsplit : splitLine? line.render.toList = some
      ((Decimal.intText line.number).toList, Text.trimRight (lay line.instruction.words)) := by
    rw [htext]
    exact splitLine?_append (Decimal.intText_ne_nil _) (Decimal.isDigit_intText _) hhead hbreak
  have hbody := parseBody_of_finds hformed.finds
  have hlength : (Decimal.intText line.number).toList.length ≤ Decimal.digitLimit := by
    rw [String.length_toList]
    exact Decimal.length_intText_le hnumber
  simp only [parseLine, hsplit]
  rw [if_pos hlength, hbody, Decimal.digitsValue_intText]

/-- A line with a separator at the end of its first branch, and one with an escape in its prompt. -/
theorem parseLine_render_branch :
    (∃ line, parseLine " 010 IF A>1THEN PRINT\"A\";B-1, ELSE INPUT\"Age\";N1$ " = .ok line ∧
      line.render = "10 IF A>1 THEN PRINT \"A\" ; B-1 , ELSE INPUT \"Age\" ; N1$" ∧
      parseLine line.render = .ok line) ∧
    ∃ line, parseLine "20INPUT\"N\\t\";N$" = .ok line ∧
      line.render = "20 INPUT \"N\\x09\" ; N$" ∧ parseLine line.render = .ok line := by
  have hbranch : parseLine " 010 IF A>1THEN PRINT\"A\";B-1, ELSE INPUT\"Age\";N1$ " =
      .ok { number := 10
            instruction := .branch
              { text := "A>1", tree := .binary .gt (.var "A") (.number "1") }
              (.print [
                { formula := { text := "\"A\"", tree := .literal "\"A\"" }
                  separator := some .semicolon },
                { formula := { text := "B-1", tree := .binary .sub (.var "B") (.number "1") }
                  separator := some .comma }])
              (some (.input (some "Age") "N1$")) } := by
    with_unfolding_all rfl
  have hinput : parseLine "20INPUT\"N\\t\";N$" =
      .ok { number := 20, instruction := .command (.input (some "N\t") "N$") } := rfl
  refine ⟨⟨_, hbranch, ?_, parseLine_render hbranch⟩, _, hinput, ?_, parseLine_render hinput⟩
  · decide +kernel
  · decide +kernel

end LineBasic

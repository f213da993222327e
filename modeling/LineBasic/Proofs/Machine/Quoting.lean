import LineBasic.Proofs.Grammar.Rendering
import LineBasic.Proofs.Machine.Evaluating

/-!
# Quoting

Every text can be written in a program. It is put between double quotes, with a backslash in front
of every backslash and double quote, and with the characters below the blank by their numbers. All
other characters stand for themselves, whatever they are. What is written so is a literal wherever a
literal may stand, in an expression and in the question of `INPUT`, and it denotes the text.
-/

namespace LineBasic

open Unread

namespace Text

/-- The characters below the blank. -/
def isLow (c : Char) : Bool := c.toNat < 0x20

/-- A text as a literal in which nothing is escaped that need not be. -/
def plainLiteral (s : String) : String := escapedLiteral isLow s

theorem covers_isLow : Covers isLow where
  short c h := by
    have hlow : c.toNat < 0x20 := of_decide_eq_true h
    omega
  breaks c h := by
    have hlow : ¬ c.toNat < 0x20 := of_decide_eq_false h
    refine ⟨?_, ?_, fun hzero => hlow (by omega)⟩
    · rintro rfl
      exact hlow (by decide)
    · rintro rfl
      exact hlow (by decide)

end Text

open LineBasic.Text (plainLiteral)

section Literals

variable {quoted : String}

/-- A literal behind a blank is taken off as a token, whatever follows it. -/
theorem token?_literal (h : IsToken Token.literalLength quoted) (rest : List Char) :
    token? Token.literalLength (' ' :: (quoted.toList ++ rest)) = some (quoted, rest) := by
  have hspelled : Spelled quoted (' ' :: quoted.toList) [] :=
    ⟨[' '], by simp, List.forall_mem_singleton.mpr (by decide), fun c hc => by cases hc⟩
  exact token?_append_some measures_literal (hspelled.literalToken h)
    fun _ hne => Token.literalLength_append hne rest

/-- A literal is an expression of its own. -/
theorem parseExpression_literal (h : IsToken Token.literalLength quoted) :
    parseExpression quoted = .ok (.literal quoted) := by
  have hread := (Expr.rereads (.literal quoted) h).closed (Spaced.single quoted).spells (.inl rfl)
  exact parseExpression_eq_ok.mpr ⟨[], hread, rfl⟩

/-- The body of a line that asks a question for `X`. -/
theorem question_finds {prompt : String} (h : IsToken Token.literalLength quoted)
    (hprompt : decodeText quoted = .ok prompt) :
    Finds parseInstruction ("INPUT ".toList ++ (quoted.toList ++ "; X".toList))
      (.ok (.command (.input (some prompt) "X"))) [] := by
  have hmark : symbol? ";" "; X".toList = some " X".toList := rfl
  have hname : token? Token.variableLength " X".toList = some ("X", []) := rfl
  have hquestion : Finds parseInput (' ' :: (quoted.toList ++ "; X".toList))
      (.ok (.input (some prompt) "X")) [] := by
    refine (finds_token?_some measures_literal (token?_literal h _)).bind ?_
    refine (finds_symbol hmark).bind ((finds_variable hname).bind ?_)
    rw [hprompt]
    exact .pure _ _
  have hreader : commandReaders.lookup "INPUT" = some parseInput := rfl
  have hword : skip ("INPUT ".toList ++ (quoted.toList ++ "; X".toList)) =
      "INPUT".toList ++ ' ' :: (quoted.toList ++ "; X".toList) := rfl
  have hcommand : Finds parseCommand ("INPUT ".toList ++ (quoted.toList ++ "; X".toList))
      (.ok (.input (some prompt) "X")) [] := finds_command hword hreader hquestion
  exact (finds_symbol?_false rfl).bind (hcommand.bind (.pure _ _))

/-- A line is read as its body is, if the body has no blanks at its ends. -/
theorem parseLine_of_finds {text : String} {body : List Char} {instruction : Instruction}
    (htext : text.toList = "10".toList ++ ' ' :: body)
    (hhead : ∀ c ∈ body.head?, Text.isBlank c = false) (hsolid : Solid body)
    (h : Finds parseInstruction body (.ok instruction) []) :
    parseLine text = .ok { number := 10, instruction := instruction } := by
  have hdigits : ∀ c ∈ "10".toList, Text.isDigit c = true := List.all_eq_true.mp (by decide)
  have hsplit : splitLine? text.toList = some ("10".toList, body) := by
    rw [htext, splitLine?_append (by decide) hdigits hhead hsolid.1, hsolid.trimRight]
  have hbody := parseBody_of_finds h
  simp only [parseLine, hsplit]
  rw [if_pos (by decide), hbody]
  rfl

theorem solid_literal (h : IsToken Token.literalLength quoted) : Solid quoted.toList :=
  (isWord_token measures_literal h).1

/-- A literal is the question of a line. -/
theorem parseLine_question {prompt : String} (h : IsToken Token.literalLength quoted)
    (hprompt : decodeText quoted = .ok prompt) :
    parseLine ("10 INPUT " ++ quoted ++ "; X") =
      .ok { number := 10, instruction := .command (.input (some prompt) "X") } := by
  have htext : ("10 INPUT " ++ quoted ++ "; X").toList =
      "10".toList ++ ' ' :: ("INPUT ".toList ++ (quoted.toList ++ "; X".toList)) := by
    rw [String.toList_append, String.toList_append, List.append_assoc]
    rfl
  have hhead : ∀ c ∈ ("INPUT ".toList ++ (quoted.toList ++ "; X".toList)).head?,
      Text.isBlank c = false := by
    intro c hc
    cases hc
    decide
  have hname : Solid "; X".toList := by
    refine ⟨by decide, fun c hc => ?_⟩
    cases hc
    decide
  have hword : Solid "INPUT".toList := solid_of_ink (List.all_eq_true.mp (by decide))
  have hgap : ∀ c ∈ [' '], Text.isGap c = true := List.forall_mem_singleton.mpr (by decide)
  have hne : quoted.toList ++ "; X".toList ≠ [] := List.append_ne_nil_of_right_ne_nil _ (by decide)
  have hsolid : Solid ("INPUT".toList ++ ([' '] ++ (quoted.toList ++ "; X".toList))) :=
    hword.append (((solid_literal h).append hname).gaps_append hgap hne)
  exact parseLine_of_finds htext hhead hsolid (question_finds h hprompt)

end Literals

namespace Machine

/-- A literal that denotes a text has the text as its value. -/
theorem evaluateText_literal {quoted text : String} (h : IsToken Token.literalLength quoted)
    (htext : decodeText quoted = .ok text) (m : Machine) :
    (evaluateText quoted).run.run m = (.ok (.text text), m) := by
  have hvalue : (evalExpr (.literal quoted)).run.run m = (.ok (.text text), m) := by
    rw [evalExpr, htext]
    rfl
  exact evaluateText_of_ok (parseExpression_literal h) hvalue

/-- Every text can be written in a program: its literal is an expression of one leaf, the value of
that expression is the text, whatever the machine, and so is the question of a line that asks with
the literal. -/
theorem plainLiteral_denotes (s : String) :
    parseExpression (plainLiteral s) = .ok (.literal (plainLiteral s)) ∧
      (∀ m : Machine, (evaluateText (plainLiteral s)).run.run m = (.ok (.text s), m)) ∧
      parseLine ("10 INPUT " ++ plainLiteral s ++ "; X") =
        .ok { number := 10, instruction := .command (.input (some s) "X") } := by
  have htoken : IsToken Token.literalLength (plainLiteral s) :=
    Token.isToken_escapedLiteral Text.covers_isLow s
  have htext : decodeText (plainLiteral s) = .ok s := by
    rw [decodeText, plainLiteral, Text.covers_isLow.decodeLiteral?_escapedLiteral]
  exact ⟨parseExpression_literal htoken, evaluateText_literal htoken htext,
    parseLine_question htoken htext⟩

/-- A text that ends in a backslash, behind a quote and a tabulator. -/
example : plainLiteral "\"\t\\" = "\"\\\"\\x09\\\\\"" := rfl

end Machine

end LineBasic

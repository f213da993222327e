import LineBasic.Proofs.Machine.Following
import LineBasic.Proofs.Machine.Quoting
import LineBasic.Proofs.Program
import LineBasic.Proofs.Program.Layout

/-!
# Showing a text as it stands

A text without double quotes, backslashes and line feeds can be put between double quotes as it is,
and a line that shows this literal is read. The literal is decoded when the line is performed. Then
the characters stand for themselves, control characters included, with two exceptions: a carriage
return ends a line for the decoder, and the null character ends its text. With one of these in the
text the run ends with the fault of an escape sequence, although there is none.
-/

namespace LineBasic

open Unread

/-- A text between double quotes, as it stands. -/
def inQuotes (s : String) : String := "\"" ++ s ++ "\""

/-- A text that is written between double quotes without escapes, on one line. -/
structure Quotable (s : String) : Prop where
  quote : '"' ∉ s.toList
  backslash : '\\' ∉ s.toList
  line : '\n' ∉ s.toList

/-- The characters that no literal holds as they are, though its line may: the carriage return and
the null character. -/
def Text.isGarbling (c : Char) : Bool := c == '\r' || c.toNat == 0

variable {s quoted : String}

theorem inQuotes_toList (s : String) : (inQuotes s).toList = '"' :: (s.toList ++ ['"']) := by
  simp [inQuotes]

/-! ## The literal -/

theorem Token.literalLengthFrom_quotable {cs : List Char} (hquote : '"' ∉ cs)
    (hbackslash : '\\' ∉ cs) (hline : '\n' ∉ cs) (n : Nat) :
    literalLengthFrom n false (cs ++ ['"']) = n + cs.length + 1 := by
  induction cs generalizing n with
  | nil => rfl
  | cons c cs ih =>
      rw [List.mem_cons, not_or] at hquote hbackslash hline
      rw [List.cons_append, literalLengthFrom_plain (Ne.symm hquote.1) (Ne.symm hbackslash.1)
        (Ne.symm hline.1), ih hquote.2 hbackslash.2 hline.2, List.length_cons]
      omega

/-- A literal ends at its last character, so it is one token. -/
theorem Quotable.isToken (h : Quotable s) : IsToken Token.literalLength (inQuotes s) := by
  rw [IsToken, inQuotes_toList]
  refine ⟨List.cons_ne_nil _ _, ?_⟩
  rw [Token.literalLength, Token.literalLengthFrom_quotable h.quote h.backslash h.line]
  simp only [List.length_cons, List.length_append, List.length_nil]
  omega

/-- Inside a literal the characters stand for themselves, unless one of them cannot. -/
theorem Text.decodeInside_quotable {cs : List Char} (hquote : '"' ∉ cs) (hbackslash : '\\' ∉ cs)
    (hline : '\n' ∉ cs) :
    decodeInside (cs ++ ['"']) = if cs.any isGarbling then none else some cs := by
  induction cs with
  | nil => rfl
  | cons c cs ih =>
      rw [List.mem_cons, not_or] at hquote hbackslash hline
      have hgarbling : (isLineBreak c || c.toNat == 0) = isGarbling c := by
        rw [isLineBreak, beq_eq_false_iff_ne.mpr (Ne.symm hline.1), Bool.false_or, isGarbling]
      have hplain : ¬ (c == '\\') = true := by simpa using Ne.symm hbackslash.1
      rw [List.cons_append, decodeInside, if_neg (by simpa using Ne.symm hquote.1), hgarbling,
        if_neg hplain, ih hquote.2 hbackslash.2 hline.2, List.any_cons]
      cases isGarbling c with
      | true => rfl
      | false =>
          rw [Bool.false_or, if_neg Bool.false_ne_true]
          cases cs.any isGarbling <;> rfl

theorem Quotable.decodeText_eq (h : Quotable s) :
    decodeText (inQuotes s) =
      if s.toList.any Text.isGarbling then .error (.parse (.badLiteral (inQuotes s)) none)
      else .ok s := by
  have hskip : (inQuotes s).toList.dropWhile Text.isGap = '"' :: (s.toList ++ ['"']) := by
    rw [inQuotes_toList]
    rfl
  have hdecode : Text.decodeLiteral? (inQuotes s) =
      if s.toList.any Text.isGarbling then none else some s := by
    rw [Text.decodeLiteral?, hskip]
    simp only [Text.decodeInside_quotable h.quote h.backslash h.line]
    split <;> simp
  rw [decodeText, hdecode]
  cases s.toList.any Text.isGarbling <;> rfl

theorem tellable_of_decodeText {fault : Fault} (h : decodeText quoted = .error fault) :
    fault.Tellable := by
  rw [decodeText] at h
  split at h
  · cases h
  · cases h
    intro n hline
    cases hline

/-! ## The program -/

def printing (quoted : String) : Command :=
  .print [{ formula := { text := quoted, tree := .literal quoted }, separator := none }]

theorem printing_finds (h : IsToken Token.literalLength quoted) :
    Finds parseInstruction ("PRINT".toList ++ ([' '] ++ quoted.toList))
      (.ok (.command (printing quoted))) [] := by
  have hspelled : Spelled quoted quoted.toList [] := spells_singleton.mp (Spaced.single _).spells
  have hliteral := hspelled.literalToken h
  have hread : ReadsExpr Level.whole quoted.toList (.literal quoted) [] :=
    .operand (.atom (sign?_eq_none_of_literal hliteral) (.literal hliteral))
      (Closes.stop (.inl rfl))
  have hopens := opens_of_token? measures_literal startsLiteral_of_length hliteral
  have hitems : FormedItems
      [{ formula := { text := quoted, tree := .literal quoted }, separator := none }] :=
    ⟨⟨hread, ((token?_eq_some measures_literal).mp hliteral).1⟩,
      word?_none_of_opens (fun _ => isLetter_of_startsLiteral) hopens, fun _ => rfl, trivial⟩
  have hprint : Finds parsePrint (spread [quoted] ++ []) (printing quoted) [] :=
    finds_print hitems (.inl rfl)
  have hspread : spread [quoted] ++ [] = [' '] ++ quoted.toList := by
    simp [spread]
  rw [hspread] at hprint
  have hreader : commandReaders.lookup "PRINT" = some (do return .ok (← parsePrint)) := rfl
  have hword : skip ("PRINT".toList ++ ([' '] ++ quoted.toList)) =
      "PRINT".toList ++ ([' '] ++ quoted.toList) := rfl
  have hcommand := finds_command hword hreader (hprint.bind (.pure _ _))
  exact (finds_symbol?_false rfl).bind (hcommand.bind (.pure _ _))

/-- A literal is what a line shows. -/
theorem parseLine_printing (h : IsToken Token.literalLength quoted) :
    parseLine ("10 PRINT " ++ quoted) =
      .ok { number := 10, instruction := .command (printing quoted) } := by
  have htext : ("10 PRINT " ++ quoted).toList =
      "10".toList ++ ' ' :: ("PRINT".toList ++ ([' '] ++ quoted.toList)) := by
    rw [String.toList_append]
    rfl
  have hhead : ∀ c ∈ ("PRINT".toList ++ ([' '] ++ quoted.toList)).head?,
      Text.isBlank c = false := by
    intro c hc
    cases hc
    decide
  have hword : Solid "PRINT".toList := solid_of_ink (List.all_eq_true.mp (by decide))
  have hgap : ∀ c ∈ [' '], Text.isGap c = true := List.forall_mem_singleton.mpr (by decide)
  have hsolid : Solid ("PRINT".toList ++ ([' '] ++ quoted.toList)) :=
    hword.append ((solid_literal h).gaps_append hgap h.1)
  exact parseLine_of_finds htext hhead hsolid (printing_finds h)

/-- The program of one line that shows a literal. -/
def echo (quoted : String) : Program where
  lines := [{ number := 10, instruction := .command (printing quoted) }]
  ascending := List.pairwise_singleton _ _

theorem load_echo (h : Quotable s) :
    Program.load ("10 PRINT " ++ inQuotes s) = .ok (echo (inQuotes s)) := by
  have htext : ("10 PRINT " ++ inQuotes s).toList =
      "10 PRINT \"".toList ++ (s.toList ++ ['"']) := by
    rw [String.toList_append, inQuotes_toList]
    rfl
  have hline : '\n' ∉ ("10 PRINT " ++ inQuotes s).toList := by
    rw [htext, List.mem_append, List.mem_append]
    rintro (hmem | hmem | hmem)
    · exact absurd hmem (by decide)
    · exact h.line hmem
    · exact absurd hmem (by decide)
  have hblank : Program.isBlankLine ("10 PRINT " ++ inQuotes s) = false := by
    rw [Program.isBlankLine, htext]
    rfl
  have hlines : (Program.splitSource ("10 PRINT " ++ inQuotes s)).filter
      (!Program.isBlankLine ·) = ["10 PRINT " ++ inQuotes s] := by
    rw [Program.splitSource, Program.splitLines_unbroken hline, List.map_singleton,
      String.ofList_toList]
    simp [hblank]
  unfold Program.load
  rw [hlines, List.mapM_cons, parseLine_printing h.isToken]
  exact Program.ofLines_of_ascending (echo (inQuotes s)).ascending

/-! ## The run -/

namespace Machine

variable {m : Machine}

/-- A line that shows a literal writes what the literal denotes, or it is at fault. -/
theorem run_printing (quoted : String) (m : Machine) :
    (performCommand (printing quoted)).run.run m =
      match decodeText quoted with
      | .ok text => (.ok .quiet, { m with console := m.console.write (text ++ "\n") })
      | .error fault => (.error fault, m.failing quoted) := by
  have hvalue : (evaluate { text := quoted, tree := .literal quoted }).run.run m =
      match decodeText quoted with
      | .ok text => (.ok (.text text), m)
      | .error fault => (.error fault, m.failing quoted) := by
    rw [evaluate, logging, run_tryCatch, evalExpr]
    cases decodeText quoted <;> rfl
  simp only [printing, performCommand, itemTexts, run_bind, hvalue]
  cases decodeText quoted with
  | error fault => rfl
  | ok text =>
      simp only [run_get, run_liftM, Heap.displayText_text]
      have hshown : text ++ "" ++ "" ++ "\n" = text ++ "\n" := by
        rw [String.append_empty, String.append_empty]
      rw [← hshown]
      rfl

/-- The machine at the only line of a program that shows a literal, with a console and a log. -/
def atEcho (m : Machine) (quoted : String) (console : Console) (log : Array LogRecord) : Machine :=
  { reset m with program := echo quoted, cursor := 10, console := console, log := log }

theorem underway_atEcho (m : Machine) (quoted : String) (console : Console)
    (log : Array LogRecord) : Underway (m.atEcho quoted console log) :=
  ⟨rfl, rfl, rfl, rfl, rfl, rfl⟩

theorem start_echo (h : Quotable s) (hfree : m.phase = .idle ∨ m.phase = .ended) :
    (start ("10 PRINT " ++ inQuotes s)).run.run m =
      (.ok .goesOn, m.atEcho (inQuotes s) m.console m.log) := by
  rw [run_start_of_load (load_echo h) hfree]
  rfl

/-- The step at that line. -/
theorem step_atEcho (m : Machine) (quoted : String) :
    ∃ log, step.run.run (m.atEcho quoted m.console m.log) =
      match decodeText quoted with
      | .ok text => (.ok .quiet, m.atEcho quoted (m.console.write (text ++ "\n")) log)
      | .error fault =>
        (do finish (some fault); return .quiet : Action Reaction).run.run
          (m.atEcho quoted m.console log) := by
  have hfind : (m.atEcho quoted m.console m.log).program.find?
      (m.atEcho quoted m.console m.log).cursor =
        some { number := 10, instruction := .command (printing quoted) } := rfl
  obtain ⟨log, hstep⟩ := run_step_line hfind
  rw [hstep, performInstruction, run_printing]
  cases decodeText quoted with
  | ok text => exact ⟨_, rfl⟩
  | error fault => exact ⟨_, rfl⟩

/-- The only cycle of the run: it ends well behind the line, or at the line with its fault. -/
theorem cycle_atEcho (m : Machine) (quoted : String) :
    ∃ m₁, cycle.run.run (m.atEcho quoted m.console m.log) = (.ok .stops, m₁) ∧
      m₁.phase = .ended ∧
      match decodeText quoted with
      | .ok text => m₁.console = m.console.write (text ++ "\n") ∧ m₁.completion = .done {}
      | .error fault => m₁.console = m.console ∧ m₁.completion =
          .done { fault := some (fault.atLine (some 10)), line := some 10 } := by
  have hcursor : (Decimal.writeInt? 10).isSome = true := by decide +kernel
  obtain ⟨log, hstep⟩ := step_atEcho m quoted
  cases htext : decodeText quoted with
  | ok text =>
      rw [htext] at hstep
      obtain ⟨log', hmove⟩ := run_moveOn_last
        (m.underway_atEcho quoted (m.console.write (text ++ "\n")) log) rfl hcursor rfl
      exact ⟨_, run_cycle_stops hstep hmove, rfl, rfl, rfl⟩
  | error fault =>
      rw [htext] at hstep
      have htold : ∀ e ∈ some fault, e.Tellable := by
        intro e he
        cases he
        exact tellable_of_decodeText htext
      obtain ⟨log', hfinish⟩ :=
        run_finish (m.underway_atEcho quoted m.console log) rfl htold hcursor
      dsimp only at hstep
      rw [run_bind, hfinish] at hstep
      exact ⟨_, run_cycle_stops hstep (run_moveOn_ended rfl), rfl, rfl, rfl⟩

theorem run_echo (h : Quotable s) (hfree : m.phase = .idle ∨ m.phase = .ended) :
    ∃ m₁, (∀ n ≥ 1, run n ("10 PRINT " ++ inQuotes s) m = some (.ok (), m₁)) ∧
      m₁.phase = .ended ∧
      if s.toList.any Text.isGarbling then
        m₁.console = m.console ∧ m₁.completion = .done
          { fault := some (.parse (.badLiteral (inQuotes s)) (some 10)), line := some 10 }
      else m₁.console = m.console.write (s ++ "\n") ∧ m₁.completion = .done {} := by
  obtain ⟨m₁, hcycle, hphase, hend⟩ := cycle_atEcho m (inQuotes s)
  refine ⟨m₁, fun n hn => ?_, hphase, ?_⟩
  · obtain ⟨n, rfl⟩ := Nat.exists_eq_add_of_le' hn
    rw [run, followed_eq, start_echo h hfree]
    dsimp only
    rw [follow_succ, hcycle]
  · rw [h.decodeText_eq] at hend
    split
    · next hgarbled =>
      rw [if_pos hgarbled] at hend
      exact hend
    · next hplain =>
      rw [if_neg hplain] at hend
      exact hend

/-- A text without double quotes, backslashes and line feeds, shown as it stands between double
quotes, makes a program of one line, whatever the text is. The run of the program writes the text
and a line feed, and ends well, unless a carriage return or a null character is in the text. Then it
writes nothing and ends at the line with the fault of a literal that cannot be decoded. -/
theorem run_print_quotable (h : Quotable s) (hfree : m.phase = .idle ∨ m.phase = .ended) :
    Program.load ("10 PRINT " ++ inQuotes s) = .ok (echo (inQuotes s)) ∧
      ∃ m₁, (∀ n ≥ 1, run n ("10 PRINT " ++ inQuotes s) m = some (.ok (), m₁)) ∧
        m₁.phase = .ended ∧
        ((∀ c ∈ s.toList, c ≠ '\r' ∧ c.toNat ≠ 0) →
          m₁.console = m.console.write (s ++ "\n") ∧ m₁.completion = .done {}) ∧
        ((∃ c ∈ s.toList, c = '\r' ∨ c.toNat = 0) →
          m₁.console = m.console ∧ m₁.completion = .done
            { fault := some (.parse (.badLiteral (inQuotes s)) (some 10)), line := some 10 }) := by
  obtain ⟨m₁, hrun, hphase, hend⟩ := run_echo h hfree
  refine ⟨load_echo h, m₁, hrun, hphase, fun hplain => ?_, fun hgarbled => ?_⟩
  · have hnone : ¬ s.toList.any Text.isGarbling = true := by
      rw [List.any_eq_true]
      rintro ⟨c, hc, hgarbling⟩
      have hc := hplain c hc
      simp [Text.isGarbling, hc.1, hc.2] at hgarbling
    rw [if_neg hnone] at hend
    exact hend
  · have hsome : s.toList.any Text.isGarbling = true := by
      rw [List.any_eq_true]
      simpa [Text.isGarbling] using hgarbled
    rw [if_pos hsome] at hend
    exact hend

/-- A text with a form feed in it. -/
theorem run_print_quotable_form_feed :
    Quotable "A\x0cB" ∧ ∃ m₁,
      (∀ n ≥ 1, run n ("10 PRINT " ++ inQuotes "A\x0cB")
        { constants := defaultConstants, functions := defaultFunctions } = some (.ok (), m₁)) ∧
      m₁.console = .buffer { written := "A\x0cB\n" } ∧ m₁.completion = .done {} := by
  have hquotable : Quotable "A\x0cB" := ⟨by decide, by decide, by decide⟩
  obtain ⟨-, m₁, hrun, -, hplain, -⟩ := run_print_quotable
    (m := { constants := defaultConstants, functions := defaultFunctions }) hquotable (.inl rfl)
  obtain ⟨hconsole, hcompletion⟩ := hplain (by simp)
  have hwritten : "" ++ ("A\x0cB" ++ "\n") = "A\x0cB\n" := by decide
  refine ⟨hquotable, m₁, hrun, ?_, hcompletion⟩
  rw [hconsole, ← hwritten]
  rfl

/-- A text with a carriage return in it: its line loads, and nothing is written. -/
theorem run_print_carriage_return :
    Quotable "A\rB" ∧ Program.load "10 PRINT \"A\rB\"" = .ok (echo (inQuotes "A\rB")) ∧ ∃ m₁,
      (∀ n ≥ 1, run n "10 PRINT \"A\rB\""
        { constants := defaultConstants, functions := defaultFunctions } = some (.ok (), m₁)) ∧
      m₁.console = .buffer { written := "" } ∧ m₁.completion ≠ .done {} ∧
      m₁.completion = .done
        { fault := some (.parse (.badLiteral "\"A\rB\"") (some 10)), line := some 10 } := by
  have hquotable : Quotable "A\rB" := ⟨by decide, by decide, by decide⟩
  have hload := load_echo hquotable
  obtain ⟨m₁, hrun, -, hend⟩ := run_echo
    (m := { constants := defaultConstants, functions := defaultFunctions }) hquotable (.inl rfl)
  have hquoted : inQuotes "A\rB" = "\"A\rB\"" := by decide
  have hsource : "10 PRINT " ++ "\"A\rB\"" = "10 PRINT \"A\rB\"" := by decide
  rw [if_pos (by decide), hquoted] at hend
  rw [hquoted, hsource] at hrun hload
  refine ⟨hquotable, ?_, m₁, hrun, hend.1, ?_, hend.2⟩
  · rw [hquoted]
    exact hload
  · rw [hend.2]
    nofun

end Machine

end LineBasic

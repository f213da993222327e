import LineBasic.Program
import LineBasic.Proofs.Grammar.Slicing
import LineBasic.Proofs.Value.Faults
import Mathlib.Algebra.Group.Nat.Defs
import Mathlib.Data.List.Induction

/-!
# Line numbers that can be written

A line number is read from at most as many digits as a number may have to be written. So every line
of a program that was loaded has a number that can be written, and a fault in loading that names a
line names one that can be written. Faults in loading that are not faults of the language are bare.
-/

namespace LineBasic

/-- The line that a fault names, if any, has a number that can be written. -/
def Fault.Tellable (e : Fault) : Prop :=
  ∀ n, e.line? = some n → (Decimal.writeInt? n).isSome = true

theorem Decimal.isSome_writeInt? {n : Int} :
    (writeInt? n).isSome = true ↔ n.natAbs < 10 ^ digitLimit := by
  by_cases h : n.natAbs < 10 ^ digitLimit <;> simp [writeInt?, h]

theorem Text.digitsValue_lt (cs : List Char) : Text.digitsValue cs < 10 ^ cs.length := by
  induction cs using List.reverseRecOn with
  | nil => simp
  | append_singleton cs c ih =>
      have hdigit : (Text.digitValue? c).getD 0 < 10 := by
        cases h : Text.digitValue? c with
        | none => simp
        | some d => simpa using Text.digitValue?_lt h
      rw [Text.digitsValue_append_singleton, List.length_append, List.length_singleton,
        Nat.pow_succ]
      omega

/-- A number read from no more digits than the limit can be written. -/
theorem isSome_writeInt?_digitsValue {cs : List Char} (h : cs.length ≤ Decimal.digitLimit) :
    (Decimal.writeInt? (Text.digitsValue cs : Int)).isSome = true := by
  apply Decimal.isSome_writeInt?.mpr
  rw [Int.natAbs_natCast]
  exact Nat.lt_of_lt_of_le (Text.digitsValue_lt cs) (Nat.pow_le_pow_right (by simp) h)

theorem Fault.tellable_of_isBare {e : Fault} (h : e.isBare = true) : e.Tellable := by
  intro n hn
  cases e <;> simp_all [isBare, line?]

/-- A fault that is given a line names that line, or the one it named before. -/
theorem Fault.tellable_atLine {e : Fault} (h : e.Tellable) {line : Option Int}
    (hline : ∀ n ∈ line, (Decimal.writeInt? n).isSome = true) : (e.atLine line).Tellable := by
  intro n hn
  cases e with
  | parse cause own =>
      cases own with
      | none => exact hline n hn
      | some m => exact h n hn
  | run cause own =>
      cases own with
      | none => exact hline n hn
      | some m => exact h n hn
  | _ => cases hn

theorem Fault.atLine_none (e : Fault) : e.atLine none = e := by
  cases e with
  | parse cause line => cases line <;> rfl
  | run cause line => cases line <;> rfl
  | _ => rfl

theorem Fault.ofLanguage_atLine (e : Fault) (line : Option Int) :
    (e.atLine line).ofLanguage = e.ofLanguage := by
  cases e with
  | parse cause own => cases own <;> rfl
  | run cause own => cases own <;> rfl
  | _ => rfl

/-- A bare fault of the language that is given a line carries it. -/
theorem Fault.line?_atLine {e : Fault} (h : e.isBare = true) (hlanguage : e.ofLanguage = true)
    (line : Option Int) : (e.atLine line).line? = line := by
  cases e with
  | parse cause own =>
      cases own with
      | none => rfl
      | some n => cases h
  | run cause own =>
      cases own with
      | none => rfl
      | some n => cases h
  | _ => cases hlanguage

/-- The wording of a fault starts with its kind and the line that it carries. -/
theorem Fault.message_of_line {e : Fault} {n : Int} (h : e.line? = some n) :
    ∃ kind text, e.message = kind ++ " on line " ++ Decimal.intText n ++ ": " ++ text := by
  cases e with
  | parse cause line =>
      cases h
      exact ⟨"ParseError", cause.message, rfl⟩
  | run cause line =>
      cases h
      exact ⟨"RuntimeError", cause.message, rfl⟩
  | _ => cases h

/-! ## Reading a line -/

theorem parseJump_bare (make : Nat → Command) : Ensures Bare (parseJump make) :=
  .bind fun digits => .pure (bare_lineNumber digits).map

theorem parseInput_bare : Ensures Bare parseInput := by
  refine .bind fun quoted => ?_
  cases quoted with
  | none => exact .bind fun name => .pure (raises_ok _)
  | some quoted =>
      refine .bind fun _ => .bind fun name => .pure ?_
      exact (bare_decodeText quoted).bind fun _ => raises_pure _

theorem parseCommand_bare : Ensures Bare parseCommand := by
  have hok : ∀ p : Scan Command, Ensures Bare (do return .ok (← p)) :=
    fun p => .bind fun _ => .pure (raises_ok _)
  refine .bind fun remark => ?_
  cases remark with
  | some remark => exact .pure (raises_ok _)
  | none =>
  refine .bind fun name => ?_
  cases name with
  | some name => exact hok _
  | none =>
  -- one alternative for each word, in the order in which they are tried
  refine .choice (hok _) ?_
  refine .choice (.bind fun _ => hok _) ?_
  refine .choice (parseJump_bare _) ?_
  refine .choice (parseJump_bare _) ?_
  refine .choice (.pure (raises_ok _)) ?_
  refine .choice (.pure (raises_ok _)) ?_
  refine .choice (hok _) ?_
  refine .choice (.bind fun _ => .pure (raises_ok _)) ?_
  refine .choice (.bind fun _ => .pure (raises_ok _)) ?_
  refine .choice parseInput_bare ?_
  refine .choice (.bind fun _ => .pure (raises_ok _)) ?_
  refine .choice (hok _) ?_
  refine .choice (.pure (raises_ok _)) ?_
  refine .choice (.pure (raises_ok _)) ?_
  exact .choice (.pure (raises_ok _)) .fail

theorem parseBranch_bare : Ensures Bare parseBranch := by
  refine .bind fun digits => ?_
  cases digits with
  | none => exact parseCommand_bare
  | some digits => exact .pure (bare_lineNumber digits).map

theorem parseInstruction_bare : Ensures Bare parseInstruction := by
  refine .choice ?_ ?_
  · refine .bind fun condition => .bind fun _ => ?_
    refine parseBranch_bare.seq (fun _ => .symbol? (by decide) .pure) fun yes hyes => ?_
    refine .choice ?_ ?_
    · refine parseBranch_bare.seq (fun _ => .pure) fun no hno => .pure ?_
      exact hyes.bind fun _ => hno.bind fun _ => raises_pure _
    · exact .pure (hyes.bind fun _ => raises_pure _)
  · exact parseCommand_bare.seq (fun _ => .pure) fun command hcommand => .pure hcommand.map

theorem bare_parseBody (text : String) : Bare (parseBody text) := by
  rw [parseBody]
  cases hwhole : parseInstruction.whole text with
  | error fault =>
      have hunexpected : ∃ position, fault = .parse (.unexpected text position) none := by
        unfold Scan.whole at hwhole
        split at hwhole
        · cases hwhole
        · next position _ =>
          cases hwhole
          exact ⟨position, rfl⟩
      obtain ⟨position, rfl⟩ := hunexpected
      exact raises_error.mpr rfl
  | ok result =>
      obtain ⟨c', hparse, hend⟩ := whole_eq_ok.mp hwhole
      exact parseInstruction_bare _ _ c' hparse (clear_of_skip_eq_nil hend)

theorem parseLine_number {text : String} {line : Line} (h : parseLine text = .ok line) :
    (Decimal.writeInt? (line.number : Int)).isSome = true := by
  unfold parseLine at h
  split at h
  · cases h
  · split at h
    · next hlength =>
      dsimp only at h
      split at h
      · cases h
        exact isSome_writeInt?_digitsValue hlength
      · cases h
    · cases h

/-- A fault is one of the language that can be told, or is bare. -/
def Fault.Orderly (e : Fault) : Prop :=
  e.Tellable ∧ (e.ofLanguage = false → e.isBare = true)

theorem Fault.orderly_of_isBare {e : Fault} (h : e.isBare = true) : e.Orderly :=
  ⟨tellable_of_isBare h, fun _ => h⟩

theorem parseLine_orderly {text : String} {e : Fault} (h : parseLine text = .error e) :
    e.Orderly := by
  unfold parseLine at h
  split at h
  · cases h
    exact Fault.orderly_of_isBare rfl
  · split at h
    · next hlength =>
      dsimp only at h
      split at h
      · cases h
      · next fault hbody =>
        cases h
        have hbare := bare_parseBody _ fault hbody
        refine ⟨Fault.tellable_atLine (Fault.tellable_of_isBare hbare) ?_, ?_⟩
        · intro n hn
          cases hn
          exact isSome_writeInt?_digitsValue hlength
        · intro hlanguage
          cases fault with
          | parse cause line => cases line <;> cases hlanguage
          | run cause line => cases line <;> cases hlanguage
          | _ => exact hbare
    · cases h
      exact Fault.orderly_of_isBare rfl

def leadingDigits (text : String) : List Char :=
  (Text.trimLeft text.toList).takeWhile Text.isDigit

/-- A text without line breaks before its end has none, or one, behind any of its first lines. -/
theorem dropWhile_break {cs rest : List Char} (hbreak : '\n' ∉ cs.dropLast) (hrest : rest <:+ cs) :
    rest.dropWhile (· != '\n') = [] ∨ rest.dropWhile (· != '\n') = ['\n'] := by
  cases htail : rest.dropWhile (· != '\n') with
  | nil => exact .inl rfl
  | cons c tail =>
      have hc : c = '\n' := by
        have hhead := List.head?_dropWhile_not (· != '\n') rest
        rw [htail] at hhead
        simpa using hhead
      obtain ⟨before, hcs⟩ : c :: tail <:+ cs := by
        rw [← htail]
        exact (List.dropWhile_suffix _).trans hrest
      cases tail with
      | nil => exact .inr (by rw [hc])
      | cons d tail =>
          refine absurd ?_ hbreak
          rw [← hcs, List.dropLast_append_of_ne_nil (List.cons_ne_nil _ _), hc]
          simp

/-- A text that starts with digits, and has no line break before its end, is split behind them. -/
theorem splitLine?_of_digits {text : String} (hbreak : '\n' ∉ text.toList.dropLast)
    (hdigits : leadingDigits text ≠ []) :
    ∃ body, splitLine? text.toList = some (leadingDigits text, body) := by
  unfold leadingDigits at hdigits ⊢
  unfold splitLine?
  dsimp only
  generalize hrest : Text.trimLeft ((Text.trimLeft text.toList).dropWhile Text.isDigit) = rest
  have hsuffix : rest <:+ text.toList := by
    rw [← hrest]
    exact (List.dropWhile_suffix _).trans
      ((List.dropWhile_suffix _).trans (List.dropWhile_suffix _))
  have hdrop : rest.drop (rest.takeWhile (· != '\n')).length = rest.dropWhile (· != '\n') := by
    have hbody := List.prefix_iff_eq_append.mp (List.takeWhile_prefix (l := rest) (· != '\n'))
    exact List.append_cancel_left (hbody.trans List.takeWhile_append_dropWhile.symm)
  obtain ⟨d, digits, hcons⟩ := List.exists_cons_of_ne_nil hdigits
  rw [hdrop, hcons]
  rcases dropWhile_break hbreak hsuffix with hnil | hend
  · rw [hnil]
    exact ⟨_, rfl⟩
  · rw [hend]
    exact ⟨_, rfl⟩

/-- A fault of the language in a line that starts with digits carries the number they write. -/
theorem parseLine_error_line {text : String} (hbreak : '\n' ∉ text.toList.dropLast)
    (hdigits : leadingDigits text ≠ []) {e : Fault} (h : parseLine text = .error e)
    (hlanguage : e.ofLanguage = true) :
    e.line? = some (Text.digitsValue (leadingDigits text) : Int) := by
  obtain ⟨body, hsplit⟩ := splitLine?_of_digits hbreak hdigits
  unfold parseLine at h
  rw [hsplit] at h
  dsimp only at h
  split at h
  · split at h
    · cases h
    · next fault hfault =>
      cases h
      rw [Fault.ofLanguage_atLine] at hlanguage
      exact Fault.line?_atLine (bare_parseBody _ fault hfault) hlanguage _
  · cases h
    cases hlanguage

/-! ## Loading a program -/

namespace Program

/-- Every line of the program has a number that can be written. -/
def Writable (p : Program) : Prop :=
  ∀ line ∈ p.lines, (Decimal.writeInt? (line.number : Int)).isSome = true

theorem writable_empty : empty.Writable := by
  intro line hline
  cases hline

theorem Writable.next? {p : Program} (h : p.Writable) {n : Int} {line : Line}
    (hnext : p.next? n = some line) : (Decimal.writeInt? (line.number : Int)).isSome = true :=
  h line (List.mem_of_find?_eq_some hnext)

theorem repeated?_mem {lines : List Line} {n : Nat} (h : repeated? lines = some n) :
    ∃ line ∈ lines, line.number = n := by
  fun_induction repeated? lines with
  | case1 a b rest hsame => exact ⟨a, by simp, Option.some.inj h⟩
  | case2 a b rest hdistinct ih =>
      obtain ⟨line, hline, hn⟩ := ih h
      exact ⟨line, List.mem_cons_of_mem a hline, hn⟩
  | case3 => cases h

theorem parseLine_of_sort {sources : List String} {lines : List Line}
    (h : sources.mapM parseLine = .ok lines) {line : Line} (hline : line ∈ sort lines) :
    ∃ text, parseLine text = .ok line := by
  rw [sort, List.mem_mergeSort] at hline
  exact exists_of_mapM h line hline

/-- What loading a program comes to: lines whose numbers can be written, or an orderly fault. -/
theorem load_cases (source : String) :
    (∃ p, load source = .ok p ∧ p.Writable) ∨ ∃ e, load source = .error e ∧ e.Orderly := by
  unfold load
  cases hlines : ((splitSource source).filter (!isBlankLine ·)).mapM parseLine with
  | error e => exact .inr ⟨e, rfl, raises_mapM (fun _ _ => parseLine_orderly) _ e hlines⟩
  | ok lines =>
      have hwritable :
          ∀ line ∈ sort lines, (Decimal.writeInt? (line.number : Int)).isSome = true := by
        intro line hline
        obtain ⟨text, htext⟩ := parseLine_of_sort hlines hline
        exact parseLine_number htext
      change (∃ p, ofLines lines = .ok p ∧ p.Writable) ∨ ∃ e, ofLines lines = .error e ∧ e.Orderly
      unfold ofLines
      split
      · next n hn =>
        obtain ⟨line, hline, rfl⟩ := repeated?_mem hn
        refine .inr ⟨_, rfl, ?_, nofun⟩
        intro n hn
        cases hn
        exact hwritable line hline
      · exact .inl ⟨_, rfl, hwritable⟩

theorem writable_of_load {source : String} {p : Program} (h : load source = .ok p) :
    p.Writable := by
  rcases load_cases source with ⟨p', hp', hwritable⟩ | ⟨e, he, -⟩
  · rw [h] at hp'
    cases hp'
    exact hwritable
  · rw [h] at he
    cases he

/-- The lines of a loaded program have been read from texts. -/
theorem parseLine_of_load {source : String} {p : Program} (h : load source = .ok p) {line : Line}
    (hline : line ∈ p.lines) : ∃ text, parseLine text = .ok line := by
  obtain ⟨lines, hlines, h⟩ := bind_eq_ok.mp h
  unfold ofLines at h
  split at h
  · cases h
  · cases h
    exact parseLine_of_sort hlines hline

theorem orderly_of_load {source : String} {e : Fault} (h : load source = .error e) :
    e.Orderly := by
  rcases load_cases source with ⟨p, hp, -⟩ | ⟨e', he, horderly⟩
  · rw [h] at hp
    cases hp
  · rw [h] at he
    cases he
    exact horderly

end Program

end LineBasic

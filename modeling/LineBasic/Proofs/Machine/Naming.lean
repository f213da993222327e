import LineBasic.Proofs.Grammar.Classifying
import LineBasic.Proofs.Grammar.Grouping
import LineBasic.Proofs.Machine.Evaluating
import LineBasic.Proofs.Table

/-!
# The names of constants

The names that a table of constants may have are checked so that every constant can be read: the
text of the name, evaluated as an expression, is to give the value in the table. The check admits
two kinds of names that cannot be read. `NOT` has the shape of a name, but is an operator where an
expression starts. And a line break at the end is overlooked, while no expression holds a line break
outside a literal. All other names that are admitted are read, and no other text is read as a
constant of its own name (`parseExpression_eq_constant`).
-/

namespace LineBasic

open Unread
open Token (IsVariable isLetter isWordStart isWordPart)

/-- What is written as a constant is a name, in however many parentheses it stands. -/
theorem Writes.isToken_name {low : Level} {e : Expr} {name : String} {pieces : List Piece} :
    Writes low e pieces → e = .constant name → IsToken Token.nameLength name
  | .constant h, rfl => h
  | .group he, heq => he.isToken_name heq

section Constants

variable {name text : String} {e : Expr}

theorem isToken_of_parseExpression (h : parseExpression text = .ok (.constant name)) :
    IsToken Token.nameLength name := by
  obtain ⟨rest, hread, -⟩ := parseExpression_eq_ok.mp h
  obtain ⟨pieces, hwrites, -⟩ := hread.exists_pieces (Nat.zero_le _)
  exact hwrites.isToken_name rfl

/-- A text is read as the constant of its own name exactly if it is a name. -/
theorem parseExpression_eq_constant :
    parseExpression name = .ok (.constant name) ↔ IsName name := by
  constructor
  · intro h
    have hword := Token.lettered_of_isToken_name (isToken_of_parseExpression h)
    rcases (parseExpression_lettered hword).mp h with ⟨hvar, -⟩ | ⟨-, hname⟩
    · cases hvar
    · exact hname
  · intro h
    exact parseExpression_leaf (e := .constant name) h rfl

/-- A line break is no gap and in no token but a literal's, so an expression has none in it. -/
theorem parseExpression_break (hbreak : '\n' ∈ text.toList) :
    parseExpression text ≠ .ok e := by
  intro h
  obtain ⟨rest, hread, hend⟩ := parseExpression_eq_ok.mp h
  obtain ⟨w, htext, hw, -⟩ := hread.takes
  rw [htext] at hbreak
  rcases List.mem_append.mp hbreak with hmem | hmem
  · exact hw hmem
  · exact absurd (isGap_of_skip_eq_nil hend '\n' hmem) (by decide)

/-- The operator is not read as a constant. -/
theorem parseExpression_not : parseExpression "NOT" ≠ .ok e := by
  intro h
  have hword : Token.Lettered "NOT".toList :=
    Token.lettered_of_isToken_name ⟨by decide, by decide⟩
  rcases (parseExpression_lettered hword).mp h with ⟨-, hvariable⟩ | ⟨-, -, hname⟩
  · exact absurd (Token.isToken_variable_iff.mpr hvariable).2 (by decide)
  · exact hname rfl

end Constants

namespace Machine

variable {constants table : Table String Value} {name : String} {value : Value} {m : Machine}

/-- Without a line break, the names that are admitted are the names. -/
theorem isConstantName_iff (hbreak : '\n' ∉ name.toList) :
    isConstantName name = true ↔ IsToken Token.nameLength name := by
  have hreverse : ∀ rest, name.toList.reverse ≠ '\n' :: rest := by
    intro rest h
    exact hbreak (List.mem_reverse.mp (by rw [h]; exact List.mem_cons_self))
  rw [Token.isToken_name_iff]
  unfold isConstantName
  split
  · next rest h => exact absurd h (hreverse rest)
  · constructor
    · intro h
      dsimp only at h
      split at h
      · next a b rest hname =>
        simp only [Bool.and_eq_true, List.all_eq_true] at h
        exact ⟨a, b, rest, hname, h.1.1, h.1.2, h.2⟩
      · cases h
    · rintro ⟨a, b, rest, hname, ha, hb, hrest⟩
      simp only [hname, ha, hb, Bool.and_self, Bool.true_and, List.all_eq_true]
      exact hrest

/-- A table of constants is taken as it is when all its names are admitted. -/
theorem checkConstants_eq_ok :
    checkConstants constants = .ok table ↔
      table = constants ∧ ∀ name ∈ constants.keys, isConstantName name = true := by
  have hadmitted : (constants.keys.filter (!isConstantName ·)).mergeSort
      (fun a b => decide (a ≤ b)) = [] ↔ ∀ name ∈ constants.keys, isConstantName name = true := by
    rw [← List.length_eq_zero_iff, List.length_mergeSort, List.length_eq_zero_iff,
      List.filter_eq_nil_iff]
    simp
  rw [← hadmitted, checkConstants]
  split
  · next hsort => simp [hsort, eq_comm]
  · next hsort => simpa using fun _ => hsort

theorem mem_keys_of_findIn {entries : List (String × Value)}
    (h : Table.findIn name entries = some value) : name ∈ entries.map (·.1) := by
  induction entries with
  | nil => cases h
  | cons entry entries ih =>
      rw [Table.findIn] at h
      split at h
      · next heq =>
        rw [← beq_iff_eq.mp heq]
        exact List.mem_cons_self
      · exact List.mem_cons_of_mem _ (ih h)

/-- What is entered in a table of constants that is accepted has a name that is admitted. -/
theorem isConstantName_of_accepted (haccepted : checkConstants constants = .ok table)
    (hentry : constants.get? name = some value) : isConstantName name = true :=
  (checkConstants_eq_ok.mp haccepted).2 name (mem_keys_of_findIn hentry)

/-- The value of a name is what the table of constants has under it. -/
theorem evaluateText_of_name (hname : IsName name)
    (hvalue : m.constants.get? name = some value) :
    (evaluateText name).run.run m = (.ok value, m) := by
  refine evaluateText_of_ok (parseExpression_eq_constant.mpr hname) ?_
  simp only [evalExpr, getConstant, run_bind, run_get, hvalue]
  rfl

/-- A text that is no expression fails to be evaluated, which is logged. -/
theorem evaluateText_unread {text : String} (h : ∀ e, parseExpression text ≠ .ok e) :
    ∃ position, (evaluateText text).run.run m =
      (.error (.parse (.unexpected text position) none), m.failing text) := by
  cases hparse : parseExpression text with
  | ok e => exact absurd hparse (h e)
  | error fault =>
      obtain ⟨position, rfl⟩ := parseExpression_error hparse
      exact ⟨position, evaluateText_of_error hparse⟩

/-- The texts that are read as a constant of their own name are the names that a table of constants
may have, but for `NOT` and for those with a line break at the end. On a machine with a table that
was accepted, each name in the table that can be read has the value entered for it. The others are
rejected as expressions, and the failure is logged. -/
theorem evaluateText_accepted_constant (name : String) :
    (parseExpression name = .ok (.constant name) ↔
      isConstantName name = true ∧ name ≠ "NOT" ∧ '\n' ∉ name.toList) ∧
    ∀ (constants table : Table String Value) (m : Machine) (value : Value),
      checkConstants constants = .ok table → m.constants = table →
      constants.get? name = some value →
        (name ≠ "NOT" → '\n' ∉ name.toList →
          (evaluateText name).run.run m = (.ok value, m)) ∧
        (name = "NOT" ∨ '\n' ∈ name.toList →
          ∃ position, (evaluateText name).run.run m =
            (.error (.parse (.unexpected name position) none), m.failing name)) := by
  constructor
  · constructor
    · intro h
      have hbreak : '\n' ∉ name.toList := fun hmem => parseExpression_break hmem h
      obtain ⟨htoken, hnot⟩ := parseExpression_eq_constant.mp h
      exact ⟨(isConstantName_iff hbreak).mpr htoken, hnot, hbreak⟩
    · rintro ⟨hconstant, hnot, hbreak⟩
      exact parseExpression_eq_constant.mpr ⟨(isConstantName_iff hbreak).mp hconstant, hnot⟩
  · intro constants table m value haccepted hm hentry
    have hconstant := isConstantName_of_accepted haccepted hentry
    obtain ⟨rfl, -⟩ := checkConstants_eq_ok.mp haccepted
    constructor
    · intro hnot hbreak
      exact evaluateText_of_name ⟨(isConstantName_iff hbreak).mp hconstant, hnot⟩ (hm ▸ hentry)
    · rintro (rfl | hbreak)
      · exact evaluateText_unread fun _ => parseExpression_not
      · exact evaluateText_unread fun _ => parseExpression_break hbreak

/-- A constant of a machine that is not given its own. -/
theorem evaluateText_level :
    checkConstants defaultConstants = .ok defaultConstants ∧
      defaultConstants.get? "LEVEL" = some (.int 1) ∧
      (evaluateText "LEVEL").run.run
          { constants := defaultConstants, functions := defaultFunctions } =
        (.ok (.int 1), { constants := defaultConstants, functions := defaultFunctions }) := by
  have haccepted : checkConstants defaultConstants = .ok defaultConstants :=
    checkConstants_eq_ok.mpr ⟨rfl, by decide⟩
  have hlevel : defaultConstants.get? "LEVEL" = some (.int 1) := rfl
  have hread := (evaluateText_accepted_constant "LEVEL").2 defaultConstants defaultConstants
    { constants := defaultConstants, functions := defaultFunctions } (.int 1) haccepted rfl hlevel
  exact ⟨haccepted, hlevel, hread.1 (by decide) (by decide)⟩

/-- Two tables that are accepted, and the names in them that are rejected as expressions. -/
theorem evaluateText_unreadable_constants :
    (checkConstants (Table.ofList [("NOT", .int 5)]) = .ok (Table.ofList [("NOT", .int 5)]) ∧
      (Table.ofList [("NOT", Value.int 5)]).get? "NOT" = some (.int 5) ∧
      ((evaluateText "NOT").run.run
        { constants := Table.ofList [("NOT", .int 5)], functions := defaultFunctions }).1 =
          .error (.parse (.unexpected "NOT" 0) none)) ∧
    (checkConstants (Table.ofList [("PI\n", .int 5)]) = .ok (Table.ofList [("PI\n", .int 5)]) ∧
      (Table.ofList [("PI\n", Value.int 5)]).get? "PI\n" = some (.int 5) ∧
      ((evaluateText "PI\n").run.run
        { constants := Table.ofList [("PI\n", .int 5)], functions := defaultFunctions }).1 =
          .error (.parse (.unexpected "PI\n" 2) none)) := by
  have hnot : parseExpression "NOT" = .error (.parse (.unexpected "NOT" 0) none) := by
    with_unfolding_all rfl
  have hbreak : parseExpression "PI\n" = .error (.parse (.unexpected "PI\n" 2) none) := by
    with_unfolding_all rfl
  refine ⟨⟨checkConstants_eq_ok.mpr ⟨rfl, by decide⟩, rfl, ?_⟩,
    ⟨checkConstants_eq_ok.mpr ⟨rfl, by decide⟩, rfl, ?_⟩⟩
  · rw [evaluateText_of_error hnot]
  · rw [evaluateText_of_error hbreak]

end Machine

end LineBasic

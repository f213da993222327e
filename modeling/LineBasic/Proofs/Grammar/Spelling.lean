import LineBasic.Proofs.Grammar.Escaping
import LineBasic.Proofs.Grammar.Numbering

/-!
# Numbers and texts written out

A number is written in decimal digits, and a text as a literal, in which the backslash, the double
quote and the control characters are escaped. Both are tokens, and they are read as the number and
the text again.
-/

namespace LineBasic

/-! ## Texts -/

namespace Text

/-- The characters that have no sign of their own: the numbers below 32 and from 127 to 159. -/
def isControl (c : Char) : Bool := c.toNat < 0x20 || (0x7f ≤ c.toNat && c.toNat < 0xa0)

def literalChar (c : Char) : List Char :=
  if c == '"' || c == '\\' then ['\\', c]
  else if isControl c then numberedChar c
  else [c]

def literal (s : String) : String :=
  String.ofList ('"' :: (s.toList.flatMap literalChar ++ ['"']))

theorem covers_isControl : Covers isControl where
  short c h := by
    simp only [isControl, Bool.or_eq_true, Bool.and_eq_true, decide_eq_true_eq] at h
    omega
  breaks c h := by
    refine ⟨?_, ?_, ?_⟩
    · rintro rfl
      exact absurd h (by decide)
    · rintro rfl
      exact absurd h (by decide)
    · intro hzero
      simp [isControl, hzero] at h

/-- A text is what its literal denotes. -/
theorem decodeLiteral?_literal (s : String) : decodeLiteral? (literal s) = some s :=
  covers_isControl.decodeLiteral?_escapedLiteral s

end Text

/-- A literal is one token. -/
theorem Token.isToken_literal (s : String) : IsToken literalLength (Text.literal s) :=
  isToken_escapedLiteral Text.covers_isControl s

/-! ## Numbers -/

namespace Decimal

theorem intText_toList (n : Nat) : (intText n).toList = Nat.toDigits 10 n := by
  simp [intText, intDigits, digitsOf]

theorem digitValue?_digitChar : ∀ d < 10, Text.digitValue? (Nat.digitChar d) = some d := by
  decide

theorem isDigit_of_charIsDigit {c : Char} (h : c.isDigit = true) : Text.isDigit c = true := by
  have hrange := Token.charIsDigit_range h
  have hzero : 0x30 ≤ c.toNat ∧ c.toNat < 0x30 + 10 := by omega
  simp [Text.isDigit, Text.digitValue?, Text.digitZeros, hzero]

theorem isDigit_intText (n : Nat) : ∀ c ∈ (intText n).toList, Text.isDigit c = true := by
  intro c hc
  rw [intText_toList] at hc
  exact isDigit_of_charIsDigit (Nat.isDigit_of_mem_toDigits (by decide) (by decide) hc)

theorem intText_ne_nil (n : Nat) : (intText n).toList ≠ [] := by
  rw [intText_toList]
  exact List.ne_nil_of_length_pos Nat.length_toDigits_pos

/-- A number is the value of its digits. -/
theorem digitsValue_intText (n : Nat) : Text.digitsValue (intText n).toList = n := by
  rw [intText_toList]
  induction n using Nat.strongRecOn with
  | ind n ih =>
      rw [Nat.toDigits_eq_if (by decide)]
      split
      · next hlt => simp [Text.digitsValue, digitValue?_digitChar n hlt]
      · next hge =>
        rw [Text.digitsValue_append_singleton, ih (n / 10) (by omega),
          digitValue?_digitChar (n % 10) (by omega), Option.getD_some]
        omega

/-- A number that can be written has no more digits than may be read. -/
theorem length_intText_le {n : Nat} (h : (writeInt? n).isSome = true) :
    (intText n).length ≤ digitLimit := by
  rw [isSome_writeInt?, Int.natAbs_natCast] at h
  rw [← String.length_toList, intText_toList]
  exact (Nat.length_toDigits_le_iff (by decide) (by decide)).mpr h

/-- The digits of a number are one token. -/
theorem isToken_intText (n : Nat) : IsToken Token.numberLength (intText n) := by
  have hpos := List.length_pos_iff.mpr (intText_ne_nil n)
  have hcount : Token.countWhile Text.isDigit (intText n).toList = (intText n).toList.length := by
    have hself : ((intText n).toList ++ []).takeWhile Text.isDigit =
        (intText n).toList ++ [].takeWhile Text.isDigit :=
      List.takeWhile_append_of_pos (isDigit_intText n)
    rw [List.append_nil, List.takeWhile_nil, List.append_nil] at hself
    rw [Token.countWhile, hself]
  have hdecimal : Token.decimalLength (intText n).toList = (intText n).toList.length := by
    simp only [Token.decimalLength, hcount, List.drop_length]
  refine ⟨intText_ne_nil n, ?_⟩
  rw [Token.numberLength, hdecimal, if_neg (by omega), List.drop_length]
  rfl

/-- A number that can be written is the line number that its digits name. -/
theorem lineNumber_intText {n : Nat} (h : (writeInt? n).isSome = true) :
    lineNumber (intText n) = .ok n := by
  have hdigits : (intText n).toList.all Text.isDigit = true :=
    List.all_eq_true.mpr (isDigit_intText n)
  rw [lineNumber, if_pos hdigits, if_pos (length_intText_le h), digitsValue_intText]

end Decimal

end LineBasic

import LineBasic.Proofs.Grammar.Printing
import LineBasic.Text.Quoted

/-!
# Escaping

A text is written as a literal by putting a backslash in front of every backslash and double quote,
and by writing some other characters as their numbers. Which ones is a choice: it has to take in the
characters that must not stand in a literal, and it may take in any other whose number has two
digits. Whatever the choice, what is written is one token and denotes the text.
-/

namespace LineBasic

namespace Text

/-- A character as it stands in a literal that gives the characters of a class by number. -/
def escapedChar (numbered : Char → Bool) (c : Char) : List Char :=
  if c == '"' || c == '\\' then ['\\', c]
  else if numbered c then numberedChar c
  else [c]

/-- A text as a literal that gives the characters of a class by number. -/
def escapedLiteral (numbered : Char → Bool) (s : String) : String :=
  String.ofList ('"' :: (s.toList.flatMap (escapedChar numbered) ++ ['"']))

/-- The classes of characters that can be given by number: they leave out no line break and no null
character, and two digits are enough for each. -/
structure Covers (numbered : Char → Bool) : Prop where
  short : ∀ c, numbered c = true → c.toNat < 0x100
  breaks : ∀ c, numbered c = false → c ≠ '\n' ∧ c ≠ '\r' ∧ c.toNat ≠ 0

/-- A hexadecimal digit has its value, and it neither ends nor escapes anything. -/
theorem hexValue?_digitChar : ∀ d < 16, hexValue? (Nat.digitChar d) = some d ∧
    Nat.digitChar d ≠ '"' ∧ Nat.digitChar d ≠ '\\' ∧ Nat.digitChar d ≠ '\n' := by
  decide

theorem hexNumber?_hexDigits {n : Nat} (h : n < 0x100) : hexNumber? (hexDigits 2 n) = some n := by
  have hhigh : hexValue? (Nat.digitChar (n / 16 % 16)) = some (n / 16 % 16) :=
    (hexValue?_digitChar _ (Nat.mod_lt _ (by decide))).1
  have hlow : hexValue? (Nat.digitChar (n % 16)) = some (n % 16) :=
    (hexValue?_digitChar _ (Nat.mod_lt _ (by decide))).1
  calc hexNumber? (hexDigits 2 n) = some (16 * (n / 16 % 16) + n % 16) := by
        simp [hexNumber?, hexDigits, hhigh, hlow]
    _ = some n := by
        congr 1
        omega

/-- Two digits give the number of a character. -/
theorem exists_hexDigits {n : Nat} (h : n < 0x100) : ∃ a b, hexDigits 2 n = [a, b] ∧
    charOfHex? [a, b] = some (Char.ofNat n) ∧
    ∀ d ∈ [a, b], d ≠ '"' ∧ d ≠ '\\' ∧ d ≠ '\n' := by
  refine ⟨Nat.digitChar (n / 16 % 16), Nat.digitChar (n % 16), rfl, ?_, ?_⟩
  · have hnumber : hexNumber? [Nat.digitChar (n / 16 % 16), Nat.digitChar (n % 16)] = some n :=
      hexNumber?_hexDigits h
    have hsurrogate : ¬ (0xd800 ≤ n ∧ n < 0xe000) := by omega
    have hvalid : n.isValidChar := .inl (by omega)
    rw [charOfHex?, hnumber, Option.bind_some, charOfCode?, if_neg hsurrogate, charOfNat?,
      if_pos hvalid]
  · refine List.forall_mem_cons.mpr ⟨?_, List.forall_mem_singleton.mpr ?_⟩
    · exact (hexValue?_digitChar _ (Nat.mod_lt _ (by decide))).2
    · exact (hexValue?_digitChar _ (Nat.mod_lt _ (by decide))).2

section Escaped

variable {numbered : Char → Bool}

/-- A character given by number is written as a backslash, an `x` and two digits. -/
theorem Covers.exists_escapedChar (h : Covers numbered) {c : Char} (hquote : c ≠ '"')
    (hescape : c ≠ '\\') (hc : numbered c = true) :
    ∃ a b, escapedChar numbered c = ['\\', 'x', a, b] ∧ charOfHex? [a, b] = some c ∧
      ∀ d ∈ [a, b], d ≠ '"' ∧ d ≠ '\\' ∧ d ≠ '\n' := by
  have hshort := h.short c hc
  obtain ⟨a, b, hdigits, hchar, hplain⟩ := exists_hexDigits hshort
  rw [Char.ofNat_toNat] at hchar
  refine ⟨a, b, ?_, hchar, hplain⟩
  simp [escapedChar, numberedChar, hquote, hescape, hc, hshort, hdigits]

theorem escapedChar_of_plain {c : Char} (hquote : c ≠ '"') (hescape : c ≠ '\\')
    (hc : numbered c = false) : escapedChar numbered c = [c] := by
  simp [escapedChar, hquote, hescape, hc]

/-- Every character is read back. -/
theorem Covers.decodeInside_escapedChar (h : Covers numbered) (c : Char) (rest : List Char) :
    decodeInside (escapedChar numbered c ++ rest) = consChar? (some c) (decodeInside rest) := by
  by_cases hquote : c = '"'
  · subst hquote
    simp [escapedChar, decodeInside, decodeEscape, isLineBreak, octalValue?, simpleEscape?]
  by_cases hescape : c = '\\'
  · subst hescape
    simp [escapedChar, decodeInside, decodeEscape, isLineBreak, octalValue?, simpleEscape?]
  by_cases hnumbered : numbered c = true
  · obtain ⟨a, b, hchars, hchar, -⟩ := h.exists_escapedChar hquote hescape hnumbered
    simp [hchars, decodeInside, decodeEscape, isLineBreak, hchar]
  · have hplain : numbered c = false := by simpa using hnumbered
    obtain ⟨hbreak, hreturn, hzero⟩ := h.breaks c hplain
    simp [escapedChar_of_plain hquote hescape hplain, decodeInside, isLineBreak, hquote, hescape,
      hbreak, hreturn, hzero]

theorem Covers.decodeInside_escaped (h : Covers numbered) (cs : List Char) :
    decodeInside (cs.flatMap (escapedChar numbered) ++ ['"']) = some cs := by
  induction cs with
  | nil => simp [decodeInside, decodeBetween]
  | cons c cs ih =>
      rw [List.flatMap_cons, List.append_assoc, h.decodeInside_escapedChar, ih]
      rfl

/-- A text is what its literal denotes. -/
theorem Covers.decodeLiteral?_escapedLiteral (h : Covers numbered) (s : String) :
    decodeLiteral? (escapedLiteral numbered s) = some s := by
  have hgap : ('"' :: (s.toList.flatMap (escapedChar numbered) ++ ['"'])).dropWhile isGap =
      '"' :: (s.toList.flatMap (escapedChar numbered) ++ ['"']) := rfl
  simp only [decodeLiteral?, escapedLiteral, String.toList_ofList, hgap, h.decodeInside_escaped,
    Option.map_some, String.ofList_toList]

end Escaped

end Text

namespace Token

open LineBasic.Text (Covers escapedChar escapedLiteral)

variable {numbered : Char → Bool}

theorem literalLengthFrom_plain {c : Char} (hquote : c ≠ '"') (hescape : c ≠ '\\')
    (hbreak : c ≠ '\n') (n : Nat) (rest : List Char) :
    literalLengthFrom n false (c :: rest) = literalLengthFrom (n + 1) false rest := by
  have hflag : (c == '\\') = false := beq_eq_false_iff_ne.mpr hescape
  simp [literalLengthFrom, hquote, hbreak, hflag]

/-- A character is passed as a whole. -/
theorem literalLengthFrom_escapedChar (h : Covers numbered) (n : Nat) (c : Char)
    (rest : List Char) :
    literalLengthFrom n false (escapedChar numbered c ++ rest) =
      literalLengthFrom (n + (escapedChar numbered c).length) false rest := by
  by_cases hquote : c = '"'
  · subst hquote
    simp [escapedChar, literalLengthFrom]
  by_cases hescape : c = '\\'
  · subst hescape
    simp [escapedChar, literalLengthFrom]
  by_cases hnumbered : numbered c = true
  · obtain ⟨a, b, hchars, -, hplain⟩ := h.exists_escapedChar hquote hescape hnumbered
    obtain ⟨haquote, haescape, habreak⟩ := hplain a (by simp)
    obtain ⟨hbquote, hbescape, hbbreak⟩ := hplain b (by simp)
    have hescaped : literalLengthFrom n false ('\\' :: 'x' :: a :: b :: rest) =
        literalLengthFrom (n + 1 + 1) false (a :: b :: rest) := by
      simp [literalLengthFrom]
    rw [hchars]
    change literalLengthFrom n false ('\\' :: 'x' :: a :: b :: rest) = _
    rw [hescaped, literalLengthFrom_plain haquote haescape habreak,
      literalLengthFrom_plain hbquote hbescape hbbreak]
    rfl
  · have hplain : numbered c = false := by simpa using hnumbered
    obtain ⟨hbreak, -, -⟩ := h.breaks c hplain
    rw [Text.escapedChar_of_plain hquote hescape hplain]
    exact literalLengthFrom_plain hquote hescape hbreak n rest

theorem literalLengthFrom_escaped (h : Covers numbered) (n : Nat) (cs : List Char) :
    literalLengthFrom n false (cs.flatMap (escapedChar numbered) ++ ['"']) =
      n + (cs.flatMap (escapedChar numbered)).length + 1 := by
  induction cs generalizing n with
  | nil => simp [literalLengthFrom]
  | cons c cs ih =>
      rw [List.flatMap_cons, List.append_assoc, literalLengthFrom_escapedChar h, ih,
        List.length_append]
      omega

/-- A literal is one token. -/
theorem isToken_escapedLiteral (h : Covers numbered) (s : String) :
    IsToken literalLength (escapedLiteral numbered s) := by
  refine ⟨by simp [escapedLiteral], ?_⟩
  rw [escapedLiteral, String.toList_ofList, literalLength, literalLengthFrom_escaped h,
    List.length_cons, List.length_append, List.length_singleton]
  omega

end Token

end LineBasic

import LineBasic.Proofs.Grammar.Rendering
import Mathlib.Data.List.TakeWhile

/-!
# Margins

The blanks in front of a line and behind it make no difference to how it is read, as long as none of
them is a line break: neither to the line that comes out nor to the fault.
-/

namespace LineBasic

variable {before after cs : List Char}

theorem isDigit_of_isBlank {c : Char} (h : Text.isBlank c = true) : Text.isDigit c = false := by
  by_cases hdigit : Text.isDigit c = true
  · have hink := Token.isInk_of_isDigit hdigit
    rw [Token.isInk, h] at hink
    cases hink
  · simpa using hdigit

theorem trimLeft_eq_nil : Text.trimLeft cs = [] ↔ ∀ c ∈ cs, Text.isBlank c = true :=
  List.dropWhile_eq_nil_iff

theorem trimRight_blanks (hafter : ∀ c ∈ after, Text.isBlank c = true) :
    Text.trimRight after = [] := by
  rw [Text.trimRight, List.dropWhile_eq_nil_iff.mpr (by simpa using hafter), List.reverse_nil]

theorem trimLeft_blanks_append (hbefore : ∀ c ∈ before, Text.isBlank c = true) :
    Text.trimLeft (before ++ cs) = Text.trimLeft cs :=
  List.dropWhile_append_of_pos hbefore

theorem trim_append_blanks (hafter : ∀ c ∈ after, Text.isBlank c = true) :
    Text.trim (cs ++ after) = Text.trim cs := by
  rw [Text.trim, Text.trim, Text.trimLeft, List.dropWhile_append]
  split
  · next hnil =>
    have hleft : cs.dropWhile Text.isBlank = [] := List.isEmpty_iff.mp hnil
    rw [List.dropWhile_eq_nil_iff.mpr hafter, Text.trimLeft, hleft]
  · rw [trimRight_append_eq, if_pos (trimRight_blanks hafter), Text.trimLeft]

/-- A line without a line break is split behind its digits, and what follows them is trimmed. -/
theorem splitLine?_of_unbroken (h : '\n' ∉ cs) :
    splitLine? cs =
      if (Text.trimLeft cs).takeWhile Text.isDigit = [] then none
      else some ((Text.trimLeft cs).takeWhile Text.isDigit,
        Text.trim ((Text.trimLeft cs).dropWhile Text.isDigit)) := by
  have hrest : '\n' ∉ Text.trimLeft ((Text.trimLeft cs).dropWhile Text.isDigit) := by
    intro hmem
    refine h ((List.dropWhile_sublist Text.isBlank).subset ?_)
    exact (List.dropWhile_sublist Text.isDigit).subset
      ((List.dropWhile_sublist Text.isBlank).subset hmem)
  have hbody : (Text.trimLeft ((Text.trimLeft cs).dropWhile Text.isDigit)).takeWhile (· != '\n') =
      Text.trimLeft ((Text.trimLeft cs).dropWhile Text.isDigit) :=
    List.takeWhile_eq_self_iff.mpr fun c hc => bne_iff_ne.mpr fun hbreak => hrest (hbreak ▸ hc)
  simp only [splitLine?, hbody, List.drop_length, Text.trim]
  cases (Text.trimLeft cs).takeWhile Text.isDigit with
  | nil => rfl
  | cons d digits => rfl

/-- What stands in front decides where a run ends, if what follows does not prolong it. -/
theorem run_append (cs : List Char) {p : Char → Bool} (h : ∀ c ∈ after.head?, p c = false) :
    (cs ++ after).takeWhile p = cs.takeWhile p ∧
      (cs ++ after).dropWhile p = cs.dropWhile p ++ after := by
  have hle := Token.countWhile_le p cs
  rw [← Token.take_countWhile, ← Token.drop_countWhile, Token.countWhile_append_of_head h,
    List.take_append_of_le_length hle, List.drop_append_of_le_length hle, Token.take_countWhile,
    Token.drop_countWhile]
  exact ⟨rfl, rfl⟩

theorem splitLine?_append_blanks (hcs : '\n' ∉ cs) (hbreak : '\n' ∉ after)
    (hafter : ∀ c ∈ after, Text.isBlank c = true) : splitLine? (cs ++ after) = splitLine? cs := by
  have hboth : '\n' ∉ cs ++ after := by simp [hcs, hbreak]
  rw [splitLine?_of_unbroken hboth, splitLine?_of_unbroken hcs]
  by_cases hblank : Text.trimLeft cs = []
  · have hnil : Text.trimLeft (cs ++ after) = [] := by
      rw [trimLeft_blanks_append (trimLeft_eq_nil.mp hblank)]
      exact trimLeft_eq_nil.mpr hafter
    rw [hblank, hnil]
  · have hleft : Text.trimLeft (cs ++ after) = Text.trimLeft cs ++ after := by
      rw [Text.trimLeft, List.dropWhile_append, if_neg (by simpa [Text.trimLeft] using hblank)]
      rfl
    have hhead : ∀ c ∈ after.head?, Text.isDigit c = false :=
      fun c hc => isDigit_of_isBlank (hafter c (List.mem_of_mem_head? hc))
    obtain ⟨htake, hdrop⟩ := run_append (Text.trimLeft cs) hhead
    rw [hleft, htake, hdrop, trim_append_blanks hafter]

theorem splitLine?_blanks_append (hbefore : ∀ c ∈ before, Text.isBlank c = true) :
    splitLine? (before ++ cs) = splitLine? cs := by
  rw [splitLine?, trimLeft_blanks_append hbefore]
  rfl

/-- Blanks at both ends of a line make no difference to how it is read. -/
theorem parseLine_margins (hcs : '\n' ∉ cs) (hbreak : '\n' ∉ after)
    (hbefore : ∀ c ∈ before, Text.isBlank c = true)
    (hafter : ∀ c ∈ after, Text.isBlank c = true) :
    parseLine (String.ofList (before ++ (cs ++ after))) = parseLine (String.ofList cs) := by
  have htrim : Text.trim (before ++ (cs ++ after)) = Text.trim cs := by
    rw [Text.trim, trimLeft_blanks_append hbefore]
    exact trim_append_blanks hafter
  simp only [parseLine, Text.trimText, String.toList_ofList, splitLine?_blanks_append hbefore,
    splitLine?_append_blanks hcs hbreak hafter, htrim]

/-- A line of blanks has no number. -/
theorem parseLine_blanks (h : ∀ c ∈ cs, Text.isBlank c = true) (line : Line) :
    parseLine (String.ofList cs) ≠ .ok line := by
  have hsplit : splitLine? cs = none := by
    rw [splitLine?, trimLeft_eq_nil.mpr h]
    rfl
  simp [parseLine, hsplit]

end LineBasic

import LineBasic.Proofs.Program.Layout

/-!
# Source texts in another order

A source text is cut at its line breaks into rows. What is loaded from it is what its rows come to
without the blanks at their ends, and rows of blanks are nothing (`load_eq_mapM`). When that is a
program, rows in another order come to the same program (`load_of_perm`).
-/

namespace LineBasic

/-! ## Lines without their margins -/

theorem exists_margins (cs : List Char) :
    ∃ before after, cs = before ++ (Text.trim cs ++ after) ∧
      (∀ c ∈ before, Text.isBlank c = true) ∧ ∀ c ∈ after, Text.isBlank c = true := by
  refine ⟨cs.takeWhile Text.isBlank, ((Text.trimLeft cs).reverse.takeWhile Text.isBlank).reverse,
    ?_, fun c hc => List.mem_takeWhile_imp hc, fun c hc =>
      List.mem_takeWhile_imp (List.mem_reverse.mp hc)⟩
  have hright : Text.trimLeft cs =
      Text.trim cs ++ ((Text.trimLeft cs).reverse.takeWhile Text.isBlank).reverse := by
    rw [Text.trim, Text.trimRight, ← List.reverse_append, List.takeWhile_append_dropWhile,
      List.reverse_reverse]
  rw [← hright, Text.trimLeft, List.takeWhile_append_dropWhile]

theorem trim_eq_nil {cs : List Char} :
    Text.trim cs = [] ↔ ∀ c ∈ cs, Text.isBlank c = true := by
  constructor
  · intro hnil c hc
    obtain ⟨before, after, hcs, hbefore, hafter⟩ := exists_margins cs
    rw [hnil, List.nil_append] at hcs
    rw [hcs] at hc
    exact (List.mem_append.mp hc).elim (hbefore c) (hafter c)
  · intro hblank
    rw [Text.trim, trimLeft_eq_nil.mpr hblank]
    rfl

/-- A line is read as what stands between its margins. -/
theorem parseLine_trim {cs : List Char} (h : '\n' ∉ cs) :
    parseLine (String.ofList (Text.trim cs)) = parseLine (String.ofList cs) := by
  obtain ⟨before, after, hcs, hbefore, hafter⟩ := exists_margins cs
  have hbreaks : '\n' ∉ before ++ (Text.trim cs ++ after) := hcs ▸ h
  simp only [List.mem_append, not_or] at hbreaks
  rw [← parseLine_margins hbreaks.2.1 hbreaks.2.2 hbefore hafter, ← hcs]

namespace Program

/-! ## The rows of a source text -/

/-- What the rows of a source text show: what stands between its line breaks, without the blanks at
the ends. Rows of blanks show nothing. -/
def shownTexts (source : String) : List String :=
  ((source.toList.splitOn '\n').map fun row => String.ofList (Text.trim row)).filter (· ≠ "")

/-- A line is cut from a row: carriage returns at the end of the row may be missing. -/
def CutFrom (line row : List Char) : Prop :=
  '\n' ∉ line ∧ ∃ returns, row = line ++ returns ∧ ∀ c ∈ returns, c = '\r'

theorem CutFrom.cons {c : Char} {line row : List Char} (h : CutFrom line row) (hc : c ≠ '\n') :
    CutFrom (c :: line) (c :: row) := by
  obtain ⟨hbreak, returns, hrow, hreturns⟩ := h
  exact ⟨by simp [hbreak, hc.symm], returns, by rw [hrow]; rfl, hreturns⟩

theorem CutFrom.trim_eq {line row : List Char} (h : CutFrom line row) :
    Text.trim row = Text.trim line := by
  obtain ⟨-, returns, rfl, hreturns⟩ := h
  exact trim_append_blanks (Row.blank_of_returns hreturns).1

/-- The lines of a source text are cut from its rows. -/
theorem splitLines_cutFrom (cs : List Char) :
    List.Forall₂ CutFrom (splitLines cs) (cs.splitOn '\n') := by
  fun_induction splitLines cs with
  | case1 => exact .cons ⟨by simp, [], rfl, by simp⟩ .nil
  | case2 rest ih =>
      have hbreak : '\n' ∉ ['\r'] := by decide
      have hrows : ('\r' :: '\n' :: rest).splitOn '\n' = ['\r'] :: rest.splitOn '\n' :=
        List.splitOn_append_cons_self_of_not_mem hbreak rest
      rw [hrows]
      exact .cons ⟨by simp, ['\r'], rfl, by simp⟩ ih
  | case3 rest ih =>
      rw [List.splitOn_cons_eq_if_modifyHead, if_pos (beq_self_eq_true _)]
      exact .cons ⟨by simp, [], rfl, by simp⟩ ih
  | case4 c rest hreturn hbreak hnone ih =>
      rw [hnone, List.forall₂_nil_left_iff] at ih
      exact absurd ih (List.splitOn_ne_nil _ _)
  | case5 c rest hreturn hbreak line others hlines ih =>
      rw [hlines] at ih
      obtain ⟨row, rows, hline, hothers, hrows⟩ := List.forall₂_cons_left_iff.mp ih
      rw [List.splitOn_cons_eq_if_modifyHead, if_neg (by simpa using hbreak), hrows]
      exact .cons (hline.cons hbreak) hothers

/-! ## Loading -/

/-- The lines that are read from the lines of a source text are those read from what its rows
show. -/
theorem readLines_cutFrom {lines rows : List (List Char)} (h : List.Forall₂ CutFrom lines rows) :
    readLines lines =
      ((rows.map fun row => String.ofList (Text.trim row)).filter (· ≠ "")).mapM parseLine := by
  induction h with
  | nil => rfl
  | @cons line row lines rows hline hlines ih =>
      have hblank : isBlankLine (String.ofList line) = true ↔ Text.trim row = [] := by
        rw [isBlankLine, String.toList_ofList, List.all_eq_true, hline.trim_eq, trim_eq_nil]
      rw [readLines] at ih ⊢
      rw [List.map_cons, List.map_cons]
      by_cases hnil : Text.trim row = []
      · rw [List.filter_cons_of_neg (by simpa using hblank.mpr hnil),
          List.filter_cons_of_neg (by simp [hnil]), ih]
      · have hread : parseLine (String.ofList line) =
            parseLine (String.ofList (Text.trim row)) := by
          rw [hline.trim_eq, parseLine_trim hline.1]
        rw [List.filter_cons_of_pos (by simpa using mt hblank.mp hnil),
          List.filter_cons_of_pos (by simpa using hnil), List.mapM_cons, List.mapM_cons, hread, ih]

theorem load_eq_mapM (source : String) :
    load source = ((shownTexts source).mapM parseLine).bind ofLines := by
  rw [load_eq, readLines_cutFrom (splitLines_cutFrom _)]
  rfl

/-- A program does not depend on the order of the rows that it is loaded from, nor on the blanks at
their ends or the rows of blanks between them. -/
theorem load_of_perm {source source' : String} {p : Program}
    (h : (shownTexts source').Perm (shownTexts source)) (hp : load source = .ok p) :
    load source' = .ok p := by
  rw [load_eq_mapM] at hp ⊢
  obtain ⟨lines, hlines, hp⟩ := bind_eq_ok.mp hp
  obtain ⟨lines', hlines', hperm⟩ := mapM_perm h hlines
  exact bind_eq_ok.mpr ⟨lines', hlines', (ofLines_perm hperm).trans hp⟩

end Program

end LineBasic

import LineBasic.Proofs.Computation
import LineBasic.Proofs.Grammar.Margins
import LineBasic.Proofs.Program.Ordering
import Mathlib.Data.List.Perm.Basic

/-!
# Layouts of a program

A source text shows texts in rows: at most one in a row, with blanks around it, and every row but
the last ends in a line break, with or without a carriage return. What a program is loaded from it
depends on the texts alone, and not on their order either (`load_layout`).
-/

namespace LineBasic

namespace Program

inductive RowEnd
  | feed
  | returnFeed

def RowEnd.chars : RowEnd → List Char
  | .feed => ['\n']
  | .returnFeed => ['\r', '\n']

/-- A row of a source text: blanks, with a text between them or without. -/
structure Row where
  before : List Char
  text : Option String
  after : List Char
  blank : ∀ c ∈ before ++ after, Text.isBlank c = true
  unbroken : '\n' ∉ before ++ after

def Row.chars (row : Row) : List Char :=
  row.before ++ ((row.text.map String.toList).getD [] ++ row.after)

/-- The rows of a source text. The last one has no end, and may be empty. -/
structure Layout where
  rows : List (Row × RowEnd)
  last : Row

namespace Layout

def source (layout : Layout) : String :=
  String.ofList (layout.rows.flatMap (fun row => row.1.chars ++ row.2.chars) ++ layout.last.chars)

/-- The texts that a layout shows, from the first row to the last. -/
def texts (layout : Layout) : List String :=
  (layout.rows.map Prod.fst ++ [layout.last]).filterMap Row.text

end Layout

/-! ## Cutting a source text at its line breaks -/

variable {cs rest : List Char}

theorem splitLines_unbroken (h : '\n' ∉ cs) : splitLines cs = [cs] := by
  induction cs with
  | nil => rfl
  | cons c cs ih =>
      have htail : '\n' ∉ cs := fun hmem => h (List.mem_cons_of_mem c hmem)
      have hc : c ≠ '\n' := fun hsame => h (hsame ▸ List.mem_cons_self)
      rw [splitLines, ih htail]
      · intro rest _ hcs
        exact htail (by simp [hcs])
      · exact hc

/-- A line break ends a line, together with a carriage return in front of it. -/
theorem exists_splitLines (h : '\n' ∉ cs) (rest : List Char) :
    ∃ line returns, cs = line ++ returns ∧ (∀ c ∈ returns, c = '\r') ∧
      splitLines (cs ++ '\n' :: rest) = line :: splitLines rest := by
  induction cs with
  | nil => exact ⟨[], [], rfl, by simp, by simp [splitLines]⟩
  | cons c cs ih =>
      have htail : '\n' ∉ cs := fun hmem => h (List.mem_cons_of_mem c hmem)
      have hc : c ≠ '\n' := fun hsame => h (hsame ▸ List.mem_cons_self)
      by_cases hreturn : c = '\r' ∧ cs = []
      · obtain ⟨rfl, rfl⟩ := hreturn
        exact ⟨[], ['\r'], rfl, by simp, by simp [splitLines]⟩
      · obtain ⟨line, returns, hcs, hreturns, hsplit⟩ := ih htail
        refine ⟨c :: line, returns, by rw [hcs]; rfl, hreturns, ?_⟩
        rw [List.cons_append, splitLines, hsplit]
        · intro rest' hc' hrest
          cases cs with
          | nil => exact hreturn ⟨hc', rfl⟩
          | cons d cs =>
              obtain ⟨rfl, -⟩ := List.cons.inj hrest
              exact htail List.mem_cons_self
        · exact hc

/-! ## The lines of a layout -/

namespace Row

variable {row : Row}

/-- What the line that a row comes to has to do: without a text it is blank, with one it is read as
the text. -/
def Shows (row : Row) (line : List Char) : Prop :=
  match row.text with
  | none => ∀ c ∈ line, Text.isBlank c = true
  | some text => parseLine (String.ofList line) = parseLine text

theorem break_not_mem (row : Row) (h : ∀ text, row.text = some text → '\n' ∉ text.toList) :
    '\n' ∉ row.chars := by
  intro hmem
  have hunbroken := row.unbroken
  rw [List.mem_append] at hunbroken
  rcases List.mem_append.mp hmem with hmem | hmem
  · exact hunbroken (.inl hmem)
  · rcases List.mem_append.mp hmem with hmem | hmem
    · cases htext : row.text with
      | none =>
          rw [htext] at hmem
          cases hmem
      | some text =>
          rw [htext] at hmem
          exact h text htext hmem
    · exact hunbroken (.inr hmem)

theorem blank_of_returns {returns : List Char} (h : ∀ c ∈ returns, c = '\r') :
    (∀ c ∈ returns, Text.isBlank c = true) ∧ '\n' ∉ returns := by
  refine ⟨fun c hc => ?_, fun hmem => absurd (h _ hmem) (by decide)⟩
  rw [h c hc]
  decide

/-- A line that has the characters of a row shows its text, however many carriage returns are put
behind the row or left out at the end of the line. -/
theorem shows_of_returns {line returns more : List Char}
    (h : ∀ text, row.text = some text → '\n' ∉ text.toList)
    (hline : row.chars ++ more = line ++ returns) (hreturns : ∀ c ∈ returns, c = '\r')
    (hmore : ∀ c ∈ more, c = '\r') : row.Shows line := by
  obtain ⟨hreturns, hreturns'⟩ := blank_of_returns hreturns
  obtain ⟨hmore, hmore'⟩ := blank_of_returns hmore
  have hblank := row.blank
  have hunbroken := row.unbroken
  simp only [List.mem_append] at hblank hunbroken
  have hbreak : '\n' ∉ line := by
    intro hmem
    have hboth : '\n' ∈ row.chars ++ more := hline ▸ List.mem_append_left _ hmem
    rcases List.mem_append.mp hboth with hboth | hboth
    · exact row.break_not_mem h hboth
    · exact hmore' hboth
  cases htext : row.text with
  | none =>
      simp only [Shows, htext]
      intro c hc
      have hboth : c ∈ row.chars ++ more := hline ▸ List.mem_append_left _ hc
      simp only [chars, htext, Option.map_none, Option.getD_none, List.nil_append,
        List.mem_append] at hboth
      rcases hboth with (hc | hc) | hc
      · exact hblank c (.inl hc)
      · exact hblank c (.inr hc)
      · exact hmore c hc
  | some text =>
      have hchars : line ++ returns = row.before ++ (text.toList ++ (row.after ++ more)) := by
        rw [← hline]
        simp [chars, htext]
      have hafter : ∀ c ∈ row.after ++ more, Text.isBlank c = true := by
        intro c hc
        rcases List.mem_append.mp hc with hc | hc
        · exact hblank c (.inr hc)
        · exact hmore c hc
      have hafter' : '\n' ∉ row.after ++ more := by
        intro hmem
        rcases List.mem_append.mp hmem with hmem | hmem
        · exact hunbroken (.inr hmem)
        · exact hmore' hmem
      simp only [Shows, htext]
      calc parseLine (String.ofList line) = parseLine (String.ofList (line ++ returns)) :=
            (parseLine_margins hbreak hreturns' (List.forall_mem_nil _) hreturns).symm
        _ = parseLine (String.ofList text.toList) := by
            rw [hchars]
            exact parseLine_margins (h text htext) hafter' (fun c hc => hblank c (.inl hc)) hafter
        _ = parseLine text := by rw [String.ofList_toList]

/-- A row with its end comes to a line that shows its text. -/
theorem exists_line (h : ∀ text, row.text = some text → '\n' ∉ text.toList) (e : RowEnd)
    (rest : List Char) :
    ∃ line, row.Shows line ∧
      splitLines (row.chars ++ e.chars ++ rest) = line :: splitLines rest := by
  have hbreak := row.break_not_mem h
  cases e with
  | feed =>
      obtain ⟨line, returns, hline, hreturns, hsplit⟩ := exists_splitLines hbreak rest
      refine ⟨line, shows_of_returns h ?_ hreturns (List.forall_mem_nil _), ?_⟩
      · rw [List.append_nil, hline]
      · rw [← hsplit, RowEnd.chars, List.append_assoc]
        rfl
  | returnFeed =>
      have hbreak' : '\n' ∉ row.chars ++ ['\r'] := by simp [hbreak]
      obtain ⟨line, returns, hline, hreturns, hsplit⟩ := exists_splitLines hbreak' rest
      refine ⟨line, shows_of_returns h hline hreturns (by simp), ?_⟩
      rw [← hsplit, RowEnd.chars]
      simp

/-- The last row comes to a line that shows its text. -/
theorem exists_last (h : ∀ text, row.text = some text → '\n' ∉ text.toList) :
    ∃ line, row.Shows line ∧ splitLines row.chars = [line] := by
  refine ⟨row.chars, ?_, splitLines_unbroken (row.break_not_mem h)⟩
  exact shows_of_returns h rfl (List.forall_mem_nil _) (List.forall_mem_nil _)

end Row

/-! ## Loading a layout -/

/-- The lines that are read from lines of characters, blank ones left out. -/
def readLines (lines : List (List Char)) : Except Fault (List Line) :=
  ((lines.map String.ofList).filter (!isBlankLine ·)).mapM parseLine

theorem load_eq (source : String) :
    load source = (readLines (splitLines source.toList)).bind ofLines := rfl

/-- A row without a text is left out, and in a row with one the text is read. -/
theorem readLines_cons {row : Row} {line : List Char} (h : row.Shows line)
    (hread : ∀ text, row.text = some text → ∃ l, parseLine text = .ok l)
    (lines : List (List Char)) :
    readLines (line :: lines) =
      match row.text with
      | none => readLines lines
      | some text => do return (← parseLine text) :: (← readLines lines) := by
  cases htext : row.text with
  | none =>
      simp only [Row.Shows, htext] at h
      have hblank : isBlankLine (String.ofList line) = true := by
        rw [isBlankLine, String.toList_ofList]
        exact List.all_eq_true.mpr h
      simp [readLines, hblank]
  | some text =>
      simp only [Row.Shows, htext] at h
      obtain ⟨l, hl⟩ := hread text htext
      have hblank : isBlankLine (String.ofList line) = false := by
        rw [isBlankLine, String.toList_ofList, ← Bool.not_eq_true]
        intro hall
        exact parseLine_blanks (List.all_eq_true.mp hall) l (h.trans hl)
      simp [readLines, hblank, h]

theorem readLines_rows {rows : List (Row × RowEnd)} {last : Row}
    (h : ∀ text ∈ (rows.map Prod.fst ++ [last]).filterMap Row.text,
      '\n' ∉ text.toList ∧ ∃ l, parseLine text = .ok l) :
    readLines (splitLines (rows.flatMap (fun row => row.1.chars ++ row.2.chars) ++ last.chars)) =
      ((rows.map Prod.fst ++ [last]).filterMap Row.text).mapM parseLine := by
  induction rows with
  | nil =>
      have hlast : ∀ text, last.text = some text →
          '\n' ∉ text.toList ∧ ∃ l, parseLine text = .ok l :=
        fun text htext => h text (by simp [htext])
      obtain ⟨line, hshows, hsplit⟩ := Row.exists_last fun text htext => (hlast text htext).1
      rw [List.flatMap_nil, List.nil_append, hsplit,
        readLines_cons hshows fun text htext => (hlast text htext).2]
      cases htext : last.text with
      | none => simp [readLines, htext]
      | some text => simp [readLines, htext]
  | cons row rows ih =>
      obtain ⟨row, rowEnd⟩ := row
      have hrow : ∀ text, row.text = some text →
          '\n' ∉ text.toList ∧ ∃ l, parseLine text = .ok l :=
        fun text htext => h text (by simp [htext])
      have hrows := ih fun text hmem => h text (by
        simp only [List.map_cons, List.cons_append, List.filterMap_cons]
        split
        · exact hmem
        · exact List.mem_cons_of_mem _ hmem)
      obtain ⟨line, hshows, hsplit⟩ :=
        Row.exists_line (fun text htext => (hrow text htext).1) rowEnd
          (rows.flatMap (fun row => row.1.chars ++ row.2.chars) ++ last.chars)
      rw [List.flatMap_cons, List.append_assoc, hsplit,
        readLines_cons hshows fun text htext => (hrow text htext).2, hrows]
      cases htext : row.text with
      | none => simp [htext]
      | some text => simp [htext]

/-- Texts in another order are read as the same lines in another order. -/
theorem mapM_perm {texts texts' : List String} {lines : List Line} (h : texts'.Perm texts)
    (hlines : texts.mapM parseLine = .ok lines) :
    ∃ lines', texts'.mapM parseLine = .ok lines' ∧ lines'.Perm lines := by
  obtain ⟨lines', hread, hperm⟩ := List.perm_comp_forall₂ h (mapM_eq_ok.mp hlines)
  exact ⟨lines', mapM_eq_ok.mpr hread, hperm⟩

/-- How a source text is laid out makes no difference. Whatever the order of the rows, the blank
rows between them, the blanks around the texts and the ends of the rows, what is loaded is what the
lines read from the texts come to: the program that has these lines, in ascending order, when their
numbers are distinct, and otherwise a fault that names the least number that occurs twice. -/
theorem load_layout {texts : List String} {lines : List Line}
    (hbreaks : ∀ text ∈ texts, '\n' ∉ text.toList) (hlines : texts.mapM parseLine = .ok lines)
    (layout : Layout) (htexts : layout.texts.Perm texts) :
    load layout.source = ofLines lines ∧
      ((numbers lines).Nodup → ∃ p, ofLines lines = .ok p ∧ p.lines.Perm lines ∧
        p.lines.Pairwise fun a b => a.number < b.number) ∧
      (¬ (numbers lines).Nodup → ∃ n, LeastRepeated n (numbers lines) ∧
        ofLines lines = .error (.parse (.repeatedLine n) (some n))) := by
  obtain ⟨lines', hlines', hperm⟩ := mapM_perm htexts hlines
  have hload : load layout.source = ofLines lines := by
    have hread : readLines (splitLines layout.source.toList) = .ok lines' := by
      rw [Layout.source, String.toList_ofList, readLines_rows, ← hlines']
      · rfl
      · exact fun text hmem =>
          ⟨hbreaks text (htexts.subset hmem), ok_of_mapM hlines' text hmem⟩
    rw [load_eq, hread]
    exact ofLines_perm hperm
  refine ⟨hload, fun hnodup => ?_, ofLines_of_not_nodup⟩
  obtain ⟨p, hp, hsame⟩ := ofLines_of_nodup hnodup
  exact ⟨p, hp, hsame, p.ascending⟩

/-- A layout in descending order, with blanks and a carriage return around the first text, and with
a row that holds a no-break space. -/
def mixedLayout : Layout where
  rows := [({ before := ['\t'], text := some "20 END", after := [' ', '\r'],
              blank := List.all_eq_true.mp rfl, unbroken := by decide }, .feed),
    ({ before := ['\u00a0'], text := none, after := [], blank := List.all_eq_true.mp rfl,
       unbroken := by decide }, .returnFeed)]
  last := { before := [], text := some "10 CLS", after := [], blank := List.all_eq_true.mp rfl,
            unbroken := by decide }

theorem load_layout_mixed :
    mixedLayout.source = "\t20 END \r\n\u00a0\r\n10 CLS" ∧
      (∀ text ∈ ["10 CLS", "20 END"], '\n' ∉ text.toList) ∧
      ∃ p, load mixedLayout.source = .ok p ∧
        p.lines = [{ number := 10, instruction := .command .clearAll },
          { number := 20, instruction := .command .halt }] := by
  have hbreaks : ∀ text ∈ ["10 CLS", "20 END"], '\n' ∉ text.toList := by decide
  have hlines : ["10 CLS", "20 END"].mapM parseLine =
      .ok [{ number := 10, instruction := .command .clearAll },
        { number := 20, instruction := .command .halt }] := by
    with_unfolding_all rfl
  have htexts : mixedLayout.texts.Perm ["10 CLS", "20 END"] := .swap _ _ _
  obtain ⟨hload, -, -⟩ := load_layout hbreaks hlines mixedLayout htexts
  refine ⟨rfl, hbreaks, _, hload.trans (ofLines_of_ascending (by decide)), rfl⟩

end Program

end LineBasic

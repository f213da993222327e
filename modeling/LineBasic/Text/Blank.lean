import LineBasic.Text.Runs

/-!
# Blank characters

The characters that separate a line number from its statement and that are trimmed from both ends of
a line, a remark or a reply. Inside a statement only the space and the tab separate tokens; that
narrower class is `isGap`.
-/

namespace LineBasic.Text

/-- Code points at which the class of blank characters changes. -/
def blankBounds : List Nat :=
  [
   0x9, 0xe, 0x1c, 0x21, 0x85, 0x86, 0xa0, 0xa1, 0x1680, 0x1681, 0x2000, 0x200b, 0x2028,
   0x202a, 0x202f, 0x2030, 0x205f, 0x2060, 0x3000, 0x3001]

/-- Spaces, tabs, line breaks, separators and the other characters that only make room. -/
def isBlank (c : Char) : Bool := inRuns blankBounds c

/-- The blanks that may stand between two tokens of a statement: space and tab. -/
def isGap (c : Char) : Bool := c == ' ' || c == '\t'

def trimLeft (cs : List Char) : List Char := cs.dropWhile isBlank

def trimRight (cs : List Char) : List Char := (cs.reverse.dropWhile isBlank).reverse

/-- The characters without the blanks at either end. -/
def trim (cs : List Char) : List Char := trimRight (trimLeft cs)

def trimText (s : String) : String := String.ofList (trim s.toList)

/-- A gap is a blank, so trimming also removes gaps. -/
theorem isBlank_of_isGap {c : Char} (h : isGap c = true) : isBlank c = true := by
  simp only [isGap, Bool.or_eq_true, beq_iff_eq] at h
  rcases h with rfl | rfl <;> decide

end LineBasic.Text

/-!
# Parts of a text

Positions count from zero. A negative position counts from the end, and a position outside the text
is moved to the nearer end.
-/

namespace LineBasic.Text

/-- A position brought between the start and the end of a text of the given length. -/
def clampPosition (length : Nat) (i : Int) : Nat :=
  if i < 0 then (i + length).toNat else min i.toNat length

/-- The characters from position `start` to before position `stop`. -/
def slice (cs : List Char) (start stop : Int) : List Char :=
  (cs.take (clampPosition cs.length stop)).drop (clampPosition cs.length start)

def sliceFrom (cs : List Char) (start : Int) : List Char :=
  cs.drop (clampPosition cs.length start)

def sliceTo (cs : List Char) (stop : Int) : List Char :=
  cs.take (clampPosition cs.length stop)

/-- What stands before a position and what stands from it on make up the whole text. -/
theorem sliceTo_append_sliceFrom (cs : List Char) (i : Int) :
    sliceTo cs i ++ sliceFrom cs i = cs := by
  simp [sliceTo, sliceFrom]

end LineBasic.Text

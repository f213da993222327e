/-!
# Classes of characters given by runs

A class of characters is written as the ascending list of the code points at which membership
changes: the first entry opens a run, the second closes it (and is itself outside), the third opens
the next one. A character belongs to the class when an odd number of entries are at most its code
point.
-/

namespace LineBasic.Text

/-- Membership in the class whose runs change at `bounds`. -/
def inRuns (bounds : List Nat) (c : Char) : Bool :=
  bounds.foldl (fun inside b => inside != decide (b ≤ c.toNat)) false

end LineBasic.Text

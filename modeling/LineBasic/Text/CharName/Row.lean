/-!
# Rows of names

The names of characters are listed in rows. Neighbouring characters often have names that start with
the same words, which a row holds only once.
-/

namespace LineBasic.Text

/-- The names of characters with consecutive code points. -/
structure NameRow where
  /-- The first code point. -/
  first : Nat
  /-- What all the names start with. -/
  stem : String
  /-- What follows in each name: several to a text, separated by semicolons. -/
  endings : List String

namespace NameRow

/-- The code point of the character that a row lists under a name. -/
def find? (row : NameRow) (name : List Char) : Option Nat :=
  let stem := row.stem.toList
  if stem.isPrefixOf name then
    let ending := String.ofList (name.drop stem.length)
    ((row.endings.flatMap (·.splitOn ";")).findIdx? (· == ending)).map (row.first + ·)
  else none

end NameRow

end LineBasic.Text

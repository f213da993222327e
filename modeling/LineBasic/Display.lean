import LineBasic.Value.Arithmetic

/-!
# The display

A grid of coloured points and a queue of keys that were pressed. Points outside the nominal size are
kept all the same.
-/

namespace LineBasic

/-- Points by their coordinates, and keys not yet read. -/
structure Display where
  width : Int := 50
  height : Int := 50
  pixels : Table (Int × Int) Value := .empty
  keys : List String := []

namespace Display

def point (x y : Value) : Except Fault (Int × Int) := do
  let x ← x.toInt
  let y ← y.toInt
  return (x, y)

def plot (d : Display) (x y color : Value) : Except Fault Display := do
  return { d with pixels := d.pixels.insert (← point x y) color }

/-- The colour of a point, zero when it was never coloured. -/
def color (d : Display) (x y : Value) : Except Fault Value := do
  return (d.pixels.get? (← point x y)).getD (.int 0)

def clear (d : Display) : Display := { d with pixels := .empty }

def press (d : Display) (key : String) : Display := { d with keys := d.keys ++ [key] }

/-- The oldest key not yet read, an empty text when there is none, and the display without it. -/
def readKey (d : Display) : String × Display :=
  match d.keys with
  | [] => ("", d)
  | key :: rest => (key, { d with keys := rest })

end Display

end LineBasic

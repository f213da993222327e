import LineBasic.Text.Quoted
import LineBasic.Value.Text

/-!
# Values between marks

In the quoted form of a value a text stands between quotation marks and an array shows its
subscripts with its elements. An array that stands inside itself is shown there as three dots, so
that every value has a quoted form, but for the limit on the digits of an integer.
-/

namespace LineBasic

/-- The quoted form of a value that stands inside the arrays `above`, through chains of at most
`depth` arrays. -/
def Heap.quotedWithin (h : Heap) : Nat → List Nat → Value → Except Fault String
  | _, _, .text s => .ok (Text.quoted s)
  | 0, _, .array _ => .ok "\x7b...\x7d"
  | depth + 1, above, .array r =>
    if above.contains r then .ok "\x7b...\x7d"
    else do
      let shown ← (h.cells r).entries.mapM fun (key, v) => do
        let key ← h.quotedWithin depth (r :: above) key
        let v ← h.quotedWithin depth (r :: above) v
        return key ++ ": " ++ v
      return "\x7b" ++ String.intercalate ", " shown ++ "\x7d"
  | _, _, v => h.plainText v

/-- A chain of arrays longer than the store passes some array twice, and ends there. -/
def Heap.quotedText (h : Heap) (v : Value) : Except Fault String :=
  h.quotedWithin h.arrays.size [] v

end LineBasic

import LineBasic.Value.Basic

/-!
# Values as text

There are two texts of a value. `plainText` tells a floating-point number from an integer and spells
truth values out; it is what the text functions work on. `displayText` is what `PRINT` shows:
numbers without fraction look like integers, and truth values like the numbers they count as. An
array shows its elements one after another.

The elements of an array may be arrays in turn. In a store of `n` arrays, a chain of more than `n`
arrays each holding the next one passes some array twice, so the text has no end.
-/

namespace LineBasic

/-- The text that `PRINT` shows of a number. -/
def Number.displayText : Number → Except Fault String
  | .real x =>
    match Binary.toInt? x with
    | some n => Number.text (.int n)
    | none => Number.text (.real x)
  | x => x.text

/-- The texts of all elements, the fault of the first that has none. -/
def joinTexts (render : Value → Except Fault String) (values : List Value) :
    Except Fault String := do
  return String.intercalate ", " (← values.mapM render)

/-- The text that `PRINT` shows of a value, through chains of at most `depth` arrays. -/
def Heap.displayWithin (h : Heap) : Nat → Value → Except Fault String
  | _, .number x => x.displayText
  | _, .text s => .ok s
  | _, .truth b => .ok (if b then "-1" else "0")
  | _, .nothing => .ok "None"
  | 0, .array _ => .error .endless
  | depth + 1, .array r => joinTexts (h.displayWithin depth) (h.cells r).values

def Heap.displayText (h : Heap) (v : Value) : Except Fault String :=
  h.displayWithin h.arrays.size v

@[simp] theorem Heap.displayText_number (h : Heap) (x : Number) :
    h.displayText (.number x) = x.displayText := by
  rw [displayText]
  cases h.arrays.size <;> rfl

@[simp] theorem Heap.displayText_text (h : Heap) (s : String) :
    h.displayText (.text s) = .ok s := by
  rw [displayText]
  cases h.arrays.size <;> rfl

/-- The text of a value that the text functions work on. -/
def Heap.plainText (h : Heap) : Value → Except Fault String
  | .number x => x.text
  | .truth b => .ok (if b then "True" else "False")
  | v => h.displayText v

end LineBasic

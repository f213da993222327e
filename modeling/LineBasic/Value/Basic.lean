import LineBasic.Number.Order
import LineBasic.Table

/-!
# Values and arrays

A value is a number, a text, a truth value, nothing at all, or a reference to an array. Arrays live
in a store and are shared: two variables may refer to the same array, and an array may hold
references to arrays, even to itself.
-/

namespace LineBasic

/-- What a variable, an element of an array or an expression can be. -/
inductive Value where
  | number (x : Number)
  | text (s : String)
  | truth (b : Bool)
  | nothing
  | array (ref : Nat)

namespace Value

@[match_pattern] abbrev int (n : Int) : Value := .number (.int n)

@[match_pattern] abbrev real (x : Float) : Value := .number (.real x)

instance : Inhabited Value := ⟨int 0⟩

/-- The number that a value counts as in arithmetic: truth values count as one and zero. -/
def number? : Value → Option Number
  | .number x => some x
  | .truth b => some (.int (if b then 1 else 0))
  | _ => none

/-- The integer that a value counts as when it says how often. -/
def count? : Value → Option Int
  | .number (.int n) => some n
  | .truth b => some (if b then 1 else 0)
  | _ => none

def isNaN : Number → Bool
  | .real x => x.isNaN
  | _ => false

/-- Whether two values are the same subscript. Numbers are compared by value, and truth values count
as numbers. A number that is no number is nothing but its value here, so that all of them are the
same subscript, although none is equal to another. -/
def sameKey : Value → Value → Bool
  | .text s, .text t => s == t
  | .nothing, .nothing => true
  | .array r, .array r' => r == r'
  | a, b =>
    match a.number?, b.number? with
    | some x, some y => x.equal y || (isNaN x && isNaN y)
    | _, _ => false

instance : BEq Value := ⟨sameKey⟩

/-- The subscript that a value addresses: a floating-point number without fraction addresses the
same element as the integer. -/
def subscript : Value → Value
  | .number (.real x) =>
    match Binary.toInt? x with
    | some n => int n
    | none => real x
  | v => v

/-- Truth values as the language writes them: minus one and zero. -/
def flag (b : Bool) : Value := int (if b then -1 else 0)

end Value

/-- The elements of an array by subscript, in order of first writing. -/
abbrev Cells := Table Value Value

/-- The store of arrays. A reference is the position of its array in the store. -/
structure Heap where
  arrays : Array Cells := #[]

namespace Heap

instance : Inhabited Heap := ⟨{}⟩

def cells (h : Heap) (ref : Nat) : Cells := h.arrays.getD ref Table.empty

/-- A new array with the given elements, shared with nothing: its reference and the store with it.
-/
def alloc (h : Heap) (cells : Cells) : Nat × Heap :=
  (h.arrays.size, { arrays := h.arrays.push cells })

def write (h : Heap) (ref : Nat) (key value : Value) : Heap :=
  { arrays := h.arrays.modify ref fun cells => cells.insert key value }

end Heap

/-- A value that can be a subscript: anything but an array. -/
def Value.asKey : Value → Except Fault Value
  | .array _ => .error .wrongType
  | v => .ok v.subscript

end LineBasic

import LineBasic.Value.Basic

/-!
# Truth, equality and order of values

Zero, the empty text, an array without elements and nothing at all count as false. Values of
different kinds are different; arrays are equal when they have equal elements under the same
subscripts. Only numbers and texts have an order.
-/

namespace LineBasic

def Heap.isTrue (h : Heap) : Value → Bool
  | .number x => x.isTrue
  | .text s => !s.isEmpty
  | .truth b => b
  | .nothing => false
  | .array r => (h.cells r).size != 0

/-- Whether two values are equal, through chains of at most `depth` arrays. Elements that are the
same as subscripts are equal, also when they are no numbers. -/
def Heap.equalWithin (h : Heap) : Nat → Value → Value → Except Fault Bool
  | 0, .array r, .array r' => if r == r' then .ok true else .error .endless
  | depth + 1, .array r, .array r' =>
    if r == r' then .ok true
    else if (h.cells r).size != (h.cells r').size then .ok false
    else (h.cells r).entries.allM fun (k, v) =>
      match (h.cells r').get? k with
      | none => .ok false
      | some v' => if v == v' then .ok true else h.equalWithin depth v v'
  | _, .text s, .text t => .ok (s == t)
  | _, .nothing, .nothing => .ok true
  | _, a, b =>
    match a.number?, b.number? with
    | some x, some y => .ok (x.equal y)
    | _, _ => .ok false

/-- Whether two values are equal. A comparison that passes a pair of arrays twice has no end. -/
def Heap.equal (h : Heap) (a b : Value) : Except Fault Bool :=
  h.equalWithin (h.arrays.size * h.arrays.size) a b

/-- The order of two values: numbers by value, texts by their characters. -/
def Value.order (a b : Value) : Except Fault (Option Ordering) :=
  match a, b with
  | .text s, .text t => .ok (some (compare s t))
  | a, b =>
    match a.number?, b.number? with
    | some x, some y => x.order y
    | _, _ => .error .wrongType

def Value.less (a b : Value) : Except Fault Bool := do
  return (← a.order b) == some .lt

def Value.greater (a b : Value) : Except Fault Bool := do
  return (← a.order b) == some .gt

def Value.lessEq (a b : Value) : Except Fault Bool := do
  let o ← a.order b
  return o == some .lt || o == some .eq

def Value.greaterEq (a b : Value) : Except Fault Bool := do
  let o ← a.order b
  return o == some .gt || o == some .eq

end LineBasic

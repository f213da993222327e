import LineBasic.Text.Runs
import LineBasic.Text.Case.Table

/-!
# Upper and lower case

`upper` and `lower` change every letter of a text to the other case. A letter may become several
characters, and a capital sigma becomes the final form at the end of a word.
-/

namespace LineBasic.Text

def CaseRun.covers (r : CaseRun) (n : Nat) : Bool :=
  decide (r.first ≤ n) && decide (n ≤ r.last) && (n - r.first) % r.step == 0

def otherCase (runs : List CaseRun) (expansions : List (Nat × List Nat)) (c : Char) : List Char :=
  match runs.find? (·.covers c.toNat) with
  | some r => [Char.ofNat (r.image + (c.toNat - r.first))]
  | none =>
    match expansions.find? (·.1 == c.toNat) with
    | some (_, ns) => ns.map Char.ofNat
    | none => [c]

def upper (s : String) : String :=
  String.ofList (s.toList.flatMap (otherCase upperRuns upperExpansions))

/-- A sigma ends a word when a cased letter stands before it and none after it, marks that do not
interrupt a word being passed over. -/
def endsWord (before after : List Char) : Bool :=
  (match before.dropWhile (inRuns caseIgnorableBounds) with
    | [] => false
    | c :: _ => inRuns casedBounds c) &&
  (match after.dropWhile (inRuns caseIgnorableBounds) with
    | [] => true
    | c :: _ => !inRuns casedBounds c)

/-- Lower case of the remaining characters, given those already passed in reverse. -/
def lowerAfter (before : List Char) : List Char → List Char
  | [] => []
  | c :: rest =>
    (if c == 'Σ' then [if endsWord before rest then 'ς' else 'σ']
      else otherCase lowerRuns lowerExpansions c) ++ lowerAfter (c :: before) rest

def lower (s : String) : String := String.ofList (lowerAfter [] s.toList)

end LineBasic.Text

import LineBasic.Decimal.Notation
import LineBasic.Grammar.Statement
import LineBasic.Text.Quoted

/-!
# Statements laid open

A dump shows the parts of a line: its keyword, its number and its arguments, where expressions
appear as their text. It has two written forms, a record with named fields and a compact form.
-/

namespace LineBasic

inductive Dump where
  | text (s : String)
  | number (n : Nat)
  | nothing
  | list (items : List Dump)
  | line (keyword : String) (number : Nat) (args : List Dump)

namespace Dump

def ofText? : Option String → Dump
  | some s => .text s
  | none => .nothing

def ofFormula (f : Formula) : Dump := .text f.text

def ofItem (item : PrintItem) : Dump :=
  .list [ofFormula item.formula, ofText? (item.separator.map Separator.symbol)]

mutual

def record : Dump → String
  | .text s => Text.quoted s
  | .number n => Decimal.intText n
  | .nothing => "None"
  | .list items => "[" ++ String.intercalate ", " (recordAll items) ++ "]"
  | .line keyword n args =>
    "\x7b'type': " ++ Text.quoted keyword ++ ", 'lineno': " ++ Decimal.intText n ++
      ", 'args': [" ++ String.intercalate ", " (recordAll args) ++ "]\x7d"

def recordAll : List Dump → List String
  | [] => []
  | d :: rest => d.record :: recordAll rest

end

/-- Texts in parentheses; a single one is followed by a comma. -/
def tuple : List String → String
  | [one] => "(" ++ one ++ ",)"
  | many => "(" ++ String.intercalate ", " many ++ ")"

mutual

def compact : Dump → String
  | .text s => Text.quoted s
  | .number n => Decimal.intText n
  | .nothing => "None"
  | .list items => tuple (compactAll items)
  | .line keyword n args =>
    "Statement(" ++ keyword ++ ", " ++ Decimal.intText n ++ ", " ++ tuple (compactAll args) ++ ")"

def compactAll : List Dump → List String
  | [] => []
  | d :: rest => d.compact :: compactAll rest

end

end Dump

def Command.dumpArgs : Command → List Dump
  | .print items => [.list (items.map Dump.ofItem)]
  | .assign name index value =>
    [.text name, Dump.ofText? (index.map Formula.text), Dump.ofFormula value]
  | .remark text => [.text text]
  | .jump target => [.number target]
  | .call target => [.number target]
  | .loop name start stop step =>
    [.text name, Dump.ofFormula start, Dump.ofFormula stop, Dump.ofFormula step]
  | .next name => [.text name]
  | .pause millis => [Dump.ofFormula millis]
  | .input prompt name => [Dump.ofText? prompt, .text name]
  | .array name => [.text name]
  | .plot x y color => [Dump.ofFormula x, Dump.ofFormula y, Dump.ofFormula color]
  | _ => []

def Command.dump (number : Nat) (c : Command) : Dump := .line c.keyword number c.dumpArgs

/-- The parts of a line. The branches of `IF` have the number of their line. -/
def Line.dump (l : Line) : Dump :=
  match l.instruction with
  | .command c => c.dump l.number
  | .branch condition yes no =>
    .line "IF" l.number
      [Dump.ofFormula condition, yes.dump l.number,
        match no with
        | some c => c.dump l.number
        | none => .nothing]

/-- Whether two lines have the same number, the same keyword and the same arguments. -/
def Line.same (a b : Line) : Bool := a.dump.compact == b.dump.compact

end LineBasic

import LineBasic.Text.CharName.Ancient
import LineBasic.Text.CharName.Hieroglyphs
import LineBasic.Text.CharName.Letters
import LineBasic.Text.CharName.Pictures
import LineBasic.Text.CharName.Scripts
import LineBasic.Text.CharName.Second
import LineBasic.Text.CharName.Signs
import LineBasic.Text.CharName.Wide

/-!
# Characters by name

A named escape in a string literal asks for a character by its name. Most names are listed in
tables. Those of some families end in the code point or in a running number, and those of Korean
syllables spell their sound. Names are found in letters of either case, except for those of unified
ideographs and Korean syllables, which have to be in upper case.
-/

namespace LineBasic.Text

/-- The character with a Unicode scalar value, `none` for surrogates and numbers out of range. -/
def charOfNat? (n : Nat) : Option Char :=
  if n.isValidChar then some (Char.ofNat n) else none

def upperHexValue? (c : Char) : Option Nat :=
  if '0' ≤ c ∧ c ≤ '9' then some (c.toNat - '0'.toNat)
  else if 'A' ≤ c ∧ c ≤ 'F' then some (c.toNat - 'A'.toNat + 10)
  else none

/-- The number written with four or five upper-case hexadecimal digits. -/
def codePoint? (cs : List Char) : Option Nat :=
  if cs.length = 4 ∨ cs.length = 5 then
    (cs.mapM upperHexValue?).map (·.foldl (fun n d => 16 * n + d) 0)
  else none

/-- Characters whose names end in their code points. -/
structure CodedFamily where
  stem : String
  first : Nat
  last : Nat
  /-- Whether a zero in front of the code point is overlooked. -/
  padded : Bool := false

/-- The code point that ends the name of a member of a family. -/
def CodedFamily.find? (f : CodedFamily) (name : List Char) : Option Nat :=
  let digits := name.drop f.stem.length
  if f.stem.toList.isPrefixOf name ∧ (f.padded ∨ digits.head? ≠ some '0') then
    (codePoint? digits).filter fun n => decide (f.first ≤ n ∧ n ≤ f.last)
  else none

def ideographBlocks : List (Nat × Nat) :=
  [(0x3400, 0x4dbf), (0x4e00, 0x9fff), (0x20000, 0x2a6df), (0x2a700, 0x2b738), (0x2b740, 0x2b81d),
   (0x2b820, 0x2cea1), (0x2ceb0, 0x2ebe0), (0x30000, 0x3134a)]

def ideographs : List CodedFamily :=
  ideographBlocks.map fun (first, last) =>
    { stem := "CJK UNIFIED IDEOGRAPH-", first := first, last := last, padded := true }

/-- Other characters whose names end in their code points. -/
def codedFamilies : List CodedFamily :=
  [{ stem := "CJK COMPATIBILITY IDEOGRAPH-", first := 0xf900, last := 0xfa6d },
   { stem := "CJK COMPATIBILITY IDEOGRAPH-", first := 0xfa70, last := 0xfad9 },
   { stem := "CJK COMPATIBILITY IDEOGRAPH-", first := 0x2f800, last := 0x2fa1d },
   { stem := "KHITAN SMALL SCRIPT CHARACTER-", first := 0x18b00, last := 0x18cd5 },
   { stem := "NUSHU CHARACTER-", first := 0x1b170, last := 0x1b2fb }]

/-- Consecutive characters whose names end in a running number. -/
structure NumberedFamily where
  stem : String
  /-- The least number of digits. -/
  width : Nat
  /-- The number of the first character. -/
  start : Nat
  first : Nat
  count : Nat

/-- The code point of the member of a family with a name. -/
def NumberedFamily.find? (f : NumberedFamily) (name : List Char) : Option Nat :=
  let digits := name.drop f.stem.length
  if f.stem.toList.isPrefixOf name ∧ digits.all Char.isDigit ∧
      (digits.length = f.width ∨ (f.width < digits.length ∧ digits.head? ≠ some '0')) then
    let n := digits.foldl (fun n c => 10 * n + (c.toNat - '0'.toNat)) 0
    if f.start ≤ n ∧ n < f.start + f.count then some (f.first + (n - f.start)) else none
  else none

def numberedFamilies : List NumberedFamily :=
  [⟨"TANGUT COMPONENT-", 3, 1, 0x18800, 768⟩,
   ⟨"VARIATION SELECTOR-", 1, 1, 0xfe00, 16⟩, ⟨"VARIATION SELECTOR-", 1, 17, 0xe0100, 240⟩,
   ⟨"VS", 1, 1, 0xfe00, 16⟩, ⟨"VS", 1, 17, 0xe0100, 240⟩]

def syllableHeads : List String :=
  ["G", "GG", "N", "D", "DD", "R", "M", "B", "BB", "S", "SS", "", "J", "JJ", "C", "K", "T", "P",
   "H"]

def syllableVowels : List String :=
  ["A", "AE", "YA", "YAE", "EO", "E", "YEO", "YE", "O", "WA", "WAE", "OE", "YO", "U", "WEO", "WE",
   "WI", "YU", "EU", "YI", "I"]

def syllableTails : List String :=
  ["", "G", "GG", "GS", "N", "NJ", "NH", "D", "L", "LG", "LM", "LB", "LS", "LT", "LP", "LH", "M",
   "B", "BS", "S", "SS", "NG", "J", "C", "K", "T", "P", "H"]

/-- The longest entry of `sounds` that `cs` starts with: its index, and what follows it. -/
def longestSound (sounds : List String) (cs : List Char) : Option (Nat × List Char) :=
  let hits := sounds.zipIdx.filter fun (s, _) => s.toList.isPrefixOf cs
  let best := hits.foldl
    (fun (acc : Option (String × Nat)) hit =>
      match acc with
      | some b => if b.1.length < hit.1.length then some hit else some b
      | none => some hit) none
  best.map fun (s, i) => (i, cs.drop s.length)

/-- The code point of the Korean syllable spelled by its sounds. -/
def syllable? (name : List Char) : Option Nat :=
  let words := "HANGUL SYLLABLE "
  if words.toList.isPrefixOf name then
    match longestSound syllableHeads (name.drop words.length) with
    | none => none
    | some (head, rest) =>
      match longestSound syllableVowels rest with
      | none => none
      | some (vowel, rest) =>
        match longestSound syllableTails rest with
        | some (tail, []) => some (0xac00 + (head * 21 + vowel) * 28 + tail)
        | _ => none
  else none

def nameRows : List NameRow :=
  [letterRows, scriptRows, signRows, wideRows, ancientRows, hieroglyphRows, pictureRows].flatten

/-- The code point of a character by its name in upper case. -/
def listed? (name : List Char) : Option Nat :=
  (nameRows.findSome? (·.find? name)).or <|
  ((secondNames.find? fun (_, second) => second.toList == name).map (·.1)).or <|
  (numberedFamilies.findSome? (·.find? name)).or <|
  codedFamilies.findSome? (·.find? name)

def charNamed? (name : List Char) : Option Char :=
  ((ideographs.findSome? (·.find? name)).or <|
    (syllable? name).or <|
    listed? (name.map Char.toUpper)).bind charOfNat?

end LineBasic.Text

import LineBasic.Grammar.ExprParser
import LineBasic.Proofs.Grammar.Tokens

/-!
# Taking tokens off a text

What a cursor finds depends on the unread characters alone. `Unread` holds the same readers on lists
of characters, where a text can be joined and cut; a cursor only adds the positions.

Each reader comes with three facts. It splits what it reads off from the rest. It finds the same
when the rest is cut (`symbol?_cut`, `operator?_cut`, `token?_cut`). And what it finds in a text it
also finds, up to the length of a comparison sign, when more characters are put behind.
-/

namespace LineBasic

namespace Unread

open LineBasic.Text
open Token (Bounded Clear)

/-- The characters from the first that is not a gap on. -/
def skip (cs : List Char) : List Char := cs.dropWhile isGap

def token? (length : List Char → Nat) (cs : List Char) : Option (String × List Char) :=
  if length (skip cs) = 0 then none
  else
    some (String.ofList ((skip cs).take (length (skip cs))), (skip cs).drop (length (skip cs)))

def symbol? (s : String) (cs : List Char) : Option (List Char) :=
  if s.toList.isPrefixOf (skip cs) then some ((skip cs).drop s.length) else none

def word? (s : String) (cs : List Char) : Option (List Char) :=
  match token? Token.nameLength cs with
  | some (w, rest) => if w == s then some rest else none
  | none => none

def operator? (cs : List Char) : Option (BinaryOp × List Char) :=
  BinaryOp.all.findSome? fun op => (symbol? op.symbol cs).map fun rest => (op, rest)

/-! ## Gaps -/

theorem skip_skip (cs : List Char) : skip (skip cs) = skip cs := by
  induction cs with
  | nil => rfl
  | cons c cs ih => by_cases hc : isGap c <;> simp_all [skip]

theorem exists_gaps (cs : List Char) : ∃ gaps, cs = gaps ++ skip cs ∧ ∀ c ∈ gaps, isGap c = true :=
  ⟨cs.takeWhile isGap, List.takeWhile_append_dropWhile.symm,
    fun c hc => List.all_eq_true.mp List.all_takeWhile c hc⟩

theorem skip_append_of_gaps {gaps : List Char} (h : ∀ c ∈ gaps, isGap c = true)
    (cs : List Char) : skip (gaps ++ cs) = skip cs :=
  List.dropWhile_append_of_pos h

theorem isGap_of_skip_eq_nil {cs : List Char} (h : skip cs = []) : ∀ c ∈ cs, isGap c = true := by
  obtain ⟨gaps, hcs, hgaps⟩ := exists_gaps cs
  rw [h, List.append_nil] at hcs
  rwa [hcs]

/-- Where something other than gaps is left, more characters behind do not change the gaps. -/
theorem skip_append {cs : List Char} (h : skip cs ≠ []) (tail : List Char) :
    skip (cs ++ tail) = skip cs ++ tail := by
  have hempty : (cs.dropWhile isGap).isEmpty = false := by simpa [skip] using h
  rw [skip, List.dropWhile_append, hempty]
  rfl

theorem isGap_of_skip_eq_cons {c : Char} {cs rest : List Char} (h : skip cs = c :: rest) :
    isGap c = false := by
  have hhead := List.head?_dropWhile_not isGap cs
  rw [skip] at h
  rwa [h] at hhead

/-- What starts a text behind its gaps still does when the text is cut behind it. -/
theorem skip_cut {cs s y tail : List Char} (h : skip cs = s ++ (y ++ tail)) (hs : s ≠ []) :
    ∃ x, cs = x ++ tail ∧ skip x = s ++ y := by
  obtain ⟨gaps, hcs, hgaps⟩ := exists_gaps cs
  refine ⟨gaps ++ (s ++ y), ?_, ?_⟩
  · rw [hcs, h]
    simp only [List.append_assoc]
  · rw [skip_append_of_gaps hgaps]
    cases s with
    | nil => exact absurd rfl hs
    | cons c s => simp [skip, isGap_of_skip_eq_cons h]

/-- The head of a text is a gap or the first character behind the gaps. -/
theorem head_eq (cs : List Char) : Bounded cs ∨ cs.head? = (skip cs).head? := by
  cases cs with
  | nil => exact .inr rfl
  | cons c cs =>
      by_cases hc : isGap c = true
      · exact .inl fun d hd => by
          rw [List.head?_cons, Option.mem_some_iff] at hd
          rwa [← hd]
      · exact .inr (by simp [skip, hc])

theorem clear_of_skip {cs : List Char} (h : Clear (skip cs)) : Clear cs := by
  rcases head_eq cs with hbounded | hhead
  · exact hbounded.clear
  · rw [Clear, hhead]
    exact h

/-! ## What is read off -/

/-- Characters without a line break and without a blank at the end. -/
def Solid (w : List Char) : Prop := '\n' ∉ w ∧ ∀ c ∈ w.getLast?, isBlank c = false

theorem solid_nil : Solid [] := ⟨List.not_mem_nil, by simp⟩

theorem Solid.append {a b : List Char} (ha : Solid a) (hb : Solid b) : Solid (a ++ b) := by
  refine ⟨by simp [ha.1, hb.1], ?_⟩
  intro c hc
  rw [List.getLast?_append] at hc
  cases hlast : b.getLast? with
  | none =>
      rw [hlast, Option.none_or] at hc
      exact ha.2 c hc
  | some d =>
      rw [hlast, Option.some_or] at hc
      exact hb.2 c (hlast ▸ hc)

theorem Solid.gaps_append {gaps w : List Char} (hgaps : ∀ c ∈ gaps, isGap c = true)
    (h : Solid w) (hw : w ≠ []) : Solid (gaps ++ w) := by
  constructor
  · intro hmem
    rcases List.mem_append.mp hmem with hmem | hmem
    · exact absurd (hgaps _ hmem) (by decide)
    · exact h.1 hmem
  · intro c hc
    rw [List.getLast?_append, List.getLast?_eq_some_getLast hw, Option.some_or] at hc
    exact h.2 c (List.getLast?_eq_some_getLast hw ▸ hc)

theorem solid_of_ink {w : List Char} (h : ∀ c ∈ w, Token.isInk c = true) : Solid w := by
  have hblank : ∀ c ∈ w, isBlank c = false := fun c hc => by simpa [Token.isInk] using h c hc
  exact ⟨fun hmem => absurd (hblank _ hmem) (by decide),
    fun c hc => hblank c (List.mem_of_getLast? hc)⟩

/-- From one place of a text to a later one, past whole tokens. -/
def Takes (cs rest : List Char) : Prop := ∃ w, cs = w ++ rest ∧ Solid w

theorem Takes.refl (cs : List Char) : Takes cs cs := ⟨[], rfl, solid_nil⟩

theorem Takes.trans {a b c : List Char} (hab : Takes a b) (hbc : Takes b c) : Takes a c := by
  obtain ⟨v, rfl, hv⟩ := hab
  obtain ⟨w, rfl, hw⟩ := hbc
  exact ⟨v ++ w, (List.append_assoc v w c).symm, hv.append hw⟩

theorem Takes.length_le {cs rest : List Char} (h : Takes cs rest) : rest.length ≤ cs.length := by
  obtain ⟨w, rfl, -⟩ := h
  simp

theorem takes_of_skip {cs s rest : List Char} (h : skip cs = s ++ rest) (hs : s ≠ [])
    (hsolid : Solid s) : Takes cs rest := by
  obtain ⟨gaps, hcs, hgaps⟩ := exists_gaps cs
  refine ⟨gaps ++ s, ?_, hsolid.gaps_append hgaps hs⟩
  rw [List.append_assoc, ← h]
  exact hcs

theorem length_lt_of_skip {cs s rest : List Char} (h : skip cs = s ++ rest) (hs : s ≠ []) :
    rest.length < cs.length := by
  obtain ⟨gaps, hcs, -⟩ := exists_gaps cs
  have := List.length_pos_iff.mpr hs
  rw [hcs, h, List.length_append, List.length_append]
  omega

/-! ## Symbols -/

/-- Symbols are not empty, hold no blanks, and do not prolong a variable. -/
def IsSymbol (s : String) : Prop :=
  s.toList ≠ [] ∧ ∀ c ∈ s.toList, Token.isInk c = true ∧ c.isDigit = false ∧ c ≠ '$'

instance (s : String) : Decidable (IsSymbol s) :=
  decidable_of_iff
    ((!s.toList.isEmpty &&
      s.toList.all fun c => Token.isInk c && !c.isDigit && c != '$') = true)
    (by simp [IsSymbol, and_assoc])

theorem isSymbol_operator (op : BinaryOp) : IsSymbol op.symbol := by
  cases op <;> decide

variable {s : String} {cs rest : List Char}

theorem symbol?_eq_some : symbol? s cs = some rest ↔ skip cs = s.toList ++ rest := by
  unfold symbol?
  constructor
  · intro h
    split at h
    · next hs =>
      obtain ⟨tail, htail⟩ := List.isPrefixOf_iff_prefix.mp hs
      rw [← htail, Option.some.injEq] at h
      rw [← htail, ← h, ← String.length_toList, List.drop_left]
    · cases h
  · intro h
    rw [h, if_pos (List.isPrefixOf_iff_prefix.mpr (List.prefix_append _ _)),
      ← String.length_toList, List.drop_left]

theorem symbol?_takes (hs : IsSymbol s) (h : symbol? s cs = some rest) : Takes cs rest :=
  takes_of_skip (symbol?_eq_some.mp h) hs.1 (solid_of_ink fun c hc => (hs.2 c hc).1)

theorem symbol?_length_lt (hs : IsSymbol s) (h : symbol? s cs = some rest) :
    rest.length < cs.length :=
  length_lt_of_skip (symbol?_eq_some.mp h) hs.1

/-- A variable that a symbol follows has not been shortened. -/
theorem symbol?_clear (hs : IsSymbol s) (h : symbol? s cs = some rest) : Clear cs := by
  apply clear_of_skip
  rw [symbol?_eq_some.mp h]
  intro c hc
  rw [List.head?_append, List.head?_eq_some_head hs.1, Option.some_or, Option.mem_some_iff] at hc
  exact (hs.2 c (hc ▸ List.head_mem hs.1)).2

theorem symbol?_cut {tail : List Char} (hs : IsSymbol s) (h : symbol? s cs = some (rest ++ tail)) :
    ∃ x, cs = x ++ tail ∧ symbol? s x = some rest := by
  obtain ⟨x, hcs, hx⟩ := skip_cut (symbol?_eq_some.mp h) hs.1
  exact ⟨x, hcs, symbol?_eq_some.mpr hx⟩

theorem symbol?_append (hs : IsSymbol s) (h : symbol? s cs = some rest) (tail : List Char) :
    symbol? s (cs ++ tail) = some (rest ++ tail) := by
  rw [symbol?_eq_some] at h ⊢
  have hne : skip cs ≠ [] := by
    rw [h]
    exact fun hnil => hs.1 (List.append_eq_nil_iff.mp hnil).1
  rw [skip_append hne, h, List.append_assoc]

/-- A symbol that does not come next in a text does not in a part of it. -/
theorem symbol?_none_of_append {tail : List Char} (hs : IsSymbol s)
    (h : symbol? s (cs ++ tail) = none) : symbol? s cs = none := by
  cases hcs : symbol? s cs with
  | none => rfl
  | some rest =>
      rw [symbol?_append hs hcs] at h
      cases h

/-! ## Operators -/

theorem symbol?_of_operator? {op : BinaryOp} (h : operator? cs = some (op, rest)) :
    symbol? op.symbol cs = some rest := by
  obtain ⟨op', -, hop⟩ := List.exists_of_findSome?_eq_some h
  obtain ⟨rest', hrest, heq⟩ := Option.map_eq_some_iff.mp hop
  cases heq
  exact hrest

theorem operator?_takes {op : BinaryOp} (h : operator? cs = some (op, rest)) : Takes cs rest :=
  symbol?_takes (isSymbol_operator op) (symbol?_of_operator? h)

theorem operator?_length_lt {op : BinaryOp} (h : operator? cs = some (op, rest)) :
    rest.length < cs.length :=
  symbol?_length_lt (isSymbol_operator op) (symbol?_of_operator? h)

theorem operator?_cut {op : BinaryOp} {tail : List Char}
    (h : operator? cs = some (op, rest ++ tail)) :
    ∃ x, cs = x ++ tail ∧ operator? x = some (op, rest) := by
  obtain ⟨x, rfl, hx⟩ := symbol?_cut (isSymbol_operator op) (symbol?_of_operator? h)
  refine ⟨x, rfl, ?_⟩
  -- the operators tried before find nothing in the whole text, so nothing in its first part
  obtain ⟨before, op', after, hall, hop, hnone⟩ := List.findSome?_eq_some_iff.mp h
  obtain ⟨_, _, heq⟩ := Option.map_eq_some_iff.mp hop
  obtain ⟨rfl, -⟩ := Prod.mk.inj heq
  refine List.findSome?_eq_some_iff.mpr ⟨before, op', after, hall, by rw [hx]; rfl, ?_⟩
  intro op'' hmem
  rw [Option.map_eq_none_iff]
  exact symbol?_none_of_append (isSymbol_operator op'')
    (Option.map_eq_none_iff.mp (hnone op'' hmem))

/-- Operators of which one's symbol starts the other's are of one level. -/
theorem level_eq_of_isPrefixOf (op op' : BinaryOp)
    (h : op.symbol.toList.isPrefixOf op'.symbol.toList = true) : op.level = op'.level := by
  cases op <;> cases op' <;> first | rfl | exact absurd h (by decide)

/-- More characters behind may turn a comparison into another one, but keep the level. -/
theorem operator?_append {op : BinaryOp} (h : operator? cs = some (op, rest)) (tail : List Char) :
    ∃ op' rest', operator? (cs ++ tail) = some (op', rest') ∧ op'.level = op.level := by
  have hsymbol := symbol?_append (isSymbol_operator op) (symbol?_of_operator? h) tail
  cases hop : operator? (cs ++ tail) with
  | none =>
      have hnone := List.findSome?_eq_none_iff.mp hop op (by cases op <;> decide)
      rw [hsymbol] at hnone
      cases hnone
  | some found =>
      obtain ⟨op', rest'⟩ := found
      refine ⟨op', rest', rfl, ?_⟩
      have hprefix : op.symbol.toList <+: skip (cs ++ tail) :=
        ⟨_, (symbol?_eq_some.mp hsymbol).symm⟩
      have hprefix' : op'.symbol.toList <+: skip (cs ++ tail) :=
        ⟨_, (symbol?_eq_some.mp (symbol?_of_operator? hop)).symm⟩
      rcases List.prefix_or_prefix_of_prefix hprefix hprefix' with hle | hle
      · exact (level_eq_of_isPrefixOf op op' (List.isPrefixOf_iff_prefix.mpr hle)).symm
      · exact level_eq_of_isPrefixOf op' op (List.isPrefixOf_iff_prefix.mpr hle)

/-! ## Tokens -/

structure Measures (length : List Char → Nat) : Prop where
  le : ∀ cs : List Char, length cs ≤ cs.length
  solid : ∀ cs : List Char, Solid (cs.take (length cs))

/-- Tokens of a kind that goes no further than plain characters hold nothing else. -/
theorem isPlain_of_mem_take {length : List Char → Nat} {cs : List Char} {c : Char}
    (h : length cs ≤ Token.countWhile Token.isPlain cs) (hc : c ∈ cs.take (length cs)) :
    Token.isPlain c = true := by
  have hmem := (List.take_sublist_take_left h).mem hc
  rw [Token.take_countWhile] at hmem
  exact List.all_eq_true.mp List.all_takeWhile c hmem

theorem Measures.of_plain {length : List Char → Nat}
    (h : ∀ cs, length cs ≤ Token.countWhile Token.isPlain cs) : Measures length where
  le cs := Nat.le_trans (h cs) (Token.countWhile_le Token.isPlain cs)
  solid cs := solid_of_ink fun _ hc => Token.isInk_of_isPlain (isPlain_of_mem_take (h cs) hc)

theorem measures_number : Measures Token.numberLength := .of_plain Token.numberLength_le_plain

theorem measures_variable : Measures Token.variableLength := .of_plain Token.variableLength_le_plain

theorem measures_name : Measures Token.nameLength := .of_plain Token.nameLength_le_plain

theorem measures_literal : Measures Token.literalLength where
  le cs := by
    by_cases h : Token.literalLength cs = 0
    · omega
    · obtain ⟨w, rest, rfl, -, hlength⟩ := Token.exists_quotes_of_literalLength h
      rw [hlength]
      simp only [List.length_append, List.length_cons]
      omega
  solid cs := by
    by_cases h : Token.literalLength cs = 0
    · rw [h]
      exact solid_nil
    · obtain ⟨w, rest, rfl, hw, hlength⟩ := Token.exists_quotes_of_literalLength h
      have htake : ('"' :: w ++ '"' :: rest).take (w.length + 2) = '"' :: w ++ ['"'] := by
        rw [List.append_cons]
        exact List.take_left' (by simp)
      rw [hlength, htake]
      refine ⟨by simp [hw], ?_⟩
      intro c hc
      rw [List.getLast?_concat, Option.mem_some_iff] at hc
      rw [← hc]
      decide

variable {length : List Char → Nat}

theorem token?_eq_some (hm : Measures length) :
    token? length cs = some (s, rest) ↔
      skip cs = s.toList ++ rest ∧ s.toList ≠ [] ∧
        length (s.toList ++ rest) = s.toList.length := by
  unfold token?
  constructor
  · intro h
    split at h
    · cases h
    · next hlength =>
      cases h
      rw [String.toList_ofList, List.take_append_drop, List.length_take_of_le (hm.le _)]
      refine ⟨rfl, ?_, rfl⟩
      apply List.ne_nil_of_length_pos
      rw [List.length_take_of_le (hm.le _)]
      omega
  · rintro ⟨hskip, hs, hlength⟩
    have hpos := List.length_pos_iff.mpr hs
    rw [hskip, hlength, if_neg (by omega), List.take_left, List.drop_left, String.ofList_toList]

theorem token?_eq_none : token? length cs = none ↔ length (skip cs) = 0 := by
  unfold token?
  split <;> simp_all

theorem token?_takes (hm : Measures length) (h : token? length cs = some (s, rest)) :
    Takes cs rest := by
  obtain ⟨hskip, hs, hlength⟩ := (token?_eq_some hm).mp h
  have hsolid := hm.solid (s.toList ++ rest)
  rw [hlength, List.take_left] at hsolid
  exact takes_of_skip hskip hs hsolid

theorem token?_length_lt (hm : Measures length) (h : token? length cs = some (s, rest)) :
    rest.length < cs.length := by
  obtain ⟨hskip, hs, -⟩ := (token?_eq_some hm).mp h
  exact length_lt_of_skip hskip hs

/-- A token is found again when the text behind it is cut, for the kinds that stop by themselves. -/
theorem token?_cut {tail : List Char} (hm : Measures length)
    (hcut : ∀ {a b : List Char}, length (a ++ b) ≤ a.length → length a = length (a ++ b))
    (h : token? length cs = some (s, rest ++ tail)) :
    ∃ x, cs = x ++ tail ∧ token? length x = some (s, rest) := by
  obtain ⟨hskip, hs, hlength⟩ := (token?_eq_some hm).mp h
  obtain ⟨x, hcs, hx⟩ := skip_cut hskip hs
  refine ⟨x, hcs, (token?_eq_some hm).mpr ⟨hx, hs, ?_⟩⟩
  rw [← List.append_assoc] at hlength
  rw [hcut (b := tail) (by rw [hlength]; simp), hlength]

theorem Clear.of_append {a b : List Char} (h : Clear (a ++ b)) : Clear a := by
  intro c hc
  exact h c (by rw [List.head?_append, hc]; rfl)

/-- A variable is found again when the text behind it is cut, unless it had been shortened. -/
theorem variableToken_cut {tail : List Char} (hclear : Clear (rest ++ tail))
    (h : token? Token.variableLength cs = some (s, rest ++ tail)) :
    ∃ x, cs = x ++ tail ∧ token? Token.variableLength x = some (s, rest) := by
  obtain ⟨hskip, hs, hlength⟩ := (token?_eq_some measures_variable).mp h
  obtain ⟨x, hcs, hx⟩ := skip_cut hskip hs
  refine ⟨x, hcs, (token?_eq_some measures_variable).mpr ⟨hx, hs, ?_⟩⟩
  obtain ⟨hvariable, hruns⟩ := Token.isVariable_of_length hlength hs hclear
  refine hvariable.length_append (Clear.of_append hclear) ?_
  cases rest with
  | nil => rfl
  | cons c rest => exact hruns

theorem word?_eq_some : word? s cs = some rest ↔ token? Token.nameLength cs = some (s, rest) := by
  unfold word?
  split
  · next w rest' hw =>
    rw [hw]
    by_cases hws : w = s
    · simp [hws]
    · simp [hws]
  · next hw => simp [hw]

theorem word?_of_name {s w : String} (h : token? Token.nameLength cs = some (s, rest)) :
    word? w cs = if s == w then some rest else none := by
  rw [word?, h]

/-- Texts that start with the same name start with the same words. -/
theorem word?_none_of_name {s w : String} {ds rest' : List Char}
    (h : token? Token.nameLength cs = some (s, rest))
    (h' : token? Token.nameLength ds = some (s, rest')) (hw : word? w cs = none) :
    word? w ds = none := by
  rw [word?_of_name h] at hw
  rw [word?_of_name h']
  split at hw
  · cases hw
  · next hs => rw [if_neg hs]

theorem word?_none_of_variable {s w : String}
    (h : token? Token.variableLength cs = some (s, rest)) : word? w cs = none := by
  have hname : token? Token.nameLength cs = none := by
    rw [token?_eq_none]
    by_cases hzero : Token.nameLength (skip cs) = 0
    · exact hzero
    · rw [token?_eq_none.mpr (Token.variableLength_of_nameLength hzero)] at h
      cases h
  rw [word?, hname]

theorem word?_cut {tail : List Char} (h : word? s cs = some (rest ++ tail)) :
    ∃ x, cs = x ++ tail ∧ word? s x = some rest := by
  obtain ⟨x, hcs, hx⟩ := token?_cut measures_name Token.nameLength_cut (word?_eq_some.mp h)
  exact ⟨x, hcs, word?_eq_some.mpr hx⟩

/-! ## The first character of a token -/

/-- The first character behind the gaps satisfies a test. -/
def Opens (p : Char → Bool) (cs : List Char) : Prop := ∃ c tail, skip cs = c :: tail ∧ p c = true

theorem opens_of_token? {p : Char → Bool} (hm : Measures length)
    (hp : ∀ {c : Char} {tail : List Char}, length (c :: tail) ≠ 0 → p c = true)
    (h : token? length cs = some (s, rest)) : Opens p cs := by
  obtain ⟨hskip, hs, hlength⟩ := (token?_eq_some hm).mp h
  cases htail : s.toList with
  | nil => exact absurd htail hs
  | cons c tail =>
      rw [htail, List.cons_append] at hskip hlength
      exact ⟨c, tail ++ rest, hskip, hp (by rw [hlength]; simp)⟩

/-- A kind of token whose first character satisfies one test is not found where the text opens with
a character that satisfies a test excluded by it. -/
theorem token?_none_of_opens {p q : Char → Bool}
    (hp : ∀ {c : Char} {tail : List Char}, length (c :: tail) ≠ 0 → p c = true)
    (hpq : ∀ c, q c = true → p c = false) (h : Opens q cs) : token? length cs = none := by
  obtain ⟨c, tail, hskip, hc⟩ := h
  rw [token?_eq_none, hskip]
  by_cases hzero : length (c :: tail) = 0
  · exact hzero
  · have := hp hzero
    rw [hpq c hc] at this
    cases this

def starts (p : Char → Bool) (s : String) : Bool := s.toList.head?.any p

theorem exists_cons_of_symbol? (hs : IsSymbol s) (h : symbol? s cs = some rest) :
    ∃ c tail, skip cs = c :: tail ∧ ∀ p : Char → Bool, starts p s = p c := by
  rw [symbol?_eq_some] at h
  cases htail : s.toList with
  | nil => exact absurd htail hs.1
  | cons c tail =>
      rw [htail, List.cons_append] at h
      exact ⟨c, tail ++ rest, h, fun p => by rw [starts, htail]; rfl⟩

theorem opens_of_symbol? {p : Char → Bool} (hs : IsSymbol s) (hp : starts p s = true)
    (h : symbol? s cs = some rest) : Opens p cs := by
  obtain ⟨c, tail, hskip, hc⟩ := exists_cons_of_symbol? hs h
  exact ⟨c, tail, hskip, (hc p).symm.trans hp⟩

theorem symbol?_none_of_opens {q : Char → Bool} (hs : IsSymbol s) (hq : starts q s = false)
    (h : Opens q cs) : symbol? s cs = none := by
  obtain ⟨c, tail, hskip, hc⟩ := h
  cases hsymbol : symbol? s cs with
  | none => rfl
  | some rest =>
      obtain ⟨d, tail', hskip', hd⟩ := exists_cons_of_symbol? hs hsymbol
      rw [hskip, List.cons.injEq] at hskip'
      rw [hskip'.1, ← hd q, hq] at hc
      cases hc

theorem word?_none_of_opens {w : String} {q : Char → Bool}
    (hq : ∀ c, q c = true → Token.isLetter c = false) (h : Opens q cs) : word? w cs = none := by
  rw [word?, token?_none_of_opens Token.isLetter_of_nameLength hq h]

def startsNumber (c : Char) : Bool := isDigit c || c == '.'

theorem startsNumber_of_length {c : Char} {tail : List Char}
    (h : Token.numberLength (c :: tail) ≠ 0) : startsNumber c = true := by
  rcases Token.head_of_numberLength h with hc | rfl
  · simp [startsNumber, hc]
  · rfl

def startsLiteral (c : Char) : Bool := c == '"'

theorem startsLiteral_of_length {c : Char} {tail : List Char}
    (h : Token.literalLength (c :: tail) ≠ 0) : startsLiteral c = true :=
  beq_iff_eq.mpr (Token.head_of_literalLength h)

theorem startsNumber_of_isLetter {c : Char} (h : Token.isLetter c = true) :
    startsNumber c = false := by
  have hrange := Token.isLetter_range h
  rw [startsNumber, Bool.or_eq_false_iff]
  constructor
  · by_cases hdigit : isDigit c = true
    · have := Token.isDigit_range hdigit
      omega
    · simpa using hdigit
  · rw [beq_eq_false_iff_ne]
    rintro rfl
    exact absurd h (by decide)

theorem startsLiteral_of_isLetter {c : Char} (h : Token.isLetter c = true) :
    startsLiteral c = false := by
  rw [startsLiteral, beq_eq_false_iff_ne]
  rintro rfl
  exact absurd h (by decide)

theorem isLetter_of_startsNumber {c : Char} (h : startsNumber c = true) :
    Token.isLetter c = false := by
  by_cases hc : Token.isLetter c = true
  · rw [startsNumber_of_isLetter hc] at h
    cases h
  · simpa using hc

theorem isLetter_of_startsLiteral {c : Char} (h : startsLiteral c = true) :
    Token.isLetter c = false := by
  rw [beq_iff_eq.mp h]
  decide

theorem startsNumber_of_startsLiteral {c : Char} (h : startsLiteral c = true) :
    startsNumber c = false := by
  rw [beq_iff_eq.mp h]
  decide

end Unread

end LineBasic

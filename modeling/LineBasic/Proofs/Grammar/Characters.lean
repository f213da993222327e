import LineBasic.Grammar.Token

/-!
# Characters of tokens

The classes of characters that tokens are made of, and the lengths of runs of characters of one
class. A run over two texts that are joined ends in the first of them, or goes over all of it and on
into the second.
-/

namespace LineBasic

namespace Token

open LineBasic.Text

/-- Nothing or a gap comes next. -/
def Bounded (cs : List Char) : Prop := ∀ c ∈ cs.head?, isGap c = true

/-- What comes next would not prolong a variable: neither a digit nor a dollar sign. -/
def Clear (cs : List Char) : Prop := ∀ c ∈ cs.head?, c.isDigit = false ∧ c ≠ '$'

theorem eq_of_isGap {c : Char} (h : isGap c = true) : c = ' ' ∨ c = '\t' := by
  simpa [isGap] using h

theorem Bounded.clear {cs : List Char} (h : Bounded cs) : Clear cs := by
  intro c hc
  rcases eq_of_isGap (h c hc) with rfl | rfl <;> decide

theorem Bounded.head {p : Char → Bool} {cs : List Char} (h : Bounded cs)
    (hp : p ' ' = false ∧ p '\t' = false) : ∀ c ∈ cs.head?, p c = false := by
  intro c hc
  rcases eq_of_isGap (h c hc) with rfl | rfl
  · exact hp.1
  · exact hp.2

/-! ## Characters -/

def isInk (c : Char) : Bool := !isBlank c

theorem exists_zero_of_isDigit {c : Char} (h : isDigit c = true) :
    ∃ z ∈ digitZeros, ∃ i, i < 10 ∧ c.toNat = z + i := by
  simp only [isDigit, digitValue?, Option.isSome_map, List.find?_isSome, decide_eq_true_eq] at h
  obtain ⟨z, hz, hle, hlt⟩ := h
  exact ⟨z, hz, c.toNat - z, by omega, by omega⟩

theorem isDigit_range {c : Char} (h : isDigit c = true) :
    0x30 ≤ c.toNat ∧ c.toNat ≤ 0x39 ∨ 0x7f < c.toNat := by
  obtain ⟨z, hz, i, hi, hc⟩ := exists_zero_of_isDigit h
  have hzeros : ∀ z ∈ digitZeros, z = 0x30 ∨ 0x7f < z := by decide
  rcases hzeros z hz with rfl | hz' <;> omega

theorem isLetter_range {c : Char} (h : isLetter c = true) :
    0x41 ≤ c.toNat ∧ c.toNat ≤ 0x5a := by
  simpa [isLetter, Char.le_def, UInt32.le_iff_toNat_le] using h

theorem charIsDigit_range {c : Char} (h : c.isDigit = true) :
    0x30 ≤ c.toNat ∧ c.toNat ≤ 0x39 := by
  simpa [Char.isDigit, UInt32.le_iff_toNat_le] using h

theorem charIsDigit_of_isWordStart {c : Char} (h : isWordStart c = true) : c.isDigit = false := by
  rcases Bool.or_eq_true_iff.mp h with hletter | hunderscore
  · by_cases hdigit : c.isDigit = true
    · have := isLetter_range hletter
      have := charIsDigit_range hdigit
      omega
    · simpa using hdigit
  · rw [beq_iff_eq.mp hunderscore]
    rfl

theorem isInk_of_isDigit {c : Char} (h : isDigit c = true) : isInk c = true := by
  obtain ⟨z, hz, i, hi, hc⟩ := exists_zero_of_isDigit h
  have hzeros : ∀ z ∈ digitZeros, ∀ i < 10,
      blankBounds.foldl (fun inside b => inside != decide (b ≤ z + i)) false = false := by
    decide +kernel
  simp only [isInk, isBlank, inRuns, hc, hzeros z hz i hi, Bool.not_false]

theorem isInk_of_range {c : Char} (h : 0x21 ≤ c.toNat ∧ c.toNat < 0x85) : isInk c = true := by
  have hcodes : ∀ n < 0x85, 0x21 ≤ n →
      blankBounds.foldl (fun inside b => inside != decide (b ≤ n)) false = false := by
    decide +kernel
  simp only [isInk, isBlank, inRuns, hcodes _ h.2 h.1, Bool.not_false]

theorem isInk_of_isLetter {c : Char} (h : isLetter c = true) : isInk c = true := by
  have := isLetter_range h
  exact isInk_of_range (by omega)

theorem isInk_of_charIsDigit {c : Char} (h : c.isDigit = true) : isInk c = true := by
  have := charIsDigit_range h
  exact isInk_of_range (by omega)

theorem isInk_of_isWordStart {c : Char} (h : isWordStart c = true) : isInk c = true := by
  rcases Bool.or_eq_true_iff.mp h with hletter | hc
  · exact isInk_of_isLetter hletter
  · rw [beq_iff_eq.mp hc]
    decide

theorem isInk_of_isWordPart {c : Char} (h : isWordPart c = true) : isInk c = true := by
  rcases Bool.or_eq_true_iff.mp h with hstart | hdigit
  · exact isInk_of_isWordStart hstart
  · exact isInk_of_charIsDigit hdigit

/-- Characters of the tokens other than literals: neither blanks nor quotes. -/
def isPlain (c : Char) : Bool := isInk c && c != '"'

theorem isInk_of_isPlain {c : Char} (h : isPlain c = true) : isInk c = true :=
  (Bool.and_eq_true_iff.mp h).1

theorem ne_quote_of_isPlain {c : Char} (h : isPlain c = true) : c ≠ '"' :=
  bne_iff_ne.mp (Bool.and_eq_true_iff.mp h).2

/-- A class of characters of ink is plain if the quote is not in it. -/
theorem isPlain_of {p : Char → Bool} (hink : ∀ c, p c = true → isInk c = true)
    (hquote : p '"' = false) {c : Char} (h : p c = true) : isPlain c = true := by
  rw [isPlain, hink c h, Bool.true_and, bne_iff_ne]
  rintro rfl
  rw [hquote] at h
  cases h

theorem isPlain_of_isDigit {c : Char} (h : isDigit c = true) : isPlain c = true :=
  isPlain_of (fun _ => isInk_of_isDigit) (by decide) h

theorem isPlain_of_isLetter {c : Char} (h : isLetter c = true) : isPlain c = true :=
  isPlain_of (fun _ => isInk_of_isLetter) (by decide) h

theorem isPlain_of_charIsDigit {c : Char} (h : c.isDigit = true) : isPlain c = true :=
  isPlain_of (fun _ => isInk_of_charIsDigit) (by decide) h

theorem isPlain_of_isWordStart {c : Char} (h : isWordStart c = true) : isPlain c = true :=
  isPlain_of (fun _ => isInk_of_isWordStart) (by decide) h

theorem isPlain_of_isWordPart {c : Char} (h : isWordPart c = true) : isPlain c = true :=
  isPlain_of (fun _ => isInk_of_isWordPart) (by decide) h

/-! ## Runs of characters -/

theorem countWhile_le (p : Char → Bool) (cs : List Char) : countWhile p cs ≤ cs.length :=
  List.Sublist.length_le (List.takeWhile_sublist p)

theorem take_countWhile (p : Char → Bool) (cs : List Char) :
    cs.take (countWhile p cs) = cs.takeWhile p := by
  induction cs with
  | nil => rfl
  | cons c cs ih => by_cases hc : p c <;> simp_all [countWhile]

theorem drop_countWhile (p : Char → Bool) (cs : List Char) :
    cs.drop (countWhile p cs) = cs.dropWhile p := by
  induction cs with
  | nil => rfl
  | cons c cs ih => by_cases hc : p c <;> simp_all [countWhile]

theorem countWhile_append (p : Char → Bool) (a b : List Char) :
    countWhile p (a ++ b) =
      if countWhile p a = a.length then a.length + countWhile p b else countWhile p a := by
  unfold countWhile
  rw [List.takeWhile_append]
  split <;> simp

/-- A run that ends inside the first part is the run of that part. -/
theorem countWhile_cut {p : Char → Bool} {a b : List Char}
    (h : countWhile p (a ++ b) ≤ a.length) : countWhile p a = countWhile p (a ++ b) := by
  rw [countWhile_append] at h ⊢
  split
  · next ha =>
    rw [if_pos ha] at h
    omega
  · rfl

theorem countWhile_of_head {p : Char → Bool} {cs : List Char} (h : ∀ c ∈ cs.head?, p c = false) :
    countWhile p cs = 0 := by
  cases cs with
  | nil => rfl
  | cons c cs => simp [countWhile, h c rfl]

/-- A run does not go on over a character outside its class. -/
theorem countWhile_append_of_head {p : Char → Bool} {a b : List Char}
    (h : ∀ c ∈ b.head?, p c = false) : countWhile p (a ++ b) = countWhile p a := by
  rw [countWhile_append, countWhile_of_head h]
  split
  · next ha => exact ha.symm
  · rfl

theorem countWhile_cons {p : Char → Bool} {c : Char} (h : p c = true) (cs : List Char) :
    countWhile p (c :: cs) = countWhile p cs + 1 := by
  simp [countWhile, h]

theorem countWhile_le_countWhile {p q : Char → Bool} (h : ∀ c, p c = true → q c = true)
    (cs : List Char) : countWhile p cs ≤ countWhile q cs := by
  induction cs with
  | nil => exact Nat.le_refl 0
  | cons c cs ih =>
      by_cases hc : p c = true
      · rw [countWhile_cons hc, countWhile_cons (h c hc)]
        omega
      · rw [countWhile_of_head (by simpa using hc)]
        exact Nat.zero_le _

/-- A run goes on behind its first characters. -/
theorem countWhile_drop {q : Char → Bool} {n : Nat} {cs : List Char} (h : n ≤ countWhile q cs) :
    countWhile q cs = n + countWhile q (cs.drop n) := by
  induction n generalizing cs with
  | zero => rw [Nat.zero_add, List.drop_zero]
  | succ n ih =>
      cases cs with
      | nil => exact absurd h (Nat.not_succ_le_zero n)
      | cons c cs =>
          by_cases hc : q c = true
          · rw [countWhile_cons hc] at h ⊢
            rw [ih (by omega), List.drop_succ_cons]
            omega
          · rw [countWhile_of_head (by simpa using hc)] at h
            omega

theorem countWhile_add_length_dropWhile (p : Char → Bool) (cs : List Char) :
    countWhile p cs + (cs.dropWhile p).length = cs.length := by
  rw [← drop_countWhile, List.length_drop]
  have := countWhile_le p cs
  omega

theorem dropWhile_append_of_nil {p : Char → Bool} {a : List Char} (h : a.dropWhile p = [])
    (b : List Char) : (a ++ b).dropWhile p = b.dropWhile p := by
  rw [List.dropWhile_append, h]
  rfl

theorem dropWhile_append_of_cons {p : Char → Bool} {c : Char} {a tail : List Char}
    (h : a.dropWhile p = c :: tail) (b : List Char) :
    (a ++ b).dropWhile p = c :: (tail ++ b) := by
  rw [List.dropWhile_append, h]
  rfl

end Token

end LineBasic

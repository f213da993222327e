import LineBasic.Proofs.Grammar.Lexing

/-!
# Cursors and their unread characters

A reader of tokens moves a cursor past what it takes: the characters that are left, with the
positions that follow from them. So every reader is determined by what `Unread` finds, and a run of
readers is taken apart by two lemmas on sequences, one for reasoning forwards and one for reasoning
backwards.
-/

namespace LineBasic

namespace Cursor

/-- The cursor moved so far that only `rest` is left, behind a token. -/
def past (c : Cursor) (rest : List Char) : Cursor where
  rest := rest
  position := c.position + (c.rest.length - rest.length)
  last := c.skipGaps.position
  stop := c.position + (c.rest.length - rest.length)

theorem skipGaps_rest (c : Cursor) : c.skipGaps.rest = Unread.skip c.rest :=
  Token.drop_countWhile Text.isGap c.rest

theorem skipGaps_position (c : Cursor) :
    c.skipGaps.position = c.position + (c.rest.length - (Unread.skip c.rest).length) := by
  have := Token.countWhile_add_length_dropWhile Text.isGap c.rest
  simp only [skipGaps, Unread.skip]
  omega

theorem advance_skipGaps {c : Cursor} {s rest : List Char} (h : Unread.skip c.rest = s ++ rest) :
    c.skipGaps.advance s.length = c.past rest := by
  have hlength : (Unread.skip c.rest).length ≤ c.rest.length := by
    have := Token.countWhile_add_length_dropWhile Text.isGap c.rest
    simp only [Unread.skip]
    omega
  have hposition : c.skipGaps.position + s.length =
      c.position + (c.rest.length - rest.length) := by
    rw [skipGaps_position]
    rw [h, List.length_append] at hlength ⊢
    omega
  simp only [advance, past, skipGaps_rest, h, List.drop_left, hposition]

theorem token?_eq {length : List Char → Nat} (hm : Unread.Measures length) (c : Cursor) :
    c.token? length =
      (Unread.token? length c.rest).map fun found => (found.1, c.past found.2) := by
  simp only [token?, skipGaps_rest]
  cases hfound : Unread.token? length c.rest with
  | none =>
      rw [if_pos (Unread.token?_eq_none.mp hfound)]
      rfl
  | some found =>
      obtain ⟨s, rest⟩ := found
      obtain ⟨hskip, hs, hlength⟩ := (Unread.token?_eq_some hm).mp hfound
      rw [hskip, hlength, if_neg (by simpa using hs), List.take_left, String.ofList_toList,
        advance_skipGaps hskip]
      rfl

theorem symbol?_eq (s : String) (c : Cursor) :
    c.symbol? s = (Unread.symbol? s c.rest).map c.past := by
  simp only [symbol?, Unread.symbol?, skipGaps_rest]
  split
  · next hs =>
    obtain ⟨rest, hrest⟩ := List.isPrefixOf_iff_prefix.mp hs
    rw [← String.length_toList, advance_skipGaps hrest.symm, ← hrest, List.drop_left]
    rfl
  · rfl

theorem word?_eq (s : String) (c : Cursor) :
    c.word? s = (Unread.word? s c.rest).map c.past := by
  simp only [word?, Unread.word?, token?_eq Unread.measures_name]
  cases Unread.token? Token.nameLength c.rest with
  | none => rfl
  | some found =>
      simp only [Option.map_some]
      split <;> rfl

theorem operator?_eq (c : Cursor) :
    c.operator? =
      (Unread.operator? c.rest).map fun found => (found.1, c.past found.2) := by
  simp only [operator?, Unread.operator?, symbol?_eq]
  rw [List.map_findSome?]
  congr 1
  funext op
  rw [Function.comp_apply, Option.map_map, Option.map_map]
  rfl

/-- The cursor `c'` stands in the text of `c`, at the same place or behind a token. -/
def Reaches (c c' : Cursor) : Prop :=
  c'.position + c'.rest.length = c.position + c.rest.length ∧ (c' = c ∨ c'.stop = c'.position)

theorem Reaches.refl (c : Cursor) : c.Reaches c := ⟨rfl, .inl rfl⟩

theorem Reaches.trans {c c₁ c₂ : Cursor} (h₁ : c.Reaches c₁) (h₂ : c₁.Reaches c₂) :
    c.Reaches c₂ := by
  refine ⟨h₂.1.trans h₁.1, ?_⟩
  rcases h₂.2 with rfl | hstop
  · exact h₁.2
  · exact .inr hstop

theorem reaches_past {c : Cursor} {rest : List Char} (h : Unread.Takes c.rest rest) :
    c.Reaches (c.past rest) := by
  have hlength := h.length_le
  refine ⟨?_, .inr rfl⟩
  simp only [past]
  omega

theorem atEnd_eq (c : Cursor) : c.atEnd = (Unread.skip c.rest).isEmpty := by
  rw [atEnd, skipGaps_rest]

end Cursor

namespace Scan

variable {α β : Type} {p : Scan α} {f : α → Scan β} {c c' : Cursor} {a : α} {b : β}

theorem bind_of_ok (h : p c = .ok (a, c')) : (p >>= f) c = f a c' := by
  change (p c >>= fun r => f r.1 r.2) = _
  rw [h]
  rfl

theorem exists_of_bind_ok (h : (p >>= f) c = .ok (b, c')) :
    ∃ a c₁, p c = .ok (a, c₁) ∧ f a c₁ = .ok (b, c') := by
  change (p c >>= fun r => f r.1 r.2) = _ at h
  cases hp : p c with
  | error n =>
      rw [hp] at h
      cases h
  | ok r =>
      rw [hp] at h
      exact ⟨r.1, r.2, rfl, h⟩

variable {length : List Char → Nat} {s : String} {rest : List Char}

theorem token?_of_some (hm : Unread.Measures length)
    (h : Unread.token? length c.rest = some (s, rest)) :
    token? length c = .ok (some s, c.past rest) := by
  simp only [token?, Cursor.token?_eq hm, h, Option.map_some]

theorem token?_of_none (h : Unread.token? length c.rest = none) :
    token? length c = .ok (none, c) := by
  rw [Unread.token?_eq_none] at h
  simp only [token?, Cursor.token?, Cursor.skipGaps_rest, h, if_true]

theorem token_of_some (hm : Unread.Measures length)
    (h : Unread.token? length c.rest = some (s, rest)) :
    token length c = .ok (s, c.past rest) := by
  simp only [token, Cursor.token?_eq hm, h, Option.map_some]

theorem symbol?_of_some (h : Unread.symbol? s c.rest = some rest) :
    symbol? s c = .ok (true, c.past rest) := by
  simp only [symbol?, Cursor.symbol?_eq, h, Option.map_some]

theorem symbol?_of_none (h : Unread.symbol? s c.rest = none) : symbol? s c = .ok (false, c) := by
  simp only [symbol?, Cursor.symbol?_eq, h, Option.map_none]

theorem symbol_of_some (h : Unread.symbol? s c.rest = some rest) :
    symbol s c = .ok ((), c.past rest) := by
  simp only [symbol, Cursor.symbol?_eq, h, Option.map_some]

theorem exists_of_symbol_ok (h : symbol s c = .ok ((), c')) :
    ∃ rest, Unread.symbol? s c.rest = some rest ∧ c' = c.past rest := by
  cases hs : Unread.symbol? s c.rest with
  | none =>
      simp only [symbol, Cursor.symbol?_eq, hs, Option.map_none] at h
      cases h
  | some rest =>
      rw [symbol_of_some hs] at h
      cases h
      exact ⟨rest, rfl, rfl⟩

theorem word?_of_some (h : Unread.word? s c.rest = some rest) :
    word? s c = .ok (true, c.past rest) := by
  simp only [word?, Cursor.word?_eq, h, Option.map_some]

theorem word?_of_none (h : Unread.word? s c.rest = none) : word? s c = .ok (false, c) := by
  simp only [word?, Cursor.word?_eq, h, Option.map_none]

end Scan

end LineBasic

import LineBasic.Builtin

/-!
# Parts of a text that make up the whole

The functions that cut texts count positions from one, and take any integers. `LEFT` and `MID` at
the place behind it make up the whole text, wherever that place is: a negative count is one from the
end, for both of them alike. `RIGHT` is what `LEFT` leaves, and `MID` with a length is the start of
`MID` without one.
-/

namespace LineBasic

namespace Text

variable {cs : List Char} {i n : Int}

theorem sliceTo_of_nonneg (hi : 0 ≤ i) : sliceTo cs i = cs.take i.toNat := by
  rw [sliceTo, clampPosition, if_neg (by omega)]
  exact List.take_eq_take_min.symm

theorem sliceFrom_of_nonneg (hi : 0 ≤ i) : sliceFrom cs i = cs.drop i.toNat := by
  rw [sliceFrom, clampPosition, if_neg (by omega)]
  rcases Nat.le_total i.toNat cs.length with hle | hle
  · rw [Nat.min_eq_left hle]
  · rw [Nat.min_eq_right hle, List.drop_length, List.drop_eq_nil_of_le hle]

/-- What a text has between two positions is what it has from the first one on, cut at their
distance. -/
theorem slice_eq_sliceTo_sliceFrom (hi : 0 ≤ i) (hn : 0 ≤ n) :
    slice cs i (i + n) = sliceTo (sliceFrom cs i) n := by
  have hstop : slice cs i (i + n) = sliceFrom (sliceTo cs (i + n)) i := by
    rw [slice, sliceTo, sliceFrom]
    congr 1
    simp only [clampPosition, List.length_take]
    split <;> split <;> omega
  have hsum : (i + n).toNat = i.toNat + n.toNat := by omega
  rw [hstop, sliceTo_of_nonneg (by omega), sliceFrom_of_nonneg hi, sliceFrom_of_nonneg hi,
    sliceTo_of_nonneg hn, List.drop_take, hsum, Nat.add_sub_cancel_left]

/-- So many characters from the end are those from a position on that is counted from the start. -/
theorem sliceFrom_neg (hpos : 0 < n) (hn : n ≤ cs.length) :
    sliceFrom cs (-n) = sliceFrom cs (cs.length - n) := by
  rw [sliceFrom, sliceFrom, clampPosition, clampPosition, if_pos (by omega), if_neg (by omega)]
  congr 1
  omega

end Text

namespace Builtin

variable (h : Heap) (roll : Nat) (s : String)

theorem apply_len : apply h roll .len [.text s] = .ok (.int s.length) := by
  have hplain : h.plainText (.text s) = .ok s := h.displayText_text s
  rw [apply, hplain]
  rfl

theorem apply_left (n : Int) :
    apply h roll .left [.text s, .int n] =
      .ok (.text (String.ofList (Text.sliceTo s.toList n))) := by
  have hplain : h.plainText (.text s) = .ok s := h.displayText_text s
  rw [apply, leftPart, hplain]
  rfl

theorem apply_right (n : Int) :
    apply h roll .right [.text s, .int n] =
      .ok (.text (if 0 < n then String.ofList (Text.sliceFrom s.toList (-n)) else "")) := by
  have hplain : h.plainText (.text s) = .ok s := h.displayText_text s
  have hcount : (Value.int n).toInt = .ok n := rfl
  rw [apply, rightPart, hplain, hcount]
  by_cases hn : 0 < n
  · rw [if_pos hn]
    exact if_pos hn
  · rw [if_neg hn]
    exact if_neg hn

theorem apply_mid (i : Int) :
    apply h roll .mid [.text s, .int i] =
      .ok (.text (String.ofList (Text.sliceFrom s.toList (i - 1)))) := rfl

theorem apply_mid_length (i n : Int) :
    apply h roll .mid [.text s, .int i, .int n] =
      .ok (.text (String.ofList (Text.slice s.toList (i - 1) (i - 1 + n)))) := rfl

/-- What `LEFT` and `MID` leave of a text at the same place make it up. -/
theorem left_append_mid (n : Int) :
    h.add (.text (String.ofList (Text.sliceTo s.toList n)))
      (.text (String.ofList (Text.sliceFrom s.toList n))) = .ok (.text s) := by
  rw [Heap.add, Heap.joinShown, Heap.displayText_text, Heap.displayText_text]
  change Except.ok (Value.text (String.ofList _ ++ String.ofList _)) = _
  rw [← String.ofList_append, Text.sliceTo_append_sliceFrom, String.ofList_toList]

end Builtin

/-- The substring functions partition texts. What is left of a place and what is from it on make up
the text, wherever the place is; so do the characters up to a number from the end and so many from
the end. A part of a given length is the start of what begins at the same place, as long as there
are so many characters. -/
theorem substrings_partition (h : Heap) (roll : Nat) (s : String) :
    (∀ n : Int, ∃ left mid : String,
      Builtin.apply h roll .left [.text s, .int n] = .ok (.text left) ∧
      Builtin.apply h roll .mid [.text s, .int (n + 1)] = .ok (.text mid) ∧
      h.add (.text left) (.text mid) = .ok (.text s)) ∧
    (∀ n : Int, 0 ≤ n → n ≤ s.length → ∃ (length : Int) (left right : String),
      Builtin.apply h roll .len [.text s] = .ok (.int length) ∧
      Builtin.apply h roll .left [.text s, .int (length - n)] = .ok (.text left) ∧
      Builtin.apply h roll .right [.text s, .int n] = .ok (.text right) ∧
      h.add (.text left) (.text right) = .ok (.text s)) ∧
    (∀ i n : Int, 1 ≤ i → 0 ≤ n → ∃ rest mid : String,
      Builtin.apply h roll .mid [.text s, .int i] = .ok (.text rest) ∧
      Builtin.apply h roll .mid [.text s, .int i, .int n] = .ok (.text mid) ∧
      Builtin.apply h roll .left [.text rest, .int n] = .ok (.text mid) ∧
      Builtin.apply h roll .len [.text mid] = .ok (.int (max 0 (min n (s.length - i + 1))))) := by
  refine ⟨fun n => ?_, fun n hn hlength => ?_, fun i n hi hn => ?_⟩
  · refine ⟨_, _, Builtin.apply_left h roll s n, Builtin.apply_mid h roll s (n + 1), ?_⟩
    rw [Int.add_sub_cancel]
    exact Builtin.left_append_mid h s n
  · refine ⟨s.length, _, _, Builtin.apply_len h roll s, Builtin.apply_left h roll s _,
      Builtin.apply_right h roll s n, ?_⟩
    rcases Int.lt_or_eq_of_le hn with hpos | rfl
    · rw [if_pos hpos, Text.sliceFrom_neg hpos hlength]
      exact Builtin.left_append_mid h s _
    · have hwhole := Builtin.left_append_mid h s s.length
      rw [Text.sliceFrom_of_nonneg (by omega), Int.toNat_natCast, ← String.length_toList,
        List.drop_length] at hwhole
      rw [if_neg (by omega), Int.sub_zero]
      exact hwhole
  · have hcut : Text.slice s.toList (i - 1) (i - 1 + n) =
        Text.sliceTo (Text.sliceFrom s.toList (i - 1)) n :=
      Text.slice_eq_sliceTo_sliceFrom (by omega) hn
    refine ⟨_, _, Builtin.apply_mid h roll s i, Builtin.apply_mid_length h roll s i n, ?_, ?_⟩
    · rw [Builtin.apply_left, String.toList_ofList, hcut]
    · rw [Builtin.apply_len, String.length_ofList, hcut, Text.sliceTo_of_nonneg hn,
        Text.sliceFrom_of_nonneg (by omega), List.length_take, List.length_drop,
        String.length_toList]
      congr 3
      omega

/-- A place counted from the end, as many characters from the end, and a part that is cut off by the
end of the text. -/
theorem substrings_partition_basic :
    (Builtin.apply {} 0 .left [.text "BASIC", .int (-2)] = .ok (.text "BAS") ∧
      Builtin.apply {} 0 .mid [.text "BASIC", .int (-1)] = .ok (.text "IC") ∧
      Heap.add {} (.text "BAS") (.text "IC") = .ok (.text "BASIC")) ∧
    (0 ≤ (2 : Int) ∧ (2 : Int) ≤ "BASIC".length ∧
      Builtin.apply {} 0 .left [.text "BASIC", .int (5 - 2)] = .ok (.text "BAS") ∧
      Builtin.apply {} 0 .right [.text "BASIC", .int 2] = .ok (.text "IC")) ∧
    1 ≤ (4 : Int) ∧ 0 ≤ (9 : Int) ∧
      Builtin.apply {} 0 .mid [.text "BASIC", .int 4, .int 9] = .ok (.text "IC") ∧
      Builtin.apply {} 0 .len [.text "IC"] = .ok (.int 2) := by
  obtain ⟨hplace, hend, hpart⟩ := substrings_partition {} 0 "BASIC"
  obtain ⟨left, mid, hleft, hmid, hsum⟩ := hplace (-2)
  obtain ⟨length, left', right, hlength, hleft', hright, -⟩ := hend 2 (by decide) (by decide)
  obtain ⟨rest, part, -, hpart, -, hcount⟩ := hpart 4 9 (by decide) (by decide)
  obtain rfl : "BAS" = left := by cases hleft; rfl
  obtain rfl : "IC" = mid := by cases hmid; rfl
  obtain rfl : 5 = length := by cases hlength; rfl
  obtain rfl : "BAS" = left' := by cases hleft'; rfl
  obtain rfl : "IC" = right := by cases hright; rfl
  obtain rfl : "IC" = part := by cases hpart; rfl
  exact ⟨⟨hleft, hmid, hsum⟩, ⟨by decide, by decide, hleft', hright⟩, by decide, by decide, hpart,
    hcount⟩

end LineBasic

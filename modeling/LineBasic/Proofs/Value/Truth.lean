import LineBasic.Value.Compare
import Mathlib.Algebra.Group.Nat.Defs

/-!
# Positive values count as true

A statement may ask whether a value is above zero, and later whether it counts as true. The two
questions agree on positive values. For integers and truth values this is plain; for floating-point
numbers the first question is answered by an exact comparison and the second by the equality of the
number with zero, so that both have to be traced to the bits.
-/

namespace LineBasic

namespace Binary

open Float.Model

theorem unpack_zero : (0 : Float).toModel.unpack = .zero .positive := by
  with_unfolding_all rfl

/-- What compares equal to a zero is a zero, of either sign. -/
theorem eq_zero_of_compare {u : UnpackedFloat} {s : UnpackedFloat.Sign}
    (h : u.compare (.zero s) = some .eq) : ∃ s', u = .zero s' := by
  cases u with
  | zero s' => exact ⟨s', rfl⟩
  | infinity s' => cases s' <;> cases h
  | notANumber => cases h
  | finite s' mantissa exponent hpos => cases s' <;> cases h

/-- The bits of a zero have neither an exponent nor a fraction. -/
theorem fields_of_unpack_zero {b : BitVec Format.binary64.numBits} {s : UnpackedFloat.Sign}
    (h : UnpackedFloat.unpack Format.binary64 b = .zero s) :
    b.toNat / 2 ^ 52 % 2 ^ 11 = 0 ∧ b.toNat % 2 ^ 52 = 0 := by
  unfold UnpackedFloat.unpack at h
  dsimp only at h
  by_cases htop : UnpackedFloat.unpackExponent b = -BitVec.ofNat _ 1
  · rw [if_pos htop] at h
    split at h <;> cases h
  · rw [if_neg htop] at h
    by_cases hexponent : UnpackedFloat.unpackExponent b = BitVec.ofNat _ 0
    · rw [if_pos hexponent] at h
      by_cases hmantissa : UnpackedFloat.unpackMantissa b = BitVec.ofNat _ 0
      · have hfield := congrArg BitVec.toNat hexponent
        have hfraction := congrArg BitVec.toNat hmantissa
        simp [UnpackedFloat.unpackExponent, Nat.shiftRight_eq_div_pow] at hfield
        simp [UnpackedFloat.unpackMantissa] at hfraction
        exact ⟨by simpa using hfield, by simpa using hfraction⟩
      · rw [dif_neg hmantissa] at h
        cases h
    · rw [if_neg hexponent] at h
      cases h

theorem view_of_beq_zero {x : Float} (h : (x == 0) = true) :
    ∃ negative, view x = .finite negative 0 (-1074) := by
  have hcompare : x.toModel.unpack.compare (.zero .positive) = some .eq := by
    rw [← unpack_zero]
    exact beq_iff_eq.mp h
  obtain ⟨s, hs⟩ := eq_zero_of_compare hcompare
  obtain ⟨hfield, hfraction⟩ := fields_of_unpack_zero hs
  have hbits : x.toBits.toNat = x.toModel.toBits.toBitVec.toNat := rfl
  refine ⟨decide (Nat.pow 2 63 ≤ x.toBits.toNat), ?_⟩
  unfold view
  dsimp only
  have h1 : x.toBits.toNat / Nat.pow 2 52 % 2048 = 0 := hfield
  have h2 : x.toBits.toNat % Nat.pow 2 52 = 0 := hfraction
  rw [h1, h2]
  rfl

theorem ratio_zero (e : Int) : (ratio 0 e).1 = 0 := by
  unfold ratio scaleDown
  split
  · rfl
  · exact Nat.zero_mul _

/-- A floating-point number that is equal to zero compares equal to the integer zero. -/
theorem compareInt_zero_of_beq {x : Float} (h : (x == 0) = true) :
    compareInt? 0 x = some .eq := by
  obtain ⟨negative, hview⟩ := view_of_beq_zero h
  unfold compareInt?
  rw [hview]
  dsimp only
  rw [ratio_zero, Int.zero_mul]
  cases negative <;> rfl

end Binary

/-- A positive value counts as true. -/
theorem Heap.isTrue_of_positive (h : Heap) {v : Value} (hv : v.greater (.int 0) = .ok true) :
    h.isTrue v = true := by
  cases v with
  | number x =>
      cases x with
      | int n =>
          have hgt : (some (compare n 0) == some Ordering.gt) = true := Except.ok.inj hv
          have hn : compare n 0 = .gt := by simpa using hgt
          have hpos : 0 < n := Int.compare_eq_gt.mp hn
          simp only [Heap.isTrue, Number.isTrue, bne_iff_ne]
          omega
      | real x =>
          have hgt : ((Binary.compareInt? 0 x).map Ordering.swap == some .gt) = true :=
            Except.ok.inj hv
          simp only [Heap.isTrue, Number.isTrue, bne, Bool.not_eq_true']
          cases hzero : x == 0 with
          | false => rfl
          | true =>
              rw [Binary.compareInt_zero_of_beq hzero] at hgt
              cases hgt
      | complex re im => cases hv
  | text s => cases hv
  | truth b =>
      cases b with
      | false => cases hv
      | true => rfl
  | nothing => cases hv
  | array ref => cases hv

end LineBasic

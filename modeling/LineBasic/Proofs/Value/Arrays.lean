import LineBasic.Proofs.Table
import LineBasic.Value.Basic

/-!
# The store of arrays

An array is known by its place in the store, and a value may refer to one. A store is closed when
its arrays refer to arrays of the same store only, and no subscript is an array. `Reaches` follows
elements from one value to the next. Writing an element changes one array, and a new array changes
none, so whatever is reached without them is as before.
-/

namespace LineBasic

namespace Value

def IsPlain (v : Value) : Prop := ∀ ref, v ≠ .array ref

/-- A value that refers to none but the arrays of a store of the given size. -/
def Within (size : Nat) (v : Value) : Prop := ∀ ref, v = .array ref → ref < size

variable {v : Value} {size size' : Nat}

@[simp] theorem isPlain_number (x : Number) : IsPlain (.number x) := nofun

@[simp] theorem isPlain_text (s : String) : IsPlain (.text s) := nofun

@[simp] theorem isPlain_truth (b : Bool) : IsPlain (.truth b) := nofun

@[simp] theorem isPlain_nothing : IsPlain .nothing := nofun

theorem IsPlain.within (h : v.IsPlain) (size : Nat) : v.Within size :=
  fun ref hv => absurd hv (h ref)

theorem Within.mono (h : v.Within size) (hle : size ≤ size') : v.Within size' :=
  fun ref hv => Nat.lt_of_lt_of_le (h ref hv) hle

theorem within_array {ref : Nat} : Within size (.array ref) ↔ ref < size :=
  ⟨fun h => h ref rfl, fun h ref' hv => by cases hv; exact h⟩

theorem isPlain_subscript (h : v.IsPlain) : v.subscript.IsPlain := by
  unfold subscript
  split
  · split <;> simp
  · exact h

/-- What can be a subscript is no array. -/
theorem isPlain_of_asKey {key : Value} (h : v.asKey = .ok key) : key.IsPlain := by
  unfold asKey at h
  split at h
  · cases h
  · next hplain =>
    cases h
    exact isPlain_subscript hplain

end Value

namespace Heap

variable {h : Heap} {ref ref' : Nat} {key v w u : Value} {cells : Cells}

/-! ## Writing to the store -/

@[simp] theorem size_alloc : (h.alloc cells).2.arrays.size = h.arrays.size + 1 :=
  Array.size_push cells

@[simp] theorem size_write : (h.write ref key v).arrays.size = h.arrays.size := by
  simp [write]

/-- There is nothing behind the end of the store. -/
theorem cells_of_size_le (href : h.arrays.size ≤ ref) : h.cells ref = Table.empty := by
  simp [Heap.cells, Array.getD, Nat.not_lt.mpr href]

theorem cells_alloc_of_ne (hne : ref ≠ h.arrays.size) :
    (h.alloc cells).2.cells ref = h.cells ref := by
  simp only [Heap.cells, alloc, Array.getD_eq_getD_getElem?, Array.getElem?_push, if_neg hne]

theorem cells_alloc_self : (h.alloc cells).2.cells h.arrays.size = cells := by
  simp [Heap.cells, alloc]

theorem cells_write_self (href : ref < h.arrays.size) :
    (h.write ref key v).cells ref = (h.cells ref).insert key v := by
  simp only [Heap.cells, write, Array.getD_eq_getD_getElem?, Array.getElem?_modify]
  simp [href]

theorem cells_write_of_ne (hne : ref' ≠ ref) : (h.write ref key v).cells ref' = h.cells ref' := by
  simp only [Heap.cells, write, Array.getD_eq_getD_getElem?, Array.getElem?_modify,
    if_neg hne.symm]

/-- A write behind the end of the store is lost. -/
theorem cells_write_of_unwritten (h' : ¬(ref' = ref ∧ ref < h.arrays.size)) :
    (h.write ref key v).cells ref' = h.cells ref' := by
  by_cases hsame : ref' = ref
  · have hbeyond : h.arrays.size ≤ ref := Nat.not_lt.mp fun hlt => h' ⟨hsame, hlt⟩
    rw [hsame, cells_of_size_le hbeyond, cells_of_size_le (by rwa [size_write])]
  · exact cells_write_of_ne hsame

/-! ## Closed stores -/

/-- Subscripts are not arrays, and elements refer to arrays of the store. -/
structure Closed (h : Heap) : Prop where
  keys : ∀ ref, ∀ k ∈ (h.cells ref).keys, k.IsPlain
  values : ∀ ref, ∀ v ∈ (h.cells ref).values, v.Within h.arrays.size

theorem closed_empty : Closed {} where
  keys ref k hk := by
    rw [cells_of_size_le (Nat.zero_le ref)] at hk
    cases hk
  values ref v hv := by
    rw [cells_of_size_le (Nat.zero_le ref)] at hv
    cases hv

theorem Closed.alloc (hclosed : h.Closed) : (h.alloc .empty).2.Closed where
  keys ref k hk := by
    by_cases hnew : ref = h.arrays.size
    · rw [hnew, cells_alloc_self] at hk
      cases hk
    · rw [cells_alloc_of_ne hnew] at hk
      exact hclosed.keys ref k hk
  values ref v hv := by
    by_cases hnew : ref = h.arrays.size
    · rw [hnew, cells_alloc_self] at hv
      cases hv
    · rw [cells_alloc_of_ne hnew] at hv
      exact (hclosed.values ref v hv).mono (by simp)

theorem Closed.write (hclosed : h.Closed) (hkey : key.IsPlain) (hv : v.Within h.arrays.size) :
    (h.write ref key v).Closed where
  keys ref' k hk := by
    by_cases hsame : ref' = ref ∧ ref < h.arrays.size
    · rw [hsame.1, cells_write_self hsame.2] at hk
      rcases Table.mem_keys_insert hk with rfl | hk
      · exact hkey
      · exact hclosed.keys ref k hk
    · exact hclosed.keys ref' k (cells_write_of_unwritten hsame ▸ hk)
  values ref' w hw := by
    rw [size_write]
    by_cases hsame : ref' = ref ∧ ref < h.arrays.size
    · rw [hsame.1, cells_write_self hsame.2] at hw
      rcases Table.mem_values_insert hw with rfl | hw
      · exact hv
      · exact hclosed.values ref w hw
    · exact hclosed.values ref' w (cells_write_of_unwritten hsame ▸ hw)

/-! ## What a value reaches -/

/-- A value reaches itself, and the elements of the arrays that it reaches. -/
inductive Reaches (h : Heap) (v : Value) : Value → Prop where
  | self : Reaches h v v
  | element {ref : Nat} {w : Value} (hreaches : Reaches h v (.array ref))
      (hw : w ∈ (h.cells ref).values) : Reaches h v w

theorem Reaches.trans (hu : h.Reaches v u) (hw : h.Reaches u w) : h.Reaches v w := by
  induction hw with
  | self => exact hu
  | element _ hmem ih => exact .element ih hmem

/-- What an element of an array reaches, the array reaches as well. -/
theorem Reaches.head (hu : u ∈ (h.cells ref).values) (hw : h.Reaches u w) :
    h.Reaches (.array ref) w :=
  (Reaches.element .self hu).trans hw

/-- What a value reaches is the value itself, or is reached by an element of the array that it is.
-/
theorem Reaches.eq_or_head (hw : h.Reaches v w) :
    v = w ∨ ∃ ref u, v = .array ref ∧ u ∈ (h.cells ref).values ∧ h.Reaches u w := by
  induction hw with
  | self => exact .inl rfl
  | element _ hmem ih =>
      rcases ih with rfl | ⟨ref', u, rfl, hu, hreaches⟩
      · exact .inr ⟨_, _, rfl, hmem, .self⟩
      · exact .inr ⟨ref', u, rfl, hu, .element hreaches hmem⟩

theorem Reaches.within (hclosed : h.Closed) (hv : v.Within h.arrays.size) (hw : h.Reaches v w) :
    w.Within h.arrays.size := by
  cases hw with
  | self => exact hv
  | element _ hmem => exact hclosed.values _ _ hmem

end Heap

end LineBasic

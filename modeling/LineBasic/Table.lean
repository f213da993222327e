/-!
# Tables in order of first entry

A table maps keys to values and remembers the order in which the keys were first entered. Entering a
key again keeps its place, and the key as it was first written, and replaces the value.
-/

namespace LineBasic

/-- Keys with their values, in the order of first entry. -/
structure Table (κ α : Type) where
  entries : List (κ × α) := []

namespace Table

variable {κ α : Type} [BEq κ]

def empty : Table κ α := {}

instance : Inhabited (Table κ α) := ⟨empty⟩

/-- The value of the first entry with this key in a list of entries. -/
def findIn (k : κ) : List (κ × α) → Option α
  | [] => none
  | (k', v) :: rest => if k' == k then some v else findIn k rest

/-- The entries with the value of a key replaced, or with a new entry behind. -/
def insertIn (k : κ) (v : α) : List (κ × α) → List (κ × α)
  | [] => [(k, v)]
  | (k', v') :: rest => if k' == k then (k', v) :: rest else (k', v') :: insertIn k v rest

def get? (t : Table κ α) (k : κ) : Option α := findIn k t.entries

def contains (t : Table κ α) (k : κ) : Bool := (t.get? k).isSome

def insert (t : Table κ α) (k : κ) (v : α) : Table κ α := { entries := insertIn k v t.entries }

def keys (t : Table κ α) : List κ := t.entries.map (·.1)

def values (t : Table κ α) : List α := t.entries.map (·.2)

def size (t : Table κ α) : Nat := t.entries.length

/-- The table of a list of entries; a later entry replaces the value of an earlier one. -/
def ofList (entries : List (κ × α)) : Table κ α :=
  entries.foldl (fun t e => t.insert e.1 e.2) empty

@[simp] theorem get?_empty (k : κ) : (empty : Table κ α).get? k = none := rfl

theorem findIn_insertIn [LawfulBEq κ] (k k' : κ) (v : α) (l : List (κ × α)) :
    findIn k' (insertIn k v l) = if k == k' then some v else findIn k' l := by
  induction l with
  | nil => rfl
  | cons e rest ih =>
    obtain ⟨a, b⟩ := e
    by_cases ha : a = k
    · subst ha
      by_cases hk : a = k' <;> simp [insertIn, findIn, hk]
    · by_cases hk : k = k'
      · subst hk
        simp [insertIn, findIn, ha, ih]
      · by_cases hak : a = k' <;> simp_all [insertIn, findIn]

/-- A key reads what was last entered under it, and all other keys read as before. -/
@[simp] theorem get?_insert [LawfulBEq κ] (t : Table κ α) (k k' : κ) (v : α) :
    (t.insert k v).get? k' = if k == k' then some v else t.get? k' :=
  findIn_insertIn k k' v t.entries

theorem get?_foldl_of_not_mem [LawfulBEq κ] {k : κ} (entries : List (κ × α)) (t : Table κ α)
    (h : k ∉ entries.map Prod.fst) :
    (entries.foldl (fun t e => t.insert e.1 e.2) t).get? k = t.get? k := by
  induction entries generalizing t with
  | nil => rfl
  | cons e entries ih =>
      simp only [List.map_cons, List.mem_cons, not_or] at h
      rw [List.foldl_cons, ih _ h.2, get?_insert, if_neg (by simpa using fun he => h.1 he.symm)]

theorem get?_foldl_of_mem [LawfulBEq κ] {k : κ} {v : α} (entries : List (κ × α)) (t : Table κ α)
    (hdistinct : (entries.map Prod.fst).Nodup) (h : (k, v) ∈ entries) :
    (entries.foldl (fun t e => t.insert e.1 e.2) t).get? k = some v := by
  induction entries generalizing t with
  | nil => cases h
  | cons e entries ih =>
      rw [List.map_cons, List.nodup_cons] at hdistinct
      rcases List.mem_cons.mp h with rfl | h
      · rw [List.foldl_cons, get?_foldl_of_not_mem _ _ hdistinct.1, get?_insert,
          if_pos (beq_self_eq_true k)]
      · rw [List.foldl_cons, ih _ hdistinct.2 h]

/-- A table of distinct keys reads its entries and nothing else. -/
theorem get?_ofList [LawfulBEq κ] {k : κ} {v : α} {entries : List (κ × α)}
    (hdistinct : (entries.map Prod.fst).Nodup) :
    (ofList entries).get? k = some v ↔ (k, v) ∈ entries := by
  constructor
  · intro h
    by_cases hk : k ∈ entries.map Prod.fst
    · obtain ⟨⟨k', v'⟩, hmem, rfl⟩ := List.mem_map.mp hk
      have hv : some v = some v' := h.symm.trans (get?_foldl_of_mem entries empty hdistinct hmem)
      cases hv
      exact hmem
    · have hnone := get?_foldl_of_not_mem entries empty hk
      rw [ofList, hnone] at h
      cases h
  · exact get?_foldl_of_mem entries empty hdistinct

end Table

end LineBasic

import LineBasic.Table
import Mathlib.Data.List.Induction

/-!
# Tables with mapped values, and their entries

Mapping the values or the keys of a table commutes with looking up and entering. What a table reads
is the value of one of its entries, and an entry is what was entered or was there before. A table of
a list of entries lists the keys in order of first entry, each with the value entered last.
-/

namespace LineBasic

namespace Table

variable {κ α β : Type} [BEq κ]

def map (g : α → β) (t : Table κ α) : Table κ β :=
  { entries := t.entries.map fun e => (e.1, g e.2) }

theorem get?_map (g : α → β) (t : Table κ α) (k : κ) : (t.map g).get? k = (t.get? k).map g := by
  unfold get? map
  induction t.entries with
  | nil => rfl
  | cons e rest ih =>
      by_cases h : e.1 == k
      · simp [findIn, h]
      · simpa [findIn, h] using ih

theorem map_insert (g : α → β) (t : Table κ α) (k : κ) (v : α) :
    (t.insert k v).map g = (t.map g).insert k (g v) := by
  unfold insert map
  congr 1
  dsimp only
  induction t.entries with
  | nil => rfl
  | cons e rest ih =>
      by_cases h : e.1 == k
      · simp [insertIn, h]
      · simpa [insertIn, h] using ih

theorem mem_of_findIn {k : κ} {v : α} {entries : List (κ × α)} (h : findIn k entries = some v) :
    ∃ k', (k', v) ∈ entries := by
  induction entries with
  | nil => cases h
  | cons e rest ih =>
      rw [findIn] at h
      split at h
      · cases h
        exact ⟨e.1, by simp⟩
      · obtain ⟨k', hk'⟩ := ih h
        exact ⟨k', List.mem_cons_of_mem _ hk'⟩

theorem mem_values_of_get? {t : Table κ α} {k : κ} {v : α} (h : t.get? k = some v) :
    v ∈ t.values :=
  let ⟨k', hmem⟩ := mem_of_findIn h
  List.mem_map.mpr ⟨(k', v), hmem, rfl⟩

/-- What was entered last under a key that equals itself is read, whatever the other keys equal. -/
theorem get?_insert_self {t : Table κ α} {k : κ} {v : α} (hk : (k == k) = true) :
    (t.insert k v).get? k = some v := by
  unfold insert get?
  dsimp only
  induction t.entries with
  | nil => simp [insertIn, findIn, hk]
  | cons e rest ih =>
      rw [insertIn]
      split
      · next he => simp [findIn, he]
      · next he => simpa [findIn, he] using ih

/-- An entry of a table after a value has been entered is that one, or was there before. -/
theorem mem_insertIn {k : κ} {v : α} {e : κ × α} {entries : List (κ × α)}
    (h : e ∈ insertIn k v entries) : e.2 = v ∨ e ∈ entries := by
  induction entries with
  | nil =>
      rw [insertIn, List.mem_singleton] at h
      simp [h]
  | cons e' rest ih =>
      rw [insertIn] at h
      split at h
      · rcases List.mem_cons.mp h with rfl | h
        · exact .inl rfl
        · exact .inr (List.mem_cons_of_mem _ h)
      · rcases List.mem_cons.mp h with rfl | h
        · exact .inr (by simp)
        · exact (ih h).imp id (List.mem_cons_of_mem _)

theorem mem_keys_insert {t : Table κ α} {k k' : κ} {v : α} (h : k' ∈ (t.insert k v).keys) :
    k' = k ∨ k' ∈ t.keys := by
  have hkeys (entries : List (κ × α)) (hmem : k' ∈ (insertIn k v entries).map Prod.fst) :
      k' = k ∨ k' ∈ entries.map Prod.fst := by
    induction entries with
    | nil => simpa [insertIn] using hmem
    | cons e rest ih =>
        rw [insertIn] at hmem
        split at hmem
        · exact .inr hmem
        · rcases List.mem_cons.mp hmem with rfl | hmem
          · exact .inr List.mem_cons_self
          · exact (ih hmem).imp id (List.mem_cons_of_mem _)
  exact hkeys t.entries h

theorem mem_values_insert {t : Table κ α} {k : κ} {v w : α} (h : w ∈ (t.insert k v).values) :
    w = v ∨ w ∈ t.values := by
  obtain ⟨e, he, rfl⟩ := List.mem_map.mp h
  exact (mem_insertIn he).imp id fun hmem => List.mem_map.mpr ⟨e, hmem, rfl⟩

section Keys

variable {κ' : Type} [BEq κ'] {f : κ → κ'}

def mapKeys (f : κ → κ') (t : Table κ α) : Table κ' α :=
  { entries := t.entries.map fun e => (f e.1, e.2) }

/-- A map that does not confuse keys commutes with looking up. -/
theorem get?_mapKeys (hf : ∀ k k', (f k == f k') = (k == k')) (t : Table κ α) (k : κ) :
    (t.mapKeys f).get? (f k) = t.get? k := by
  unfold get? mapKeys
  induction t.entries with
  | nil => rfl
  | cons e rest ih => simp only [List.map_cons, findIn, hf, ih]

theorem mapKeys_insert (hf : ∀ k k', (f k == f k') = (k == k')) (t : Table κ α) (k : κ) (v : α) :
    (t.insert k v).mapKeys f = (t.mapKeys f).insert (f k) v := by
  unfold insert mapKeys
  congr 1
  dsimp only
  induction t.entries with
  | nil => rfl
  | cons e rest ih =>
      simp only [insertIn, List.map_cons, hf]
      split
      · rfl
      · rw [List.map_cons, ih]

theorem values_mapKeys {ι ι' : Type} (f : ι → ι') (t : Table ι α) :
    (t.mapKeys f).values = t.values := by
  simp [values, mapKeys]

end Keys

theorem ofList_concat (entries : List (κ × α)) (e : κ × α) :
    ofList (entries ++ [e]) = (ofList entries).insert e.1 e.2 := by
  simp [ofList]

section Lawful

variable [LawfulBEq κ] {t : Table κ α} {k : κ} {v : α}

/-- A key keeps its place when it is entered again. -/
theorem keys_insert :
    (t.insert k v).keys = if t.keys.contains k then t.keys else t.keys ++ [k] := by
  unfold insert keys
  dsimp only
  induction t.entries with
  | nil => rfl
  | cons e rest ih =>
      by_cases hk : e.1 = k
      · simp [insertIn, hk]
      · have hk' : k ≠ e.1 := fun h => hk h.symm
        simp only [insertIn, beq_eq_false_iff_ne.mpr hk, Bool.false_eq_true, if_false,
          List.map_cons, ih, List.contains_cons, beq_eq_false_iff_ne.mpr hk', Bool.false_or]
        split <;> rfl

/-- The entries of a table of distinct keys, read key by key. -/
theorem entries_eq_map (h : t.keys.Nodup) (d : α) :
    t.entries = t.keys.map fun k => (k, (t.get? k).getD d) := by
  have hentries (entries : List (κ × α)) (h : (entries.map Prod.fst).Nodup) :
      entries = (entries.map Prod.fst).map fun k => (k, (findIn k entries).getD d) := by
    induction entries with
    | nil => rfl
    | cons e rest ih =>
        rw [List.map_cons, List.nodup_cons] at h
        have hrest (k : κ) (hk : k ∈ rest.map Prod.fst) :
            (k, (findIn k (e :: rest)).getD d) = (k, (findIn k rest).getD d) := by
          have hne : e.1 ≠ k := fun he => h.1 (he ▸ hk)
          simp [findIn, hne]
        rw [List.map_cons, List.map_cons, List.map_congr_left hrest, ← ih h.2]
        simp [findIn]
  exact hentries t.entries h

/-- The values of a table of distinct keys, read key by key. -/
theorem values_eq_map (h : t.keys.Nodup) (d : α) :
    t.values = t.keys.map fun k => (t.get? k).getD d := by
  have hvalues := congrArg (List.map Prod.snd) (entries_eq_map h d)
  rwa [List.map_map] at hvalues

/-- A key behind others is one of them again, or comes last. -/
theorem eraseDups_concat (ks : List κ) (k : κ) :
    (ks ++ [k]).eraseDups = if ks.contains k then ks.eraseDups else ks.eraseDups ++ [k] := by
  rw [List.eraseDups_append, List.cons_removeAll, List.nil_removeAll]
  by_cases hk : k ∈ ks <;> simp [hk, List.eraseDups_cons]

theorem nodup_eraseDups (ks : List κ) : ks.eraseDups.Nodup := by
  induction ks using List.reverseRecOn with
  | nil => exact List.nodup_nil
  | append_singleton ks k ih =>
      rw [eraseDups_concat]
      split
      · exact ih
      · next hk =>
        rw [List.contains_iff_mem] at hk
        refine List.nodup_append.mpr ⟨ih, by simp, fun a ha b hb => ?_⟩
        rw [List.mem_singleton.mp hb]
        exact fun hab => hk (List.mem_eraseDups.mp (hab ▸ ha))

/-- A table that lists its keys in order of first entry does so after one more entry. -/
theorem keys_insert_of_eraseDups {ks : List κ} (h : t.keys = ks.eraseDups) :
    (t.insert k v).keys = (ks ++ [k]).eraseDups := by
  have hsame : ks.eraseDups.contains k = ks.contains k := by
    rw [Bool.eq_iff_iff, List.contains_iff_mem, List.contains_iff_mem, List.mem_eraseDups]
  rw [keys_insert, h, hsame, eraseDups_concat]

variable (entries : List (κ × α))

/-- A key reads the value entered last. -/
theorem get?_ofList_eq_lookup (k : κ) : (ofList entries).get? k = entries.reverse.lookup k := by
  induction entries using List.reverseRecOn with
  | nil => rfl
  | append_singleton entries e ih =>
      rw [ofList_concat, get?_insert, ih, List.reverse_append, List.reverse_singleton,
        List.singleton_append, List.lookup_cons]
      by_cases hk : e.1 = k
      · simp [hk]
      · simp [hk, beq_eq_false_iff_ne.mpr (Ne.symm hk)]

/-- The keys stand in order of first entry. -/
theorem keys_ofList : (ofList entries).keys = (entries.map Prod.fst).eraseDups := by
  induction entries using List.reverseRecOn with
  | nil => rfl
  | append_singleton entries e ih =>
      rw [ofList_concat, keys_insert_of_eraseDups ih, List.map_append, List.map_singleton]

theorem nodup_keys_ofList : (ofList entries).keys.Nodup := by
  rw [keys_ofList]
  exact nodup_eraseDups _

theorem values_ofList (d : α) : (ofList entries).values =
    (entries.map Prod.fst).eraseDups.map fun k => (entries.reverse.lookup k).getD d := by
  rw [values_eq_map (nodup_keys_ofList entries) d, keys_ofList]
  simp only [get?_ofList_eq_lookup]

end Lawful

end Table

end LineBasic

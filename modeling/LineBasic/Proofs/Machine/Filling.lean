import LineBasic.Proofs.Machine.Simulation
import LineBasic.Proofs.Value.Showing

/-!
# Arrays as finite maps

Elements are written under integers and texts. As keys of a table these are told apart like any
other data, which values in general are not, so an array that is filled this way is a table of a
list of entries with its keys mapped to values. What it reads and the order in which it is shown
follow from there.
-/

namespace LineBasic

/-- A subscript that is an integer or a text. -/
inductive Subscript where
  | int (n : Int)
  | text (s : String)
deriving DecidableEq

def Subscript.value : Subscript → Value
  | .int n => .int n
  | .text s => .text s

variable {name : String} {ref : Nat} {h : Heap} {m : Machine}

namespace Subscript

/-- Different subscripts address different elements. -/
theorem beq_value (k k' : Subscript) : (k.value == k'.value) = (k == k') := by
  change Value.sameKey k.value k'.value = _
  rw [Bool.eq_iff_iff]
  cases k <;> cases k' <;>
    simp [value, Value.sameKey, Value.number?, Number.equal, Value.isNaN]

theorem asKey_value (k : Subscript) : k.value.asKey = .ok k.value := by
  cases k <;> rfl

theorem isPlain_value (k : Subscript) : k.value.IsPlain := by
  cases k <;> simp [value]

end Subscript

/-- Elements and the subscripts that they are written under, in the order of writing. -/
abbrev ElementWrites := List (Subscript × Value)

namespace Heap

/-- Writes elements of an array one after another. -/
def writeAll (h : Heap) (ref : Nat) (writes : ElementWrites) : Heap :=
  writes.foldl (fun h w => h.write ref w.1.value w.2) h

variable (writes : ElementWrites)

@[simp] theorem size_writeAll : (h.writeAll ref writes).arrays.size = h.arrays.size := by
  unfold writeAll
  induction writes generalizing h with
  | nil => rfl
  | cons w writes ih => rw [List.foldl_cons, ih, size_write]

theorem cells_writeAll (href : ref < h.arrays.size) (hempty : h.cells ref = Table.empty) :
    (h.writeAll ref writes).cells ref = (Table.ofList writes).mapKeys Subscript.value := by
  induction writes using List.reverseRecOn with
  | nil => exact hempty
  | append_singleton writes w ih =>
      have hlast : h.writeAll ref (writes ++ [w]) =
          (h.writeAll ref writes).write ref w.1.value w.2 := by
        simp [writeAll]
      rw [hlast, cells_write_self (by rwa [size_writeAll]), ih, Table.ofList_concat,
        Table.mapKeys_insert Subscript.beq_value]

theorem Closed.writeAll (hclosed : h.Closed)
    (hwrites : ∀ w ∈ writes, w.2.Within h.arrays.size) : (h.writeAll ref writes).Closed := by
  unfold Heap.writeAll
  induction writes generalizing h with
  | nil => exact hclosed
  | cons w writes ih =>
      rw [List.forall_mem_cons] at hwrites
      refine ih (hclosed.write w.1.isPlain_value hwrites.1) ?_
      simpa using hwrites.2

end Heap

namespace Machine

/-- Writes elements of an array one after another. -/
def setElements (name : String) : ElementWrites → Action Unit
  | [] => return
  | (k, v) :: writes => do
    setElement name k.value v
    setElements name writes

theorem run_arrayOf (hname : m.vars.get? name = some (.array ref)) :
    (arrayOf name).run.run m = (.ok ref, m) := by
  simp only [arrayOf, run_bind, run_get, hname, run_pure]

theorem run_setElement (hname : m.vars.get? name = some (.array ref)) (k : Subscript) (v : Value) :
    (setElement name k.value v).run.run m =
      (.ok (), { m with heap := m.heap.write ref k.value v }) := by
  simp only [setElement, run_bind, run_arrayOf hname, run_liftM, k.asKey_value, run_modify]

theorem run_getElement (hname : m.vars.get? name = some (.array ref)) (k : Subscript) :
    (getElement name k.value).run.run m =
      (.ok (((m.heap.cells ref).get? k.value).getD (.int 0)), m) := by
  simp only [getElement, run_bind, run_arrayOf hname, run_liftM, k.asKey_value, run_get, run_pure]

theorem run_setElements (hname : m.vars.get? name = some (.array ref)) (writes : ElementWrites) :
    (setElements name writes).run.run m =
      (.ok (), { m with heap := m.heap.writeAll ref writes }) := by
  induction writes generalizing m with
  | nil => rfl
  | cons w writes ih =>
      rw [setElements, run_bind, run_setElement hname]
      exact ih hname

def declared (m : Machine) (name : String) : Machine :=
  { m with
    heap := (m.heap.alloc .empty).2, vars := m.vars.insert name (.array m.heap.arrays.size) }

/-- The machine after elements have been written to an array that was declared before. -/
def filled (m : Machine) (name : String) (writes : ElementWrites) : Machine :=
  { m.declared name with
    heap := (m.heap.alloc .empty).2.writeAll m.heap.arrays.size writes }

theorem run_declareArray (name : String) (m : Machine) :
    (declareArray name).run.run m = (.ok (), m.declared name) := rfl

theorem run_filled (m : Machine) (name : String) (writes : ElementWrites) :
    (do
      declareArray name
      setElements name writes : Action Unit).run.run m = (.ok (), m.filled name writes) := by
  have hname : (m.declared name).vars.get? name = some (.array m.heap.arrays.size) := by
    simp [declared]
  rw [run_bind, run_declareArray]
  exact run_setElements hname writes

theorem vars_filled (m : Machine) (name : String) (writes : ElementWrites) :
    (m.filled name writes).vars.get? name = some (.array m.heap.arrays.size) := by
  simp [filled, declared]

theorem cells_filled (m : Machine) (name : String) (writes : ElementWrites) :
    (m.filled name writes).heap.cells m.heap.arrays.size =
      (Table.ofList writes).mapKeys Subscript.value :=
  Heap.cells_writeAll writes (by simp) Heap.cells_alloc_self

/-- An array is a finite map in order of first write. After elements have been written to a variable
that was declared an array, every integer and every text reads what was written under it last, zero
if nothing was. The array has a text if all that was written last has one: these texts, one for each
subscript in the order in which the subscripts were first written, with commas between them. -/
theorem array_reads_last_writes (m : Machine) (name : String) (writes : ElementWrites)
    (hclosed : m.heap.Closed) (hwrites : ∀ w ∈ writes, w.2.Within (m.heap.arrays.size + 1)) :
    ∃ m₁ ref,
      (do
        declareArray name
        setElements name writes : Action Unit).run.run m = (.ok (), m₁) ∧
      m₁.vars.get? name = some (.array ref) ∧
      (∀ k : Subscript, (getElement name k.value).run.run m₁ =
        (.ok ((writes.reverse.lookup k).getD (.int 0)), m₁)) ∧
      ∀ text, m₁.heap.displayText (.array ref) = .ok text ↔
        ∃ texts, List.Forall₂
            (fun k t => m₁.heap.displayText ((writes.reverse.lookup k).getD (.int 0)) = .ok t)
            (writes.map Prod.fst).eraseDups texts ∧
          text = String.intercalate ", " texts := by
  have hfilled := cells_filled m name writes
  have hname := vars_filled m name writes
  have hclosed' : (m.filled name writes).heap.Closed :=
    hclosed.alloc.writeAll writes (by simpa using hwrites)
  refine ⟨m.filled name writes, m.heap.arrays.size, run_filled m name writes, hname,
    fun k => ?_, fun text => ?_⟩
  · rw [run_getElement hname, hfilled, Table.get?_mapKeys Subscript.beq_value,
      Table.get?_ofList_eq_lookup]
  · rw [Heap.displayText_array hclosed' (by simp [filled]), hfilled, Table.values_mapKeys,
      Table.values_ofList writes (.int 0)]
    simp only [List.forall₂_map_left_iff]

/-- The second write under a subscript keeps the place of the first one. -/
theorem array_reads_last_writes_again :
    ∃ m₁ ref,
      (do
        declareArray "A"
        setElements "A" [(.int 1, .text "a"), (.text "K", .text "k"), (.int 1, .text "b")] :
          Action Unit).run.run { constants := defaultConstants, functions := defaultFunctions } =
        (.ok (), m₁) ∧
      (getElement "A" (.int 1)).run.run m₁ = (.ok (.text "b"), m₁) ∧
      (getElement "A" (.int 2)).run.run m₁ = (.ok (.int 0), m₁) ∧
      m₁.heap.displayText (.array ref) = .ok "b, k" := by
  obtain ⟨m₁, ref, hrun, -, hreads, htext⟩ := array_reads_last_writes
    { constants := defaultConstants, functions := defaultFunctions } "A"
    [(.int 1, .text "a"), (.text "K", .text "k"), (.int 1, .text "b")] Heap.closed_empty
    (by simp [Value.IsPlain.within])
  refine ⟨m₁, ref, hrun, hreads (.int 1), hreads (.int 2), (htext "b, k").mpr ⟨["b", "k"], ?_, rfl⟩⟩
  exact .cons (Heap.displayText_text _ _) (.cons (Heap.displayText_text _ _) .nil)

end Machine

end LineBasic

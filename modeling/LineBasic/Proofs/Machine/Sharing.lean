import LineBasic.Proofs.Machine.Filling
import LineBasic.Proofs.Machine.Remembering

/-!
# Shared and unshared arrays

An array that has just been declared is referred to by one variable and nothing else: writing its
elements changes nothing that another variable reaches. A variable that is assigned an array refers
to the same array as the variable it comes from, for as long as neither of the two is set.
-/

namespace LineBasic

namespace Machine

variable {M M' : Memory} {m k k' : Machine} {V W : String}

/-! ## What is left alone -/

/-- A machine some time later, when only deeds of one kind have been done. -/
abbrev Meanwhile (A : Deed → Prop) : Machine → Machine → Prop :=
  Relation.ReflTransGen fun m m' => ∃ d, A d ∧ Does m d m'

/-- What every deed keeps of a closed memory holds some time later. -/
theorem Meanwhile.keeps {A : Deed → Prop} {P : Memory → Prop} (h : Meanwhile A k k')
    (hP : ∀ M d M', M.Closed → A d → Alters M d M' → P M → P M') (hk : k.memory.Closed)
    (hPk : P k.memory) : k'.memory.Closed ∧ P k'.memory := by
  induction h with
  | refl => exact ⟨hk, hPk⟩
  | tail _ hstep ih =>
      obtain ⟨d, hd, hdoes⟩ := hstep
      have halters := hdoes.alters ih.1
      exact ⟨halters.closed ih.1, hP _ d _ ih.1 hd halters ih.2⟩

/-- A memory in which, since another one, a variable has been declared an array and nothing but
elements of this array has been written. -/
structure Apart (M : Memory) (V : String) (M' : Memory) : Prop where
  declared : M'.vars.get? V = some (.array M.heap.arrays.size)
  vars : ∀ W, W ≠ V → M'.vars.get? W = M.vars.get? W
  cells : ∀ ref, ref < M.heap.arrays.size → M'.heap.cells ref = M.heap.cells ref

theorem apart_declare (M : Memory) (V : String) : Apart M V (M.declare V) where
  declared := by simp [Memory.declare]
  vars W hW := by simp [Memory.declare, hW.symm]
  cells ref href := Heap.cells_alloc_of_ne (Nat.ne_of_lt href)

/-- Writing elements of the array that the variable refers to leaves the others alone. -/
theorem Apart.alters {M₁ M₂ : Memory} {d : Deed} (h : Apart M V M₁)
    (hd : d = .quiet ∨ ∃ index value, d = .command (.assign V (some index) value))
    (halters : Alters M₁ d M₂) : Apart M V M₂ := by
  rcases hd with rfl | ⟨index, value, rfl⟩
  · cases halters with
    | still => exact h
  · cases halters with
    | still => exact h
    | command hstores =>
        cases hstores with
        | still => exact h
        | @element _ _ _ ref key v hname hkey hv =>
            cases hname.symm.trans h.declared
            exact
              { declared := h.declared
                vars := h.vars
                cells := fun ref href =>
                  (Heap.cells_write_of_ne (Nat.ne_of_lt href)).trans (h.cells ref href) }

/-- Values from before reach what they reached before. -/
theorem Apart.reaches (h : Apart M V M') (hM : M.Closed) {v w : Value} (hv : M.Holds v)
    (hreaches : M'.heap.Reaches v w) : M.heap.Reaches v w := by
  induction hreaches with
  | self => exact .self
  | element _ hmem ih =>
      have href := ih.within hM.heap hv _ rfl
      rw [h.cells _ href] at hmem
      exact .element ih hmem

/-! ## One array under two names -/

/-- A variable that is assigned the value of another one. -/
theorem memory_copy {f : Formula} {ref : Nat} (htree : f.tree = .var V)
    (hV : m.memory.vars.get? V = some (.array ref)) :
    ((performCommand (.assign W none f)).run.run m).2.memory = m.memory.assign W (.array ref) := by
  have hvalue : (evaluate f).run.run m = (.ok (.array ref), m) := by
    have hget : m.vars.get? V = some (.array ref) := hV
    rw [evaluate, logging, run_tryCatch, htree, evalExpr, getVariable, run_bind, run_get]
    dsimp only
    rw [hget]
    rfl
  rw [performCommand, run_bind, hvalue]
  rfl

/-- What two names of one array read, and what is written through them. -/
theorem read_back {ref : Nat} (hM : m.memory.Closed) (hV : m.vars.get? V = some (.array ref))
    (hW : m.vars.get? W = some (.array ref)) {name : String} (hname : name = V ∨ name = W)
    (key : Subscript) (v : Value) : ∃ m',
      (setElement name key.value v).run.run m = (.ok (), m') ∧
      (getElement V key.value).run.run m' = (.ok v, m') ∧
      (getElement W key.value).run.run m' = (.ok v, m') := by
  have hset : m.vars.get? name = some (.array ref) := by
    rcases hname with rfl | rfl
    · exact hV
    · exact hW
  have hself : (key.value == key.value) = true := by
    rw [Subscript.beq_value]
    exact beq_self_eq_true key
  have href : ref < m.heap.arrays.size := hM.lt_of_var hV
  have hread : ((m.heap.write ref key.value v).cells ref).get? key.value = some v := by
    rw [Heap.cells_write_self href, Table.get?_insert_self hself]
  have hreads {name : String} (hname : m.vars.get? name = some (.array ref)) :
      (getElement name key.value).run.run { m with heap := m.heap.write ref key.value v } =
        (.ok v, { m with heap := m.heap.write ref key.value v }) := by
    have hafter : { m with heap := m.heap.write ref key.value v }.vars.get? name =
        some (.array ref) := hname
    rw [run_getElement hafter, hread]
    rfl
  exact ⟨_, run_setElement hset key v, hreads hV, hreads hW⟩

/-- `ARRAY` makes an array that is shared with nothing, and `LET` shares it. In every state that a
session comes to, a variable may be declared an array and any of its elements be written: every
other variable, and every array that is reached from it, is as before, and the new array is not
reached. And when one variable is assigned an array that another one refers to, both read and write
the same elements whatever happens, until one of the two is set as a whole. -/
theorem arrays_unshared_until_assigned {m₀ : Machine} {requests : List Request} {n : Nat}
    (hnew : IsNew m₀) (hconstants : ∀ v ∈ m₀.constants.values, v.IsPlain)
    (hpixels : ∀ d ∈ m₀.display, ∀ v ∈ d.pixels.values, v.IsPlain)
    (hdrives : ∀ request ∈ requests, request.drives = true)
    (hk : k ∈ trail n requests m₀ ∨ ∃ answers, attend n requests m₀ = some (answers, k)) :
    (∀ V k₁ k₂, Does k (.command (.array V)) k₁ →
      Meanwhile (fun d => d = .quiet ∨ ∃ index value, d = .command (.assign V (some index) value))
        k₁ k₂ →
      ∃ fresh, k₂.vars.get? V = some (.array fresh) ∧
        ∀ W, W ≠ V → k₂.vars.get? W = k.vars.get? W ∧
          ∀ v, k.vars.get? W = some v → ¬k₂.heap.Reaches v (.array fresh) ∧
            ∀ ref, k.heap.Reaches v (.array ref) → k₂.heap.cells ref = k.heap.cells ref) ∧
    ∀ V W ref f k₁ k₂, k.vars.get? V = some (.array ref) → f.tree = .var V →
      Does k (.command (.assign W none f)) k₁ →
      Meanwhile (fun d => d.sets? ≠ some V ∧ d.sets? ≠ some W) k₁ k₂ →
      k₂.vars.get? V = some (.array ref) ∧ k₂.vars.get? W = some (.array ref) ∧
        (∀ index, (getElement V index).run.run k₂ = (getElement W index).run.run k₂) ∧
        ∀ name, name = V ∨ name = W → ∀ (key : Subscript) (v : Value), ∃ k₃,
          (setElement name key.value v).run.run k₂ = (.ok (), k₃) ∧
          (getElement V key.value).run.run k₃ = (.ok v, k₃) ∧
          (getElement W key.value).run.run k₃ = (.ok v, k₃) := by
  have hM : k.memory.Closed := hnew.closed_reached hconstants hpixels hdrives hk
  constructor
  · intro V k₁ k₂ hdeclare hmeanwhile
    have hk₁ : k₁.memory = k.memory.declare V := by
      obtain ⟨m₀, hm₀, hmemory⟩ := hdeclare.command_memory hM
      rw [hmemory, ← hm₀]
      rfl
    have hclosed : k₁.memory.Closed := hk₁ ▸ hM.declare V
    obtain ⟨-, hapart⟩ := hmeanwhile.keeps (P := Apart k.memory V)
      (fun _ _ _ _ hd halters h => h.alters hd halters) hclosed (hk₁ ▸ apart_declare k.memory V)
    refine ⟨k.memory.heap.arrays.size, hapart.declared, fun W hW => ⟨hapart.vars W hW, ?_⟩⟩
    intro v hv
    have hholds : k.memory.Holds v := hM.vars v (Table.mem_values_of_get? hv)
    refine ⟨fun hfresh => ?_, fun ref hreaches => ?_⟩
    · have hold := hapart.reaches hM hholds hfresh
      exact Nat.lt_irrefl _ (hold.within hM.heap hholds _ rfl)
    · exact hapart.cells ref (hreaches.within hM.heap hholds ref rfl)
  · intro V W ref f k₁ k₂ hV htree hassign hmeanwhile
    have hk₁ : k₁.memory = k.memory.assign W (.array ref) := by
      obtain ⟨m₀, hm₀, hmemory⟩ := hassign.command_memory hM
      rw [hmemory, memory_copy htree (by rw [hm₀]; exact hV), hm₀]
    have hclosed : k₁.memory.Closed :=
      hk₁ ▸ hM.assign W (hM.vars _ (Table.mem_values_of_get? hV))
    have hboth : k₁.memory.vars.get? V = some (.array ref) ∧
        k₁.memory.vars.get? W = some (.array ref) := by
      have hkV : k.memory.vars.get? V = some (.array ref) := hV
      rw [hk₁]
      by_cases hVW : W = V <;> simp [Memory.assign, hVW, hkV]
    obtain ⟨hclosed₂, hV₂, hW₂⟩ := hmeanwhile.keeps
      (P := fun M => M.vars.get? V = some (.array ref) ∧ M.vars.get? W = some (.array ref))
      (fun M d M' hM hd halters h =>
        ⟨(halters.get?_vars hM hd.1).trans h.1, (halters.get?_vars hM hd.2).trans h.2⟩)
      hclosed hboth
    refine ⟨hV₂, hW₂, fun index => ?_, fun name hname => read_back hclosed₂ hV₂ hW₂ hname⟩
    simp only [getElement, run_bind, run_arrayOf hV₂, run_arrayOf hW₂]

/-- A program that declares an array and writes an element of it. -/
def arraying : Program where
  lines :=
    [{ number := 10, instruction := .command (.array "A") },
     { number := 20,
       instruction := .command (.assign "A" (some ⟨"1", .number "1"⟩) ⟨"5", .number "5"⟩) }]

theorem load_arraying : Program.load "10 ARRAY A\n20 LET A[1] = 5" = .ok arraying := by
  have hsplit : (Program.splitSource "10 ARRAY A\n20 LET A[1] = 5").filter
      (!Program.isBlankLine ·) = ["10 ARRAY A", "20 LET A[1] = 5"] := by decide
  have harray : parseLine "10 ARRAY A" =
      .ok { number := 10, instruction := .command (.array "A") } := by
    with_unfolding_all rfl
  have hwrite : parseLine "20 LET A[1] = 5" =
      .ok { number := 20,
            instruction :=
              .command (.assign "A" (some ⟨"1", .number "1"⟩) ⟨"5", .number "5"⟩) } := by
    with_unfolding_all rfl
  unfold Program.load
  rw [hsplit, List.mapM_cons, List.mapM_cons, harray, hwrite]
  exact Program.ofLines_of_ascending arraying.ascending

def arrayed : Machine :=
  { reset { constants := defaultConstants, functions := defaultFunctions } with
    program := arraying, cursor := 20, heap := { arrays := #[⟨[(.int 1, .int 5)]⟩] },
    vars := ⟨[("A", .array 0)]⟩, phase := .ended, completion := .done {} }

theorem attend_arraying :
    attend 3 [.run "10 ARRAY A\n20 LET A[1] = 5"]
        { constants := defaultConstants, functions := defaultFunctions } =
      some ([.ok .nothing], arrayed) := by
  have hstart : (start "10 ARRAY A\n20 LET A[1] = 5").run.run
      { constants := defaultConstants, functions := defaultFunctions } =
        (.ok .goesOn, { reset { constants := defaultConstants, functions := defaultFunctions } with
          program := arraying, cursor := 10 }) := by
    unfold start
    rw [load_arraying]
    rfl
  have hfollow : follow 3
      { reset { constants := defaultConstants, functions := defaultFunctions } with
        program := arraying, cursor := 10 } = some (.ok (), arrayed) := by
    with_unfolding_all rfl
  rw [attend, handle, following, course_bind, followed_eq, hstart]
  dsimp only
  rw [hfollow]
  rfl

/-- At the end of that program another array is declared and written, and the first one stays as it
is. Or a variable is assigned the first one, and an element that is written through it is the same
under both names. -/
theorem arrays_unshared_until_assigned_arraying :
    (∃ answers, attend 3 [.run "10 ARRAY A\n20 LET A[1] = 5"]
        { constants := defaultConstants, functions := defaultFunctions } =
      some (answers, arrayed)) ∧
    (∃ k₁ k₂, Does arrayed (.command (.array "B")) k₁ ∧
      Does k₁ (.command (.assign "B" (some ⟨"1", .number "1"⟩) ⟨"7", .number "7"⟩)) k₂ ∧
      k₂.vars.get? "A" = some (.array 0) ∧ k₂.heap.cells 0 = ⟨[(.int 1, .int 5)]⟩) ∧
    ∃ k₁ k₂, Does arrayed (.command (.assign "B" none ⟨"A", .var "A"⟩)) k₁ ∧
      Does k₁ (.command (.assign "B" (some ⟨"1", .number "1"⟩) ⟨"7", .number "7"⟩)) k₂ ∧
      (∀ index, (getElement "A" index).run.run k₂ = (getElement "B" index).run.run k₂) ∧
      ∃ k₃, (setElement "B" (.text "K") (.int 8)).run.run k₂ = (.ok (), k₃) ∧
        (getElement "A" (.text "K")).run.run k₃ = (.ok (.int 8), k₃) := by
  have hnew : IsNew { constants := defaultConstants, functions := defaultFunctions } := rfl
  have hconstants : ∀ v ∈ defaultConstants.values, v.IsPlain := by
    have hvalues : defaultConstants.values = [.real pi, .int 1] := rfl
    simp [hvalues]
  have hattend : ∃ answers, attend 3 [.run "10 ARRAY A\n20 LET A[1] = 5"]
      { constants := defaultConstants, functions := defaultFunctions } =
        some (answers, arrayed) := ⟨_, attend_arraying⟩
  obtain ⟨hdeclare, hassign⟩ := arrays_unshared_until_assigned hnew hconstants nofun
    (by simp [Request.drives]) (.inr hattend)
  let share : Command := .assign "B" none ⟨"A", .var "A"⟩
  let write : Command := .assign "B" (some ⟨"1", .number "1"⟩) ⟨"7", .number "7"⟩
  refine ⟨hattend, ⟨_, _, .perform (.array "B"), .perform write, ?_⟩,
    _, _, .perform share, .perform write, ?_⟩
  · obtain ⟨fresh, -, hothers⟩ := hdeclare "B" _ _ (.perform (.array "B"))
      (.single ⟨_, .inr ⟨_, _, rfl⟩, .perform write⟩)
    obtain ⟨hvars, hreached⟩ := hothers "A" (by decide)
    exact ⟨hvars, (hreached (.array 0) rfl).2 0 .self⟩
  · have hunset : (Deed.command write).sets? ≠ some "A" ∧ (Deed.command write).sets? ≠ some "B" := by
      simp [write, Deed.sets?, Command.sets?]
    obtain ⟨-, -, hsame, hwrites⟩ := hassign "A" "B" 0 ⟨"A", .var "A"⟩ _ _ rfl rfl
      (.perform share) (.single ⟨_, hunset, .perform write⟩)
    obtain ⟨k₃, hset, hread, -⟩ := hwrites "B" (.inr rfl) (.text "K") (.int 8)
    exact ⟨hsame, k₃, hset, hread⟩

end Machine

end LineBasic

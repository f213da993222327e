import LineBasic.Proofs.Machine.Pausing

/-!
# Further replies in the queue

`push u m` is the machine with further replies behind those in its queue. What takes no reply does
the same with further replies in the queue: `Pushed` is the relation, and statements other than
`INPUT`, the move to the next line, the boundary and the start of a run all keep it.
-/

namespace LineBasic

namespace Machine

/-- A machine with further replies behind those in the queue of its buffer. -/
def push (u : List String) (m : Machine) : Machine :=
  match m.console with
  | .buffer b => { m with console := .buffer { b with replies := b.replies ++ u.map some } }
  | .stream _ => m

theorem push_eq {m : Machine} {b : Buffer} (h : m.console = .buffer b) (u : List String) :
    push u m = { m with console := .buffer { b with replies := b.replies ++ u.map some } } := by
  unfold push
  rw [h]

@[simp] theorem push_nil (m : Machine) : push [] m = m := by
  unfold push
  split
  · next b h =>
    simp only [List.map_nil, List.append_nil, ← h]
  · rfl

theorem push_push (u v : List String) (m : Machine) : push v (push u m) = push (u ++ v) m := by
  cases h : m.console with
  | buffer b =>
      rw [push_eq h, push_eq h, push_eq rfl, List.map_append, List.append_assoc]
  | stream s =>
      have hpush : ∀ w, push w m = m := by
        intro w
        unfold push
        rw [h]
      rw [hpush, hpush, hpush]

/-- Two machines of which the second has further replies in the queue, while no question is open. -/
def Pushed (u : List String) (m m' : Machine) : Prop :=
  ∃ b, m.console = .buffer b ∧ b.asking = none ∧
    m' = { m with console := .buffer { b with replies := b.replies ++ u.map some } }

theorem Pushed.eq {u : List String} {m m' : Machine} (h : Pushed u m m') : m' = push u m := by
  obtain ⟨b, hb, -, rfl⟩ := h
  exact (push_eq hb u).symm

theorem pushed_trace {u : List String} (level : Int) (message : String) :
    Simulates (Pushed u) (trace level message) (trace level message) := by
  refine simulates_trace ?_ ?_ ?_ level message
  · rintro m _ ⟨b, hb, ha, rfl⟩; rfl
  · rintro m _ ⟨b, hb, ha, rfl⟩; rfl
  · rintro m _ r ⟨b, hb, ha, rfl⟩; exact ⟨b, hb, ha, rfl⟩

theorem pushed_finish {u : List String} (fault : Option Fault) :
    Simulates (Pushed u) (finish fault) (finish fault) := by
  refine simulates_finish pushed_trace ?_ ?_ ?_ ?_ ?_ fault
  · rintro m _ ⟨b, hb, ha, rfl⟩; rfl
  · rintro m _ ⟨b, hb, ha, rfl⟩; rfl
  · rintro m _ ⟨b, hb, ha, rfl⟩; rfl
  · rintro m _ ⟨b, hb, ha, rfl⟩
    have hconsole : (cancelTimer m).console = .buffer b := by
      rw [← hb]
      unfold cancelTimer
      split <;> rfl
    rw [cancelTimer_console m (.buffer { b with replies := b.replies ++ u.map some })]
    exact ⟨b, hconsole, ha, rfl⟩
  · rintro m _ c ⟨b, hb, ha, rfl⟩; exact ⟨b, hb, ha, rfl⟩

/-- Statements take no notice of the replies in the queue until they ask. -/
theorem pushed_performFrame (u : List String) : PerformFrame (Pushed u) where
  constants := by rintro m _ ⟨b, hb, ha, rfl⟩; rfl
  functions := by rintro m _ ⟨b, hb, ha, rfl⟩; rfl
  heap := by rintro m _ ⟨b, hb, ha, rfl⟩; rfl
  vars := by rintro m _ ⟨b, hb, ha, rfl⟩; rfl
  display := by rintro m _ ⟨b, hb, ha, rfl⟩; rfl
  dice := by rintro m _ ⟨b, hb, ha, rfl⟩; rfl
  setDisplay := by rintro m _ d ⟨b, hb, ha, rfl⟩; exact ⟨b, hb, ha, rfl⟩
  setDice := by rintro m _ d ⟨b, hb, ha, rfl⟩; exact ⟨b, hb, ha, rfl⟩
  push := by rintro m _ r ⟨b, hb, ha, rfl⟩; exact ⟨b, hb, ha, rfl⟩
  stop := by
    intro m m' name _ _
    refine simulates_stop (pushed_finish none) ?_ ?_
    · rintro m _ ⟨b, hb, ha, rfl⟩; rfl
    · rintro m _ ⟨b, hb, ha, rfl⟩; exact ⟨b, hb, ha, rfl⟩
  cursor := by rintro m _ ⟨b, hb, ha, rfl⟩; rfl
  program := by rintro m _ ⟨b, hb, ha, rfl⟩; rfl
  loops := by rintro m _ ⟨b, hb, ha, rfl⟩; rfl
  stack := by rintro m _ ⟨b, hb, ha, rfl⟩; rfl
  setVars := by rintro m _ v ⟨b, hb, ha, rfl⟩; exact ⟨b, hb, ha, rfl⟩
  setHeap := by rintro m _ v ⟨b, hb, ha, rfl⟩; exact ⟨b, hb, ha, rfl⟩
  setLoops := by rintro m _ l ⟨b, hb, ha, rfl⟩; exact ⟨b, hb, ha, rfl⟩
  setStack := by rintro m _ s ⟨b, hb, ha, rfl⟩; exact ⟨b, hb, ha, rfl⟩
  jump := by rintro m _ l ⟨b, hb, ha, rfl⟩; exact ⟨b, hb, ha, rfl⟩
  halt := by rintro m _ ⟨b, hb, ha, rfl⟩; exact ⟨b, hb, ha, rfl⟩
  write := by
    rintro m _ text ⟨b, hb, ha, rfl⟩
    exact ⟨{ b with written := b.written ++ text }, by rw [hb]; rfl, ha, rfl⟩
  clear := by
    rintro m _ ⟨b, hb, ha, rfl⟩
    exact ⟨{ b with written := "", clears := b.clears + 1 }, by rw [hb]; rfl, ha, rfl⟩
  trace := pushed_trace
  finish := pushed_finish

theorem pushed_boundary {u : List String} : Simulates (Pushed u) boundary boundary := by
  have hawait : Simulates (Pushed u) awaitReply awaitReply := by
    refine simulates_get ?_
    rintro m _ ⟨b, hb, ha, rfl⟩
    dsimp only
    split
    · refine simulates_bind (simulates_modify ?_) fun _ => simulates_pure _
      rintro m _ ⟨b, hb, ha, rfl⟩
      exact ⟨b, hb, ha, rfl⟩
    · exact simulates_pure _
  refine simulates_get ?_
  rintro m _ ⟨b, hb, ha, rfl⟩
  dsimp only
  split
  · exact simulates_bind (pushed_finish none) fun _ => simulates_pure _
  · refine simulates_bind (simulates_set ⟨b, hb, ha, rfl⟩) fun _ => ?_
    split
    · split
      · refine simulates_bind (simulates_modify ?_) fun _ => ?_
        · rintro m _ ⟨b, hb, ha, rfl⟩
          exact ⟨b, hb, ha, rfl⟩
        · refine simulates_bind (simulates_liftM _) fun s => ?_
          refine simulates_bind (simulates_modify ?_) fun _ => simulates_pure _
          rintro m _ ⟨b, hb, ha, rfl⟩
          exact ⟨b, hb, ha, rfl⟩
      · exact hawait
    · exact hawait

theorem pushed_afterStep {u : List String} : Simulates (Pushed u) afterStep afterStep := by
  refine simulates_bind ((pushed_performFrame u).moveOn ?_ ?_ ?_ ?_) fun progress => ?_
  · rintro m _ ⟨b, hb, ha, rfl⟩; rfl
  · rintro m _ ⟨b, hb, ha, rfl⟩; rfl
  · rintro m _ ⟨b, hb, ha, rfl⟩; exact ⟨b, hb, ha, rfl⟩
  · rintro m _ n ⟨b, hb, ha, rfl⟩; exact ⟨b, hb, ha, rfl⟩
  · cases progress with
    | goesOn => exact pushed_boundary
    | stops => exact simulates_pure _

theorem pushed_commandHere {u : List String} :
    Simulates (Pushed u) commandHere commandHere := by
  have F := pushed_performFrame u
  refine simulates_get ?_
  rintro m _ ⟨b, hb, ha, rfl⟩
  dsimp only
  split
  · exact simulates_pure _
  · refine simulates_bind (F.trace _ _) fun _ => simulates_bind (F.trace _ _) fun _ => ?_
    exact F.choose _

theorem pushed_execute {u : List String} : Simulates (Pushed u) execute execute := by
  refine simulates_bind (simulates_modify ?_) fun _ => simulates_pure _
  rintro m _ ⟨b, hb, ha, rfl⟩
  exact ⟨b, hb, ha, rfl⟩

/-- The start of a run does not depend on the replies in the queue. -/
theorem pushed_start {u : List String} (source : String) :
    Simulates (Pushed u) (start source) (start source) := by
  have hlaunch : Simulates (Pushed u) (launch source) (launch source) := by
    refine simulates_bind (simulates_modify ?_) fun _ => ?_
    · rintro m _ ⟨b, hb, ha, rfl⟩
      exact ⟨b, hb, ha, rfl⟩
    · split
      · have hend : ∀ fault, Simulates (Pushed u)
            (do finish (some fault); return Progress.stops : Action Progress)
            (do finish (some fault); return Progress.stops) := fun fault =>
          simulates_bind (pushed_finish _) fun _ => simulates_pure _
        dsimp only
        split
        · exact simulates_bind (simulates_throw _) fun _ => hend _
        · exact hend _
      · refine simulates_bind (simulates_modify ?_) fun _ => ?_
        · rintro m _ ⟨b, hb, ha, rfl⟩
          exact ⟨b, hb, ha, rfl⟩
        · split
          · exact simulates_bind (pushed_finish none) fun _ => simulates_pure _
          · refine simulates_bind (simulates_modify ?_) fun _ => pushed_execute
            rintro m _ ⟨b, hb, ha, rfl⟩
            exact ⟨b, hb, ha, rfl⟩
  rw [start_eq]
  refine simulates_get ?_
  rintro m _ ⟨b, hb, ha, rfl⟩
  dsimp only
  split
  · exact simulates_bind (simulates_throw _) fun _ => hlaunch
  · exact hlaunch

end Machine

end LineBasic

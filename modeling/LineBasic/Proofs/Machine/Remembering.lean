import LineBasic.Proofs.Machine.Halting
import LineBasic.Proofs.Machine.Storing

/-!
# The memory over whole sessions

`Does` lists what can happen to a machine in the course of a run, labelled with the command that is
performed or the variable that a reply is for. `Does.alters` says what each of it does to the
memory: a command does what `Stores` says, a reply is stored in a variable, and everything else
leaves the memory alone. So a memory that is closed stays closed over whole sessions, and a variable
that is not set as a whole stays as it is.
-/

namespace LineBasic

/-- The variable that a command sets as a whole. -/
def Command.sets? : Command → Option String
  | .assign name none _ | .loop name .. | .next name | .input _ name | .array name => some name
  | _ => none

namespace Machine

variable {M M' : Memory} {m m' k : Machine} {V : String}

/-! ## Between statements -/

theorem still_commandHere (hM : M.Closed) : Still M commandHere := by
  refine simulates_get ?_
  rintro m _ ⟨rfl, h⟩
  split
  · exact simulates_pure _
  · next line _ =>
    refine simulates_bind (still_trace _ _) fun _ => simulates_bind (still_trace _ _) fun _ => ?_
    cases line.instruction with
    | command c => exact simulates_pure _
    | branch condition yes no =>
        exact simulates_bind (yields_evaluate hM condition).still fun v =>
          simulates_get (by rintro m _ ⟨rfl, h⟩; exact simulates_pure _)

theorem still_fail (fault : Fault) :
    Still M (do finish (some fault); return .quiet : Action Reaction) :=
  simulates_bind (still_finish _) fun _ => simulates_pure _

theorem still_missing (n : Int) : Still M (missing n) := by
  unfold missing
  split
  · exact simulates_bind (simulates_throw _) fun _ => still_fail _
  · exact still_fail _

theorem still_finished : Still M (do finish none; return .stops : Action Progress) :=
  simulates_bind (still_finish none) fun _ => simulates_pure _

theorem still_moveOn : Still M moveOn := by
  refine simulates_get ?_
  rintro m _ ⟨rfl, h⟩
  split
  · exact simulates_pure _
  · split
    · exact simulates_bind (simulates_set ⟨rfl, h⟩) fun _ => simulates_pure _
    · split
      · exact still_finished
      · exact simulates_bind (simulates_set ⟨rfl, h⟩) fun _ => simulates_pure _

theorem still_awaitReply : Still M awaitReply := by
  refine simulates_get ?_
  rintro m _ ⟨rfl, h⟩
  split
  · exact simulates_bind (still_modify fun _ => rfl) fun _ => simulates_pure _
  · exact simulates_pure _

theorem still_suspend (millis : Value) : Still M (suspend millis) :=
  simulates_bind (still_modify fun _ => rfl) fun _ => simulates_bind (simulates_liftM _) fun _ =>
    simulates_bind (still_modify fun _ => rfl) fun _ => simulates_pure _

theorem still_boundary : Still M boundary := by
  refine simulates_get ?_
  rintro m _ ⟨rfl, h⟩
  split
  · exact still_finished
  · refine simulates_bind (simulates_set ⟨rfl, h⟩) fun _ => ?_
    split
    · split
      · exact still_suspend _
      · exact still_awaitReply
    · exact still_awaitReply

theorem still_afterStep : Still M afterStep := by
  refine simulates_bind still_moveOn fun progress => ?_
  cases progress with
  | goesOn => exact still_boundary
  | stops => exact simulates_pure _

theorem still_goOn : Still M goOn := by
  refine simulates_get ?_
  rintro m _ ⟨rfl, h⟩
  split
  · exact still_finished
  · exact simulates_bind (still_modify fun _ => rfl) fun _ => simulates_pure _

theorem still_goOnFrom (p : Phase) :
    Still M (do if (← get).phase = p then goOn else return .stops : Action Progress) := by
  refine simulates_get ?_
  rintro m _ ⟨rfl, h⟩
  split
  · exact still_goOn
  · exact simulates_pure _

theorem still_wake : Still M wake :=
  simulates_bind (still_modify fun _ => rfl) fun _ =>
    still_goOnFrom .paused

theorem still_resume : Still M resume := by
  refine simulates_get ?_
  rintro m _ ⟨rfl, h⟩
  split
  · exact simulates_pure _
  · exact simulates_bind (still_modify fun _ => rfl) fun _ => still_goOnFrom .waiting

theorem still_react (reaction : Reaction) : Still M (react reaction) := by
  refine simulates_get ?_
  rintro m _ ⟨rfl, h⟩
  split
  · exact still_goOn
  · exact simulates_pure _

theorem still_stopElsewhere : Still M stopElsewhere := by
  refine simulates_get ?_
  rintro m _ ⟨rfl, h⟩
  split
  · exact simulates_pure _
  · exact still_modify fun _ => rfl

theorem still_press (key : String) : Still M (press key) := by
  refine simulates_get ?_
  rintro m _ ⟨rfl, h⟩
  split
  · next d hd =>
    have hpixels : M.pixels = some (d.press key).pixels := by
      rw [← h, memory, hd]
      rfl
    refine simulates_modify ?_
    rintro k _ ⟨rfl, hk⟩
    exact ⟨rfl, (memory_setDisplay (by rw [hk, hpixels])).trans hk⟩
  · exact simulates_throw _

/-! ## What happens to a machine -/

/-- What happens to a machine in the course of a run: a command is performed, a reply comes for a
variable, or something else. -/
inductive Deed where
  | command (c : Command)
  | reply (name : String)
  | quiet

def Deed.sets? : Deed → Option String
  | .command c => c.sets?
  | .reply name => some name
  | .quiet => none

/-- The machine after something has happened to it. A command is performed by hand or is the one
that the statement at the cursor comes down to. -/
inductive Does (m : Machine) : Deed → Machine → Prop where
  | perform (c : Command) : Does m (.command c) ((performCommand c).run.run m).2
  | cycle {c : Command} {m₀ : Machine} (hc : commandHere.run.run m = (.ok (some c), m₀)) :
      Does m (.command c) (cycle.run.run m).2
  | idle (hc : ∀ c m₀, commandHere.run.run m ≠ (.ok (some c), m₀)) :
      Does m .quiet (Machine.cycle.run.run m).2
  | feed (reply : Reply) {name : String} (hname : m.console.asking? = some name) :
      Does m (.reply name) ((feed reply).run.run m).2
  | store (reply : Reply) (hname : m.console.asking? = none) :
      Does m .quiet ((Machine.feed reply).run.run m).2
  | press (key : String) : Does m .quiet ((press key).run.run m).2
  | wake : Does m .quiet (wake.run.run { m with timers := m.timers.pop.2 }).2
  | resume : Does m .quiet (resume.run.run m).2
  | stop : Does m .quiet (stop.run.run m).2
  | stopElsewhere : Does m .quiet (stopElsewhere.run.run m).2
  | finish (fault : Option Fault) : Does m .quiet ((finish fault).run.run m).2

/-- What something that happens to a machine can do to its memory. -/
inductive Alters (M : Memory) : Deed → Memory → Prop where
  | still (d : Deed) : Alters M d M
  | command {c : Command} {M' : Memory} (h : Stores M c M') : Alters M (.command c) M'
  | reply {name : String} {v : Value} (hv : v.IsPlain) : Alters M (.reply name) (M.assign name v)

/-- A step does to the memory what its command does, and nothing if it comes down to none. -/
theorem memory_step {x : Except Fault (Option Command)} {m₀ : Machine} (hM : m.memory.Closed)
    (h : commandHere.run.run m = (x, m₀)) :
    m₀.memory = m.memory ∧
      (∀ c, x = .ok (some c) →
        (step.run.run m).2.memory = ((performCommand c).run.run m₀).2.memory) ∧
      ((∀ c, x ≠ .ok (some c)) → (step.run.run m).2.memory = m.memory) := by
  have hend (fault : Fault) (k : Machine) : ((do
      finish (some fault)
      return .quiet : Action Reaction).run.run k).2.memory = k.memory :=
    (still_fail (M := k.memory) fault).keeps rfl
  have hkeeps : m₀.memory = m.memory := by
    have hhere := (still_commandHere hM).keeps rfl
    rwa [h] at hhere
  refine ⟨hkeeps, ?_, ?_⟩
  · rintro c rfl
    obtain ⟨line, hline, -⟩ := commandHere_mem h
    rw [run_step hline, run_bind, h]
    dsimp only [performChosen]
    rcases hrun : (performCommand c).run.run m₀ with ⟨e | reaction, m₁⟩
    · exact hend e m₁
    · rfl
  · intro hnone
    cases hline : m.program.find? m.cursor with
    | none =>
        rw [run_step_missing hline]
        exact (still_missing (M := m.memory) m.cursor).keeps rfl
    | some line =>
        rw [run_step hline, run_bind, h]
        cases x with
        | error e => exact (hend e m₀).trans hkeeps
        | ok c =>
            cases c with
            | none => exact hkeeps
            | some c => exact absurd rfl (hnone c)

/-- What follows a step leaves the memory alone. -/
theorem memory_cycle (m : Machine) : (cycle.run.run m).2.memory = (step.run.run m).2.memory := by
  rw [cycle_eq_afterStep, run_bind]
  rcases step.run.run m with ⟨e | reaction, m₁⟩
  · rfl
  · exact (still_afterStep (M := m₁.memory)).keeps rfl

/-- The memory after a command is what the command leaves of the same memory. -/
theorem Does.command_memory {c : Command} (hM : m.memory.Closed) (h : Does m (.command c) m') :
    ∃ m₀ : Machine, m₀.memory = m.memory ∧
      m'.memory = ((performCommand c).run.run m₀).2.memory := by
  cases h with
  | perform => exact ⟨m, rfl, rfl⟩
  | cycle hc =>
      obtain ⟨hkeeps, hstep, -⟩ := memory_step hM hc
      exact ⟨_, hkeeps, (memory_cycle m).trans (hstep c rfl)⟩

/-- A reply that comes from outside is stored in the variable that was asked for, or nowhere. -/
theorem memory_feed (reply : Reply) (m : Machine) :
    ((feed reply).run.run m).2.memory = m.memory ∨
      ∃ name v, m.console.asking? = some name ∧ v.IsPlain ∧
        ((feed reply).run.run m).2.memory = m.memory.assign name v := by
  rw [feed_eq, run_bind, run_get]
  dsimp only
  rw [run_bind, run_set, Console.feed_fst]
  cases m.console.asking? with
  | none => exact .inl rfl
  | some name =>
      have hreact : Leaves m.memory
          (fun M' => M' = m.memory ∨
            ∃ name' v, some name = some name' ∧ v.IsPlain ∧ M' = m.memory.assign name' v)
          (do react (← receive name reply) : Action Progress) := by
        refine .andThen (leaves_receive (.inl rfl) fun v hv => ?_) fun _ _ => still_react _
        exact .inr ⟨name, v, rfl, plain_replyValue name reply v hv, rfl⟩
      exact hreact rfl

/-- Whatever happens does to the memory what `Alters` says. -/
theorem Does.alters {d : Deed} (hM : m.memory.Closed) (h : Does m d m') :
    Alters m.memory d m'.memory := by
  have hquiet {α : Type} {a : Action α} {k : Machine} (ha : Still m.memory a)
      (hk : k.memory = m.memory) : Alters m.memory .quiet (a.run.run k).2.memory := by
    have hkeeps : (a.run.run k).2.memory = m.memory := ha.keeps hk
    rw [hkeeps]
    exact .still .quiet
  cases h with
  | perform c => exact .command (leaves_performCommand hM c rfl)
  | @cycle c m₀ hc =>
      obtain ⟨k, hk, hmemory⟩ := Does.command_memory hM (.cycle hc)
      rw [hmemory]
      exact .command (leaves_performCommand hM c hk)
  | idle hc =>
      have hstep := (memory_step hM (Prod.eta _).symm).2.2 fun c hx => hc c _ (Prod.ext hx rfl)
      rw [memory_cycle, hstep]
      exact .still .quiet
  | @feed reply name hname =>
      rcases memory_feed reply m with hsame | ⟨name', v, hname', hv, hset⟩
      · rw [hsame]
        exact .still _
      · cases hname.symm.trans hname'
        rw [hset]
        exact .reply hv
  | store reply hname =>
      rcases memory_feed reply m with hsame | ⟨name, v, hname', -⟩
      · rw [hsame]
        exact .still _
      · cases hname.symm.trans hname'
  | press key => exact hquiet (still_press key) rfl
  | wake => exact hquiet still_wake rfl
  | resume => exact hquiet still_resume rfl
  | stop => exact hquiet still_stop rfl
  | stopElsewhere => exact hquiet still_stopElsewhere rfl
  | finish fault => exact hquiet (still_finish fault) rfl

theorem Alters.closed {d : Deed} (h : Alters M d M') (hM : M.Closed) : M'.Closed := by
  cases h with
  | still => exact hM
  | command h => exact h.closed hM
  | reply hv => exact hM.assign _ (Memory.holds_of_isPlain hv)

/-- A variable that is not set stays as it is. -/
theorem Alters.get?_vars {d : Deed} (h : Alters M d M') (hM : M.Closed) (hd : d.sets? ≠ some V) :
    M'.vars.get? V = M.vars.get? V := by
  have hset (M₁ : Memory) {name : String} {v : Value} (hname : name ≠ V) :
      (M₁.assign name v).vars.get? V = M₁.vars.get? V := by
    rw [Memory.assign, Table.get?_insert, if_neg (by simpa using hname)]
  cases h with
  | still => rfl
  | reply hv => exact hset M fun h => hd (congrArg some h)
  | @command c _ h =>
      have hc : c.sets? ≠ some V := hd
      cases h with
      | still => rfl
      | assign | loopLast | input => exact hset M fun h => hc (congrArg some h)
      | element => rfl
      | array name => exact hset M fun h => hc (congrArg some h)
      | loop => exact hset M fun h => hc (congrArg some h)
      | next hloop =>
          have hname := hM.loops _ _ hloop
          exact hset (M.enter _ _) fun h => hc (congrArg some (hname.symm.trans h))
      | plot => rfl
      | clearAll | clearDisplay => rfl

/-! ## Closed memories -/

/-- A run starts without variables and without loops. -/
theorem leaves_start (hM : M.Closed) (source : String) : Leaves M Memory.Closed (start source) := by
  have hfails (fault : Fault) :
      Still M.clear (do finish (some fault); return .stops : Action Progress) :=
    simulates_bind (still_finish _) fun _ => simulates_pure _
  have hlaunch : Leaves M Memory.Closed (launch source) := by
    refine .modify M.clear ?_ (.of_still ?_ hM.clear)
    · rintro m rfl
      rfl
    · split
      · dsimp only
        split
        · exact simulates_bind (simulates_throw _) fun _ => hfails _
        · exact hfails _
      · refine simulates_bind (still_modify fun _ => rfl) fun _ => ?_
        split
        · exact still_finished
        · exact simulates_bind (still_modify fun _ => rfl) fun _ =>
            simulates_bind (still_modify fun _ => rfl) fun _ => simulates_pure _
  rw [start_eq]
  refine .get fun m _ => ?_
  dsimp only
  split
  · exact .bind (.throw (G := fun _ => False) _) hM fun _ hfalse => hfalse.elim
  · exact hlaunch

/-- A cycle is something that happens. -/
theorem does_cycle (m : Machine) : ∃ d, Does m d (cycle.run.run m).2 := by
  by_cases hc : ∃ c m₀, commandHere.run.run m = (.ok (some c), m₀)
  · obtain ⟨c, m₀, hc⟩ := hc
    exact ⟨_, .cycle hc⟩
  · exact ⟨_, .idle fun c m₀ h => hc ⟨c, m₀, h⟩⟩

/-- So is a reply. -/
theorem does_feed (reply : Reply) (m : Machine) : ∃ d, Does m d ((feed reply).run.run m).2 := by
  cases hasking : m.console.asking? with
  | none => exact ⟨_, .store reply hasking⟩
  | some name => exact ⟨_, .feed reply hasking⟩

/-- The memory stays closed over whole sessions. -/
theorem attuned_closed : Attuned (fun request => request.drives = true) (fun _ => True)
    (Below fun m => m.memory.Closed) (Below fun m => m.memory.Closed) (fun _ => True) := by
  have hmatched {a : Action Progress} {m : Machine} (h : (a.run.run m).2.memory.Closed) :
      Matched (Below fun m => m.memory.Closed) (Below fun m => m.memory.Closed) (fun _ => True)
        (a.run.run m) (a.run.run m) :=
    matched_below (fun _ => h) (fun _ => h) fun _ _ => ⟨trivial, h⟩
  have hagrees {a : Action Unit} {m : Machine} (h : (a.run.run m).2.memory.Closed) :
      Agrees (Below fun m => m.memory.Closed) (fun _ => True) (course a m) (course a m) :=
    agrees_below h fun _ _ => trivial
  have hdoes {m m' : Machine} (hM : m.memory.Closed) (h : ∃ d, Does m d m') : m'.memory.Closed :=
    let ⟨_, hd⟩ := h
    (hd.alters hM).closed hM
  exact
    { drives := fun _ h => h
      start := by
        rintro m _ source _ ⟨rfl, hM⟩
        exact hmatched (leaves_start hM source rfl)
      feed := by
        rintro m _ reply _ ⟨rfl, hM⟩
        exact hmatched (hdoes hM (does_feed reply m))
      resume := by
        rintro m _ ⟨rfl, hM⟩
        exact hmatched (hdoes hM ⟨_, .resume⟩)
      fires := by
        rintro m _ ⟨rfl, hM⟩
        rfl
      wake := by
        rintro m _ ⟨rfl, hM⟩ _
        exact hmatched (hdoes hM ⟨_, .wake⟩)
      drain := by
        rintro m _ ⟨rfl, hM⟩ _
        exact ⟨rfl, hM⟩
      press := by
        rintro m _ key ⟨rfl, hM⟩
        exact hagrees (hdoes hM ⟨_, .press key⟩)
      stop := by
        rintro m _ ⟨rfl, hM⟩
        exact hagrees (hdoes hM ⟨_, .stop⟩)
      stopElsewhere := by
        rintro m _ ⟨rfl, hM⟩
        exact hagrees (hdoes hM ⟨_, .stopElsewhere⟩)
      finish := by
        rintro m _ fault _ ⟨rfl, hM⟩
        exact hagrees (hdoes hM ⟨_, .finish fault⟩)
      cycle := by
        rintro m _ ⟨rfl, hM⟩ _
        exact hmatched (hdoes hM (does_cycle m)) }

/-- A machine that has just been made has a closed memory, if neither its constants nor the points
of its display are arrays. -/
theorem IsNew.closed (hnew : IsNew m) (hconstants : ∀ v ∈ m.constants.values, v.IsPlain)
    (hpixels : ∀ d ∈ m.display, ∀ v ∈ d.pixels.values, v.IsPlain) : m.memory.Closed := by
  have hheap : m.memory.heap = {} := by
    rw [hnew]
    rfl
  have hvars : m.memory.vars = .empty := by
    rw [hnew]
    rfl
  have hloops : m.memory.loops = .empty := by
    rw [hnew]
    rfl
  refine
    { heap := hheap ▸ Heap.closed_empty
      constants := fun v hv => Memory.holds_of_isPlain (hconstants v hv)
      vars := fun v hv => by
        rw [hvars] at hv
        cases hv
      pixels := fun pixels h v hv => ?_
      loops := fun name loop hloop => by
        rw [hloops, Table.get?_empty] at hloop
        cases hloop }
  obtain ⟨d, hd, rfl⟩ := Option.map_eq_some_iff.mp h
  exact Memory.holds_of_isPlain (hpixels d hd v hv)

/-- Whatever a session comes to from there, the memory is closed. -/
theorem IsNew.closed_reached {m₀ : Machine} {requests : List Request} {n : Nat} (hnew : IsNew m₀)
    (hconstants : ∀ v ∈ m₀.constants.values, v.IsPlain)
    (hpixels : ∀ d ∈ m₀.display, ∀ v ∈ d.pixels.values, v.IsPlain)
    (hdrives : ∀ request ∈ requests, request.drives = true)
    (hk : k ∈ trail n requests m₀ ∨ ∃ answers, attend n requests m₀ = some (answers, k)) :
    k.memory.Closed := by
  have hclosed := hnew.closed hconstants hpixels
  rcases hk with hk | ⟨answers, hattend⟩
  · exact attuned_closed.trail_below hdrives hclosed (fun _ _ => trivial) k hk
  · exact (attuned_closed.attend_below hdrives hclosed (fun _ _ => trivial) hattend).1

end Machine

end LineBasic

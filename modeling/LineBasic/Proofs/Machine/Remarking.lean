import LineBasic.Proofs.Machine.Anchoring
import LineBasic.Proofs.Machine.Driving
import LineBasic.Proofs.Machine.Lagging
import LineBasic.Proofs.Program.Remarking

/-!
# Remarks are not noticed

A program is run with a remark and without it, on the same machine and with the same requests. The
machine with the remark takes a cycle more whenever it comes to the remark: at the start, from the
line before, back in a loop or from a call, or after a pause or a question. `Remarked` relates the
two machines. What one keeps to go back to is taken to the other by `Remark.skip`, and all else but
the log is equal.

A statement is performed alike where the machine is not at the remark. It leaves its line by a jump
only, so the machines then stand at the same line, and a fault in it has the same line on both
sides. A reply that is missing is another matter: it ends a run that waits, and the run may wait at
the remark.
-/

namespace LineBasic

/-- Two runs come out alike, the first one of a program with a remark. Unless all replies are texts,
a missing one may end them, at the remark and at the line after it. -/
inductive Remark.SameEnd {p : Program} (q : Remark p) (texts : Prop) :
    Completion → Completion → Prop where
  | same (c : Completion) : SameEnd q texts c c
  | unanswered (h : ¬ texts) :
      SameEnd q texts (.done { fault := some .absent, line := some q.number })
        (.done { fault := some .absent, line := some q.next.number })

def Remark.InPlace {p : Program} (q : Remark p) (_jumped : Bool) (n : Int) : Prop := n ≠ q.number

def Remark.InPlaceUnlessJumped {p : Program} (q : Remark p) (jumped : Bool) (n : Int) : Prop :=
  jumped = false → n ≠ q.number

namespace Machine

variable {α β : Type} {p : Program} {q : Remark p} {texts : Prop} {K K' : Bool → Int → Prop}
  {m m' : Machine}

/-- A machine with a program and a remark in it and a machine with the program alone, at places that
go together. The place of the first one satisfies `K`. -/
inductive RemarkedAt (q : Remark p) (texts : Prop) (K : Bool → Int → Prop) :
    Machine → Machine → Prop where
  | mk {m : Machine} {completion' : Completion} {log' : Array LogRecord}
      (program : m.program = q.program) (here : K m.jumped m.cursor)
      (completion : q.SameEnd texts m.completion completion') :
      RemarkedAt q texts K m
        { m with
          program := p, cursor := q.skip m.cursor, loops := m.loops.map q.skipLoop,
          stack := m.stack.map q.skip, completion := completion', log := log' }

/-- A machine with a program and a remark in it and a machine with the program alone. -/
def Remarked (q : Remark p) (texts : Prop) : Machine → Machine → Prop :=
  RemarkedAt q texts fun _ _ => True

theorem RemarkedAt.imp (h : RemarkedAt q texts K m m') (hK : K m.jumped m.cursor →
    K' m.jumped m.cursor) : RemarkedAt q texts K' m m' := by
  cases h with
  | mk program here completion => exact ⟨program, hK here, completion⟩

theorem RemarkedAt.forget (h : RemarkedAt q texts K m m') : Remarked q texts m m' :=
  h.imp fun _ => trivial

theorem RemarkedAt.here (h : RemarkedAt q texts K m m') : K m.jumped m.cursor := by
  cases h with
  | mk program here completion => exact here

theorem RemarkedAt.program (h : RemarkedAt q texts K m m') : m.program = q.program := by
  cases h with
  | mk program here completion => exact program

/-! ## Ending a run -/

theorem remarkedAt_trace (level : Int) (message message' : String) :
    Simulates (RemarkedAt q texts K) (trace level message) (trace level message') := by
  intro m m' h
  obtain ⟨log, hlog⟩ := run_trace level message m
  obtain ⟨log', hlog'⟩ := run_trace level message' m'
  rw [hlog, hlog']
  cases h with
  | mk program here completion => exact ⟨rfl, program, here, completion⟩

theorem remarkedAt_complete {o o' : Outcome} (ho : q.SameEnd texts (.done o) (.done o')) :
    Simulates (RemarkedAt q texts K) (complete o) (complete o') := by
  have hdone : Simulates (RemarkedAt q texts K)
      (modify fun m => { m with completion := .done o } : Action Unit)
      (modify fun m => { m with completion := .done o' }) := by
    refine simulates_modify ?_
    rintro m _ ⟨program, here, -⟩
    exact ⟨program, here, ho⟩
  refine simulates_get fun m m' h => ?_
  have hcompletion : q.SameEnd texts m.completion m'.completion := by cases h; assumption
  generalize m.completion = c at hcompletion
  generalize m'.completion = c' at hcompletion
  cases hcompletion with
  | unanswered h => exact simulates_throw _
  | same =>
      cases c with
      | absent => exact simulates_pure _
      | pending => exact hdone
      | done o => exact simulates_throw _

/-- Runs end alike: without a fault, with a fault in place, or for want of a reply. -/
theorem remarkedAt_finish {fault : Option Fault}
    (hfault : ∀ e, fault = some e →
      (∀ jumped n, K jumped n → n ≠ q.number) ∨ e = .absent ∧ ¬ texts) :
    Simulates (RemarkedAt q texts K) (finish fault) (finish fault) := by
  have hconclude : Simulates (RemarkedAt q texts K) (conclude fault) (conclude fault) := by
    cases fault with
    | none =>
        refine simulates_bind (remarkedAt_trace _ _ _) fun _ => ?_
        exact remarkedAt_complete (.same _)
    | some e =>
        refine simulates_get fun m m' h => ?_
        by_cases hplace : m.cursor = q.number
        · obtain ⟨rfl, htexts⟩ := (hfault e rfl).resolve_left fun hK => hK _ _ h.here hplace
          have hline : m.currentLine = some (q.number : Int) := by
            simp [currentLine, hplace]
          have hline' : m'.currentLine = some (q.next.number : Int) := by
            cases h with
            | mk program here completion => simp [currentLine, hplace]
          rw [hline, hline']
          refine simulates_bind (simulates_liftM (describe .absent)) fun message => ?_
          refine simulates_bind (remarkedAt_trace _ _ _) fun _ => ?_
          exact remarkedAt_complete (.unanswered htexts)
        · have hline : m'.currentLine = m.currentLine := by
            cases h with
            | mk program here completion => simp [currentLine, q.skip_of_ne hplace]
          rw [hline]
          refine simulates_bind (simulates_liftM _) fun message => ?_
          refine simulates_bind (remarkedAt_trace _ _ _) fun _ => ?_
          exact remarkedAt_complete (.same _)
  have hcancel : ∀ ⦃m m'⦄, RemarkedAt q texts K m m' → RemarkedAt q texts K
      { cancelTimer m with phase := .ended } { cancelTimer m' with phase := .ended } := by
    intro m m' h
    have htimers : m'.timer = m.timer := by cases h; rfl
    cases htimer : m.timer with
    | none =>
        rw [cancelTimer_none htimer, cancelTimer_none (htimers.trans htimer)]
        cases h with
        | mk program here completion => exact ⟨program, here, completion⟩
    | some id =>
        rw [cancelTimer_some htimer, cancelTimer_some (htimers.trans htimer)]
        cases h with
        | mk program here completion => exact ⟨program, here, completion⟩
  rw [finish_eq]
  refine simulates_get fun m m' h => ?_
  have hphase : m.phase = m'.phase := by cases h; rfl
  rw [hphase]
  split
  · exact simulates_pure _
  · exact simulates_bind (simulates_modify hcancel) fun _ => hconclude

theorem remarkedAt_end : Simulates (RemarkedAt q texts K) (finish none) (finish none) :=
  remarkedAt_finish nofun

/-- In place, a run ends alike with any fault. -/
theorem remarkedAt_fail (e : Fault) :
    Simulates (RemarkedAt q texts q.InPlace) (finish (some e)) (finish (some e)) :=
  remarkedAt_finish fun _ _ => .inl fun _ _ h => h

/-! ## Requests -/

/-- Commands on data and requests take no notice of line numbers. -/
theorem remarkedAt_requestFrame (q : Remark p) (texts : Prop) (K : Bool → Int → Prop) :
    RequestFrame (RemarkedAt q texts K) where
  constants := by rintro m _ ⟨_⟩; rfl
  functions := by rintro m _ ⟨_⟩; rfl
  heap := by rintro m _ ⟨_⟩; rfl
  vars := by rintro m _ ⟨_⟩; rfl
  display := by rintro m _ ⟨_⟩; rfl
  dice := by rintro m _ ⟨_⟩; rfl
  phase := by rintro m _ ⟨_⟩; rfl
  halted := by rintro m _ ⟨_⟩; rfl
  waiting := by rintro m _ ⟨_⟩; rfl
  delay := by rintro m _ ⟨_⟩; rfl
  fires := by rintro m _ ⟨_⟩; rfl
  asked := by rintro m _ reply ⟨_⟩; rfl
  setDisplay := by rintro m _ d ⟨h₁, h₂, h₃⟩; exact ⟨h₁, h₂, h₃⟩
  setDice := by rintro m _ d ⟨h₁, h₂, h₃⟩; exact ⟨h₁, h₂, h₃⟩
  push := by rintro m _ r ⟨h₁, h₂, h₃⟩; exact ⟨h₁, h₂, h₃⟩
  setVars := by rintro m _ v ⟨h₁, h₂, h₃⟩; exact ⟨h₁, h₂, h₃⟩
  setHeap := by rintro m _ v ⟨h₁, h₂, h₃⟩; exact ⟨h₁, h₂, h₃⟩
  write := by rintro m _ text ⟨h₁, h₂, h₃⟩; exact ⟨h₁, h₂, h₃⟩
  clear := by rintro m _ ⟨h₁, h₂, h₃⟩; exact ⟨h₁, h₂, h₃⟩
  setPhase := by rintro m _ phase ⟨h₁, h₂, h₃⟩; exact ⟨h₁, h₂, h₃⟩
  halt := by rintro m _ ⟨h₁, h₂, h₃⟩; exact ⟨h₁, h₂, h₃⟩
  setWaiting := by rintro m _ b ⟨h₁, h₂, h₃⟩; exact ⟨h₁, h₂, h₃⟩
  setDelay := by rintro m _ d ⟨h₁, h₂, h₃⟩; exact ⟨h₁, h₂, h₃⟩
  setTimer := by rintro m _ d ⟨h₁, h₂, h₃⟩; exact ⟨h₁, h₂, h₃⟩
  dropTimer := by rintro m _ ⟨h₁, h₂, h₃⟩; exact ⟨h₁, h₂, h₃⟩
  pop := by rintro m _ ⟨h₁, h₂, h₃⟩; exact ⟨h₁, h₂, h₃⟩
  feed := by rintro m _ reply ⟨h₁, h₂, h₃⟩; exact ⟨h₁, h₂, h₃⟩
  ends := remarkedAt_end
  stop := by
    intro m m' name _ _
    refine simulates_stop remarkedAt_end ?_ ?_
    · rintro m _ ⟨_⟩; rfl
    · rintro m _ ⟨h₁, h₂, h₃⟩; exact ⟨h₁, h₂, h₃⟩

/-! ## Statements -/

/-- Two actions have come to the same result on machines in place, which leave their place by a jump
only. A fault has left them in place. -/
inductive Left (q : Remark p) (texts : Prop) :
    Except Fault α × Machine → Except Fault α × Machine → Prop where
  | ok (x : α) {m m' : Machine} (h : RemarkedAt q texts q.InPlaceUnlessJumped m m') :
      Left q texts (.ok x, m) (.ok x, m')
  | error (e : Fault) {m m' : Machine} (h : RemarkedAt q texts q.InPlace m m') :
      Left q texts (.error e, m) (.error e, m')

/-- Two actions do the same on machines in place. -/
def LeavesPlace (q : Remark p) (texts : Prop) (a b : Action α) : Prop :=
  ∀ ⦃m m'⦄, RemarkedAt q texts q.InPlace m m' → Left q texts (a.run.run m) (b.run.run m')

/-- What stays in place may come first. -/
theorem leavesPlace_bind {a b : Action α} {k l : α → Action β}
    (h : Simulates (RemarkedAt q texts q.InPlace) a b)
    (hk : ∀ x, LeavesPlace q texts (k x) (l x)) : LeavesPlace q texts (a >>= k) (b >>= l) := by
  intro m m' hm
  obtain ⟨hres, hrel⟩ := h hm
  rw [run_bind, run_bind]
  rcases ha : a.run.run m with ⟨x, m₁⟩
  rcases hb : b.run.run m' with ⟨y, m₁'⟩
  rw [ha, hb] at hres hrel
  cases hres
  cases x with
  | error e => exact .error e hrel
  | ok x => exact hk x hrel

theorem leavesPlace_pure (x : α) : LeavesPlace q texts (pure x : Action α) (pure x) :=
  fun _ _ hm => .ok x (hm.imp fun hplace _ => hplace)

theorem leavesPlace_get {k l : Machine → Action α}
    (h : ∀ ⦃m m'⦄, RemarkedAt q texts q.InPlace m m' → LeavesPlace q texts (k m) (l m')) :
    LeavesPlace q texts (get >>= k) (get >>= l) :=
  fun _ _ hm => h hm hm

theorem leavesPlace_throw (e : Fault) : LeavesPlace q texts (throw e : Action α) (throw e) :=
  fun _ _ hm => .error e hm

/-- A command on data stays in place. -/
theorem Simulates.leavesPlace {a b : Action α}
    (h : Simulates (RemarkedAt q texts q.InPlace) a b) : LeavesPlace q texts a b := by
  intro m m' hm
  obtain ⟨hres, hrel⟩ := h hm
  rcases ha : a.run.run m with ⟨x, m₁⟩
  rcases hb : b.run.run m' with ⟨y, m₁'⟩
  rw [ha, hb] at hres hrel
  cases hres
  cases x with
  | error e => exact .error e hrel
  | ok x => exact .ok x (hrel.imp fun hplace _ => hplace)

/-- Nothing comes after a jump. -/
theorem LeavesPlace.quiet {a b : Action Unit} (h : LeavesPlace q texts a b) :
    LeavesPlace q texts (do a; return .quiet : Action Reaction) (do b; return .quiet) := by
  intro m m' hm
  have hleft := h hm
  rw [run_bind, run_bind]
  generalize a.run.run m = x at hleft
  generalize b.run.run m' = x' at hleft
  cases hleft with
  | ok x h₁ => exact .ok _ h₁
  | error e h₁ => exact .error e h₁

/-- Jumps to places that go together. -/
theorem leavesPlace_jumpTo (hp : p.Writable) (n : Int) :
    LeavesPlace q texts (jumpTo n) (jumpTo (q.skip n)) := by
  have hsame := q.isSome_writeInt?_skip hp n
  unfold jumpTo
  cases hn : Decimal.writeInt? n with
  | none =>
      rw [hn, Option.isSome_none, Option.isSome_eq_false_iff, Option.isNone_iff_eq_none] at hsame
      rw [hsame]
      exact leavesPlace_throw _
  | some digits =>
      rw [hn, Option.isSome_some] at hsame
      obtain ⟨digits', hn'⟩ := Option.isSome_iff_exists.mp hsame
      rw [hn']
      refine leavesPlace_bind (remarkedAt_trace _ _ _) fun _ => ?_
      rintro m _ ⟨program, here, completion⟩
      exact .ok () ⟨program, nofun, completion⟩

/-- The lines after machines in place go together. -/
theorem next?_rel (h : RemarkedAt q texts q.InPlace m m') :
    Option.Rel (fun l l' : Line => (l'.number : Int) = q.skip l.number)
      (m.program.next? m.cursor) (m'.program.next? m'.cursor) := by
  obtain ⟨program, here, completion⟩ := h
  dsimp only
  rw [program, q.skip_of_ne here]
  exact q.next?_program m.cursor

/-- A call from a line in place comes back to places that go together. -/
theorem backLine_skip (h : RemarkedAt q texts q.InPlace m m') :
    backLine m' = q.skip (backLine m) := by
  have hnext := next?_rel h
  unfold backLine
  cases hline : m.program.next? m.cursor with
  | none =>
      rw [hline] at hnext
      generalize m'.program.next? m'.cursor = x' at hnext
      cases hnext
      obtain ⟨program, here, completion⟩ := h
      rw [program] at hline
      dsimp only
      rw [q.skip_succ hline, q.skip_of_ne here]
  | some l =>
      rw [hline] at hnext
      generalize m'.program.next? m'.cursor = x' at hnext
      cases hnext with
      | some h => exact h

theorem leavesPlace_callLine (hp : p.Writable) {target : Nat} (h : target ≠ q.number) :
    LeavesPlace q texts (callLine target) (callLine target) := by
  refine leavesPlace_bind (simulates_modify fun m m' hm => ?_) fun _ => ?_
  · have hback := backLine_skip hm
    change RemarkedAt q texts q.InPlace { m with stack := backLine m :: m.stack }
      { m' with stack := backLine m' :: m'.stack }
    rw [hback]
    obtain ⟨program, here, completion⟩ := hm
    exact ⟨program, here, completion⟩
  · have hjump : LeavesPlace q texts (jumpTo target) (jumpTo (q.skip target)) :=
      leavesPlace_jumpTo hp target
    rw [q.skip_of_ne (mt Int.natCast_inj.mp h)] at hjump
    exact hjump

theorem leavesPlace_returnFromCall (hp : p.Writable) :
    LeavesPlace q texts returnFromCall returnFromCall := by
  refine leavesPlace_get ?_
  rintro m _ ⟨program, here, completion⟩
  dsimp only
  cases m.stack with
  | nil => exact leavesPlace_throw _
  | cons back rest =>
      refine leavesPlace_bind (simulates_modify ?_) fun _ => leavesPlace_jumpTo hp back
      rintro m _ ⟨program, here, completion⟩
      exact ⟨program, here, completion⟩

/-- Loops are opened over lines that go together. -/
theorem remarkedAt_startLoop (name : String) (value increment bound : Value) :
    Simulates (RemarkedAt q texts q.InPlace) (startLoop name value increment bound)
      (startLoop name value increment bound) := by
  have F := remarkedAt_requestFrame q texts q.InPlace
  have hrest : Simulates (RemarkedAt q texts q.InPlace) (openLoop name value increment bound)
      (openLoop name value increment bound) := by
    refine simulates_bind (F.setVariable name value) fun _ => simulates_get ?_
    intro m m' hm
    have hnext := next?_rel hm
    have hloops : m'.loops = m.loops.map q.skipLoop := by cases hm; rfl
    generalize m.program.next? m.cursor = x at hnext
    generalize m'.program.next? m'.cursor = x' at hnext
    cases hnext with
    | none => exact remarkedAt_end
    | @some l l' h =>
        have hloop := q.skipLoop_eq h name value increment bound
        refine simulates_set ?_
        rw [hloops, ← hloop, ← Table.map_insert]
        cases hm with
        | mk program here completion => exact ⟨program, here, completion⟩
  rw [startLoop_eq]
  refine simulates_bind (remarkedAt_trace _ _ _) fun _ => simulates_get fun m m' h => ?_
  rw [F.heap h]
  refine simulates_bind (simulates_liftM _) fun zero => ?_
  dsimp only
  split
  · exact simulates_bind (simulates_throw _) fun _ => hrest
  · exact hrest

/-- Loops go back to places that go together. -/
theorem leavesPlace_advanceLoop (hp : p.Writable) (name : String) :
    LeavesPlace q texts (advanceLoop name) (advanceLoop name) := by
  have F := remarkedAt_requestFrame q texts q.InPlace
  refine leavesPlace_bind (remarkedAt_trace _ _ _) fun _ => leavesPlace_get ?_
  rintro m _ ⟨program, here, completion⟩
  dsimp only
  rw [Table.get?_map]
  cases m.loops.get? name with
  | none => exact leavesPlace_throw _
  | some loop =>
      dsimp only [Option.map_some]
      refine leavesPlace_bind (simulates_liftM _) fun value => ?_
      refine leavesPlace_bind (simulates_modify ?_) fun _ => ?_
      · rintro m₁ _ ⟨program, here, completion⟩
        have hloops := Table.map_insert q.skipLoop m₁.loops name { loop with value := value }
        dsimp only [Remark.skipLoop] at hloops ⊢
        rw [← hloops]
        exact ⟨program, here, completion⟩
      · refine leavesPlace_bind (F.setVariable _ value) fun _ => ?_
        refine leavesPlace_bind (simulates_liftM _) fun done => ?_
        split
        · exact leavesPlace_pure _
        · have hjump : LeavesPlace q texts (jumpTo loop.line) (jumpTo (q.skip loop.line)) :=
            leavesPlace_jumpTo hp loop.line
          rw [← q.skipLoop_line] at hjump
          exact hjump

theorem remarkedAt_ask (name : String) :
    Simulates (RemarkedAt q texts q.InPlace) (ask name) (ask name) := by
  refine (remarkedAt_requestFrame q texts q.InPlace).asking remarkedAt_fail name ?_ ?_
  · rintro m _ ⟨_⟩; rfl
  · rintro m _ ⟨program, here, completion⟩; exact ⟨program, here, completion⟩

/-- Every command that does not go to the remark does the same in place. -/
theorem leavesPlace_performCommand (hp : p.Writable) {c : Command} (h : q.number ∉ c.targets) :
    LeavesPlace q texts (performCommand c) (performCommand c) := by
  have F := remarkedAt_requestFrame q texts q.InPlace
  cases c with
  | jump target =>
      have htarget : target ≠ q.number := by
        rintro rfl
        simp [Command.targets] at h
      have hjump : LeavesPlace q texts (jumpTo target) (jumpTo (q.skip target)) :=
        leavesPlace_jumpTo hp target
      rw [q.skip_of_ne (mt Int.natCast_inj.mp htarget)] at hjump
      exact hjump.quiet
  | call target =>
      have htarget : target ≠ q.number := by
        rintro rfl
        simp [Command.targets] at h
      exact (leavesPlace_callLine hp htarget).quiet
  | comeBack => exact (leavesPlace_returnFromCall hp).quiet
  | halt =>
      refine (simulates_bind (simulates_modify fun m m' hm => ?_) fun _ =>
        simulates_pure _).leavesPlace
      exact F.halt hm
  | loop name start stop step =>
      refine leavesPlace_bind (F.evaluate start) fun value => ?_
      refine leavesPlace_bind (F.evaluate step) fun increment => ?_
      refine leavesPlace_bind (F.evaluate stop) fun bound => ?_
      exact (remarkedAt_startLoop name value increment bound).leavesPlace.quiet
  | next name => exact (leavesPlace_advanceLoop hp name).quiet
  | pause millis =>
      refine leavesPlace_bind (F.evaluate millis) fun v => ?_
      have hpause := simulates_pauseFor F.heap (fun _ _ => remarkedAt_trace _ _ _) F.setDelay v
      exact hpause.leavesPlace.quiet
  | input prompt name =>
      cases prompt with
      | none => exact (remarkedAt_ask name).leavesPlace
      | some text =>
          exact leavesPlace_bind (F.writeText text) fun _ => (remarkedAt_ask name).leavesPlace
  | _ => exact (F.performCommand rfl).leavesPlace

theorem leavesPlace_performInstruction (hp : p.Writable) {i : Instruction}
    (h : q.number ∉ i.targets) :
    LeavesPlace q texts (performInstruction i) (performInstruction i) := by
  have F := remarkedAt_requestFrame q texts q.InPlace
  cases i with
  | command c => exact leavesPlace_performCommand hp h
  | branch condition yes no =>
      simp only [Instruction.targets, List.mem_append, not_or] at h
      refine leavesPlace_bind (F.evaluate condition) fun v => leavesPlace_get fun m m' hm => ?_
      rw [F.heap hm]
      split
      · exact leavesPlace_performCommand hp h.1
      · cases no with
        | none => exact leavesPlace_pure _
        | some c => exact leavesPlace_performCommand hp h.2

/-! ## Cycles -/

/-- A step does the same in place: it performs the line that both programs have there, or there is
none in either. -/
theorem remarked_step (hp : p.Writable) (h : RemarkedAt q texts q.InPlace m m') :
    (step.run.run m).1 = (step.run.run m').1 ∧
      RemarkedAt q texts q.InPlaceUnlessJumped (step.run.run m).2 (step.run.run m').2 := by
  have hend : ∀ e, Simulates (RemarkedAt q texts q.InPlace)
      (do finish (some e); return .quiet : Action Reaction)
      (do finish (some e); return .quiet) :=
    fun e => simulates_bind (remarkedAt_fail e) fun _ => simulates_pure _
  have hstay : ∀ {k k' : Machine}, RemarkedAt q texts q.InPlace k k' →
      RemarkedAt q texts q.InPlaceUnlessJumped k k' := fun hk => hk.imp fun hplace _ => hplace
  have hcursor : m'.cursor = m.cursor := by
    cases h with
    | mk program here completion => exact q.skip_of_ne here
  have hfind : m.program.find? m.cursor = m'.program.find? m'.cursor := by
    rw [hcursor, h.program, q.find?_program h.here]
    cases h
    rfl
  cases hline : m'.program.find? m'.cursor with
  | none =>
      rw [run_step_missing (hfind.trans hline), run_step_missing hline, hcursor]
      unfold missing
      split
      · exact ⟨rfl, hstay h⟩
      · obtain ⟨hres, hrel⟩ := hend (.run (.missingLine m.cursor) (some m.cursor)) h
        exact ⟨hres, hstay hrel⟩
  | some line =>
      obtain ⟨log, hstep⟩ := run_step_line (hfind.trans hline)
      obtain ⟨log', hstep'⟩ := run_step_line hline
      have hlogged : RemarkedAt q texts q.InPlace { m with log := log } { m' with log := log' } := by
        cases h with
        | mk program here completion => exact ⟨program, here, completion⟩
      have hmem : line ∈ p.lines := by
        have hprogram : m'.program = p := by cases h; rfl
        rw [hprogram] at hline
        exact List.mem_of_find?_eq_some hline
      have hleft := leavesPlace_performInstruction hp (q.untargeted line hmem) hlogged
      rw [hstep, hstep']
      generalize (performInstruction line.instruction).run.run { m with log := log } = x at hleft
      generalize (performInstruction line.instruction).run.run { m' with log := log' } = x' at hleft
      cases hleft with
      | ok reaction h₁ => exact ⟨rfl, h₁⟩
      | error e h₁ =>
          obtain ⟨hres, hrel⟩ := hend e h₁
          exact ⟨hres, hstay hrel⟩

/-- The move on from a statement: machines that have jumped are landed where they are, all others
are in place and go to the next line. -/
theorem remarked_moveOn (h : RemarkedAt q texts q.InPlaceUnlessJumped m m') :
    (moveOn.run.run m).1 = (moveOn.run.run m').1 ∧
      Remarked q texts (moveOn.run.run m).2 (moveOn.run.run m').2 := by
  have F := remarkedAt_requestFrame q texts fun _ _ => True
  have hjumped : m'.jumped = m.jumped := by cases h; rfl
  unfold moveOn
  rw [run_bind, run_bind, run_get, run_get]
  dsimp only
  rw [← F.phase h.forget, hjumped]
  split
  · exact ⟨rfl, h.forget⟩
  · split
    · refine ⟨rfl, ?_⟩
      cases h with
      | mk program here completion => exact ⟨program, trivial, completion⟩
    · next hnot =>
      have hplace : RemarkedAt q texts q.InPlace m m' :=
        h.imp fun hunless => hunless (by simpa using hnot)
      have hnext := next?_rel hplace
      generalize m.program.next? m.cursor = x at hnext
      generalize m'.program.next? m'.cursor = x' at hnext
      cases hnext with
      | none => exact F.finished h.forget
      | some hline =>
          refine ⟨rfl, ?_⟩
          dsimp only
          rw [run_bind, run_bind, run_set, run_set, hline]
          cases h with
          | mk program here completion => exact ⟨program, trivial, completion⟩

/-- A cycle does the same in place. -/
theorem remarked_cycle (hp : p.Writable) (h : RemarkedAt q texts q.InPlace m m') :
    Matched (Remarked q texts) (Remarked q texts) (fun _ => True) (cycle.run.run m)
      (cycle.run.run m') := by
  obtain ⟨hres, hrel⟩ := remarked_step hp h
  rw [cycle_eq_afterStep, run_bind, run_bind]
  rcases hstep : step.run.run m with ⟨x, m₁⟩
  rcases hstep' : step.run.run m' with ⟨y, m₁'⟩
  rw [hstep, hstep'] at hres hrel
  cases hres
  cases x with
  | error e => exact .error trivial hrel.forget
  | ok reaction =>
      obtain ⟨hres, hmoved⟩ := remarked_moveOn hrel
      dsimp only
      rw [afterStep, run_bind, run_bind]
      rcases hmove : moveOn.run.run m₁ with ⟨x, m₂⟩
      rcases hmove' : moveOn.run.run m₁' with ⟨y, m₂'⟩
      rw [hmove, hmove'] at hres hmoved
      cases hres
      cases x with
      | error e => exact .error trivial hmoved
      | ok progress =>
          cases progress with
          | stops => exact .stops hmoved
          | goesOn => exact (remarkedAt_requestFrame q texts _).boundary.matched hmoved

/-- At the remark a cycle does nothing but move on to the line after it. -/
theorem run_cycle_remark (h : Poised m) (hprogram : m.program = q.program)
    (hcursor : m.cursor = q.number) :
    ∃ log, cycle.run.run m =
      (.ok .goesOn, { m with cursor := (q.next.number : Int), log := log }) := by
  have hfind : m.program.find? m.cursor = some q.line := by
    rw [hprogram, hcursor]
    exact q.find?_number
  have hnext : m.program.next? m.cursor = some q.next := by
    rw [hprogram, hcursor]
    exact q.next?_number
  obtain ⟨log, hstep⟩ := run_step_line hfind
  refine ⟨log, ?_⟩
  have hquiet : step.run.run m = (.ok .quiet, { m with log := log }) := hstep
  have hstays : ¬ m.waiting = true := by simp [h.waiting]
  have hrest := run_afterStep (m := { m with log := log }) h.phase h.jumped h.halted h.delay hnext
  have hdelay : { m with cursor := (q.next.number : Int), delay := none, log := log } =
      { m with cursor := (q.next.number : Int), log := log } := by rw [← h.delay]
  rw [cycle_eq_afterStep, run_bind, hquiet]
  dsimp only
  rw [hrest, if_neg hstays, ← hdelay]

/-- A remark takes a cycle of its own, and all other cycles are those of the program without it. -/
theorem remarked_cycle_or (hp : p.Writable) (h : Remarked q texts m m') (hm : Poised m) :
    ∃ k, (k = m ∨ cycle.run.run m = (.ok .goesOn, k)) ∧
      Matched (fun m m' => Remarked q texts m m' ∧ Poised m)
        (fun m m' => Remarked q texts m m' ∧ Moored m) (fun _ => True)
        (cycle.run.run k) (cycle.run.run m') := by
  have hcycle : ∀ {k : Machine}, RemarkedAt q texts q.InPlace k m' → Poised k →
      Matched (fun m m' => Remarked q texts m m' ∧ Poised m)
        (fun m m' => Remarked q texts m m' ∧ Moored m) (fun _ => True)
        (cycle.run.run k) (cycle.run.run m') :=
    fun hk hpoised => (remarked_cycle hp hk).and (moors_cycle hpoised)
  by_cases hplace : m.cursor = q.number
  · obtain ⟨log, hskip⟩ := run_cycle_remark hm h.program hplace
    refine ⟨_, .inr hskip, hcycle ?_ ?_⟩
    · have hne : (q.next.number : Int) ≠ q.number := by
        have hlt := q.number_lt
        omega
      have hsame : q.skip m.cursor = q.skip q.next.number := by
        rw [hplace, q.skip_number, q.skip_of_mem q.next_mem]
      obtain ⟨program, -, completion⟩ := h
      rw [hsame]
      exact ⟨program, hne, completion⟩
    · have hmoors := moors_cycle hm
      rw [hskip] at hmoors
      cases hmoors with
      | goesOn hpoised => exact hpoised.2
  · exact ⟨m, .inl rfl, hcycle (h.imp fun _ => hplace) hm⟩

/-! ## Sessions -/

/-- Requests that follow the start of a run: they start no other one and do not end it from outside.
-/
def Request.Attends (request : Request) : Prop :=
  request.Continues ∧ ∀ fault, request ≠ .finish fault

/-- A session stays in pace with one without the remark. -/
theorem lagged_remarked (hp : p.Writable) (q : Remark p) (texts : Prop) :
    Lagged (fun request => request.Attends ∧ (request = .feed none → ¬ texts))
      (fun m m' => Remarked q texts m m' ∧ Poised m) (fun m m' => Remarked q texts m m' ∧ Moored m)
      (fun _ => True) where
  toReceptive := by
    have F := remarkedAt_requestFrame q texts fun _ _ => True
    refine Receptive.and (F.receptive ?_ ?_ ?_ ?_) attuned_moored.toReceptive ?_
    · exact fun _ h => h.1.1.1
    · exact fun source h => absurd rfl (h.1.1.2 source)
    · exact fun fault h => absurd rfl (h.1.2 fault)
    · intro h
      refine remarkedAt_finish ?_
      rintro _ ⟨⟩
      exact .inr ⟨rfl, h.2 rfl⟩
    · exact fun _ h => h.1.1.1
  cycle _ _ h := remarked_cycle_or hp h.1 h.2

theorem remarked_startProgram (q : Remark p) (texts : Prop) (m : Machine) :
    Matched (fun m m' => Remarked q texts m m' ∧ Poised m)
      (fun m m' => Remarked q texts m m' ∧ Moored m) (fun _ => True)
      ((startProgram q.program).run.run m) ((startProgram p).run.run m) := by
  have hoff : q.skip (-1) = -1 := q.skip_of_ne (by omega)
  have hplaced : Remarked q texts { reset m with program := q.program }
      { reset m with program := p } := by
    have hreset : ({ reset m with program := p } : Machine) =
        { reset m with
          program := p, cursor := q.skip (-1), loops := (reset m).loops.map q.skipLoop,
          stack := (reset m).stack.map q.skip } := by
      rw [hoff]
      rfl
    rw [hreset]
    exact ⟨rfl, trivial, .same _⟩
  refine Matched.and ?_ (moors_startProgram m q.program)
  have hnext := q.next?_program (-1)
  rw [Program.next?_outside, Program.next?_outside] at hnext
  unfold startProgram
  rw [run_bind, run_bind, run_modify, run_modify]
  dsimp only
  generalize q.program.first? = x at hnext
  generalize p.first? = x' at hnext
  cases hnext with
  | none => exact (remarkedAt_requestFrame q texts fun _ _ => True).finished.matched hplaced
  | some hline =>
      dsimp only
      rw [run_bind, run_bind, run_modify, run_modify, hline]
      exact .goesOn ⟨rfl, trivial, .same _⟩

/-- A session that runs a program stays in pace where the start of the run does. -/
theorem inPace_attendProgram {A : Request → Prop} {W R : Machine → Machine → Prop}
    {E : Fault → Prop} (T : Lagged A W R E) {requests : List Request}
    (hA : ∀ request ∈ requests, A request) {r : Program}
    (h : Matched W R E ((startProgram r).run.run m) ((startProgram p).run.run m')) :
    InPace R (fun n => attendProgram n r requests m) fun n => attendProgram n p requests m' := by
  let answering (n : Nat) (answer : Except Fault Value) (k : Machine) :=
    (attend n requests k).map fun y => (answer :: y.1, y.2)
  have hprogram (n : Nat) (p : Program) (m : Machine) : attendProgram n p requests m =
      (following n (startProgram p) m).bind fun z => answering n z.1 z.2 := by
    rw [attendProgram]
    cases following n (startProgram p) m <;> rfl
  simp only [hprogram]
  refine (T.following h).bind (f := answering) (g := answering) fun answer m m' hm => ?_
  exact (T.attend hA hm).map fun answers => answer :: answers

/-- Inserting a remark is not noticed. The same machine runs a program with a remark and without it,
and is asked the same requests after that: the two sessions have the same answers, if any, and come
to machines that differ in their programs, in the places they keep, where the line after the remark
stands for the remark, and in their logs. Where a reply was missing, the runs that it has ended may
name those two lines as well. A source is run as the program that it loads, all of whose lines have
numbers that can be written. -/
theorem remark_unnoticed (hp : p.Writable) (q : Remark p) (m : Machine)
    (hfree : m.phase = .idle ∨ m.phase = .ended) {requests : List Request}
    (hrequests : ∀ request ∈ requests, request.Attends) :
    InPace (Remarked q (.feed none ∉ requests)) (fun n => attendProgram n q.program requests m)
        (fun n => attendProgram n p requests m) ∧
      ∀ r source, Program.load source = .ok r → r.Writable ∧
        ∀ n, attend n (.run source :: requests) m = attendProgram n r requests m := by
  have hstart := remarked_startProgram q (.feed none ∉ requests) m
  have hallowed : ∀ request ∈ requests,
      request.Attends ∧ (request = .feed none → ¬ .feed none ∉ requests) := by
    intro request hrequest
    refine ⟨hrequests request hrequest, ?_⟩
    rintro rfl htexts
    exact htexts hrequest
  have hpace := inPace_attendProgram (lagged_remarked hp q _) hallowed hstart
  refine ⟨hpace.imp fun _ _ h => h.1, fun r source hload => ⟨Program.writable_of_load hload, ?_⟩⟩
  exact fun n => (attend_run_of_load hload hfree n requests).1

/-- A program that asks for a number and prints it. -/
def echoing : Program where
  lines := [⟨10, .command (.input none "X")⟩, ⟨30, .command (.print [⟨⟨"X", .var "X"⟩, none⟩])⟩]
  ascending := by decide

/-- A remark between the two lines. -/
def echoRemark : Remark echoing where
  number := 20
  text := ""
  next := ⟨30, .command (.print [⟨⟨"X", .var "X"⟩, none⟩])⟩
  fresh := by simp [echoing]
  untargeted := by simp [echoing, Instruction.targets, Command.targets]
  follows := rfl

/-- A reply comes while the run waits at the remark. -/
theorem remark_unnoticed_echoing :
    ∃ answers k k', attendProgram 4 echoRemark.program [.feed (some "7")]
        { constants := defaultConstants, functions := defaultFunctions } = some (answers, k) ∧
      attendProgram 2 echoing [.feed (some "7")]
        { constants := defaultConstants, functions := defaultFunctions } = some (answers, k') ∧
      k'.console.written = "7\n" ∧
      Remarked echoRemark (.feed none ∉ [Request.feed (some "7")]) k k' := by
  have hwritable : echoing.Writable := by
    unfold Program.Writable
    decide +kernel
  have hattends : ∀ request ∈ [Request.feed (some "7")], request.Attends := by
    simp [Request.Attends, Request.Continues, Request.drives]
  have hwritten : (attendProgram 2 echoing [.feed (some "7")]
      { constants := defaultConstants, functions := defaultFunctions }).map (·.2.console.written) =
        some "7\n" := by decide +kernel
  obtain ⟨⟨answers, k'⟩, hrun', hprinted⟩ := Option.map_eq_some_iff.mp hwritten
  obtain ⟨hpace, -⟩ := remark_unnoticed hwritable echoRemark
    { constants := defaultConstants, functions := defaultFunctions } (.inl rfl) hattends
  obtain ⟨k, hrun, hk⟩ := hpace.catches 2 answers k' hrun'
  exact ⟨answers, k, k', hrun, hrun', hprinted, hk⟩

/-- A missing reply ends the run that waits at the remark, and that line is the one named. Without
the remark it is the line after it. -/
theorem remark_noticed_unanswered :
    ∃ answers k k', attendProgram 2 echoRemark.program [.feed none]
        { constants := defaultConstants, functions := defaultFunctions } = some (answers, k) ∧
      attendProgram 2 echoing [.feed none]
        { constants := defaultConstants, functions := defaultFunctions } = some (answers, k') ∧
      k.completion = .done { fault := some .absent, line := some 20 } ∧
      k'.completion = .done { fault := some .absent, line := some 30 } :=
  ⟨_, _, _, rfl, rfl, rfl, rfl⟩

end Machine

end LineBasic

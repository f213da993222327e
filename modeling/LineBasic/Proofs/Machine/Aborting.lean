import LineBasic.Proofs.Grammar.Forming
import LineBasic.Proofs.Machine.Decoding
import LineBasic.Proofs.Machine.Evaluating
import LineBasic.Proofs.Machine.Holding
import LineBasic.Proofs.Machine.Renumbering

/-!
# Statements that fail have done nothing

Most statements evaluate all their expressions and convert the values before they write anything,
and what they write then cannot fail. So when such a statement fails, no more has happened than the
evaluation of expressions: `Spent m m'` says that `m'` is the machine `m` but for keys taken from the
front of the queue, numbers thrown and records logged.

`Withholds P a` says of an action that a property holds still when the action fails. An action that
upholds the property whatever becomes of it may come before one that withholds its writes, and an
action that cannot fail may come last. The commands for which this is so are those that
`Command.actsLast` lists. `CLS` is not among them: it clears the console before it misses the
display. Neither is `NEXT`, which writes the variable before it compares it with the bound.
-/

namespace LineBasic

/-- The commands that write only what cannot fail any more. -/
def Command.actsLast : Command → Bool
  | .print _ | .assign .. | .loop .. | .pause _ | .array _ | .plot .. | .jump _ | .call _ => true
  | _ => false

theorem Dice.thrown_thrown (d : Dice) (n k : Nat) : (d.thrown n).thrown k = d.thrown (n + k) := by
  induction k with
  | zero => rfl
  | succ k ih => rw [thrown, ih, Nat.add_succ, thrown]

namespace Machine

variable {α β : Type} {b : Bool} {P : Machine → Prop} {m m₀ m₁ m₂ : Machine}

/-- A machine and what the evaluation of expressions may make of it: keys are gone from the front of
the queue, numbers have been thrown, and records have been logged. -/
def Spent (m m' : Machine) : Prop :=
  ∃ taken thrown log,
    m' = { m with
      display := m.display.map fun d => { d with keys := d.keys.drop taken }
      dice := m.dice.thrown thrown
      log := log } ∧
    m.log.toList <+: log.toList

namespace Spent

theorem of_after (c : Calls) {log : Array LogRecord} (hlog : m.log.toList <+: log.toList) :
    Spent m { m.after c with log := log } :=
  ⟨c.keys, c.throws, log, rfl, hlog⟩

theorem of_log {log : Array LogRecord} (hlog : m.log.toList <+: log.toList) :
    Spent m { m with log := log } := by
  have h := of_after {} hlog
  rwa [after_none] at h

theorem refl (m : Machine) : Spent m m := of_log (List.prefix_refl _)

theorem trans (h : Spent m m₁) (h' : Spent m₁ m₂) : Spent m m₂ := by
  obtain ⟨taken, thrown, log, rfl, hlog⟩ := h
  obtain ⟨taken', thrown', log', rfl, hlog'⟩ := h'
  refine ⟨taken + taken', thrown + thrown', log', ?_, hlog.trans hlog'⟩
  simp only [Option.map_map, Function.comp_def, List.drop_drop, Dice.thrown_thrown]

theorem unstopped (h : Spent m m₁) (hm : Unstopped m) : Unstopped m₁ := by
  obtain ⟨taken, thrown, log, rfl, -⟩ := h
  exact hm

theorem accounted (h : Spent m m₁) (hm : Accounted b m) : Accounted b m₁ := by
  obtain ⟨taken, thrown, log, rfl, -⟩ := h
  exact ⟨hm.begun, hm.absent, hm.ended, hm.cursor, hm.program⟩

end Spent

/-! ## Actions that only spend -/

theorem spent_trace (level : Int) (message : String) (m : Machine) :
    Spent m ((trace level message).run.run m).2 := by
  unfold trace
  rw [run_bind, run_get]
  dsimp only
  split
  · exact .of_log (by simp)
  · exact .refl m

theorem spent_evaluate (hm : Unstopped m) (f : Formula) :
    Spent m ((evaluate f).run.run m).2 := by
  have hdraws := draws_evalExpr hm f.tree {}
  unfold evaluate
  cases hvalue : m.valueAt {} f.tree with
  | ok v =>
      rw [hvalue] at hdraws
      rw [run_logging_ok hdraws]
      exact .of_after _ (List.prefix_refl _)
  | error e =>
      rw [hvalue] at hdraws
      obtain ⟨made, -, hrun⟩ := run_logging_error hdraws f.text
      rw [hrun]
      exact .of_after made (by simp [after])

/-- An action only spends, whatever becomes of it. -/
abbrev Spends (m₀ : Machine) (a : Action α) : Prop := Upholds (fun _ => True) (Spent m₀) a

theorem spends_evaluate (h₀ : Unstopped m₀) (f : Formula) : Spends m₀ (evaluate f) :=
  fun _ h => ⟨h.trans (spent_evaluate (h.unstopped h₀) f), fun _ _ => trivial⟩

theorem spends_trace (level : Int) (message : String) : Spends m₀ (trace level message) :=
  fun m h => ⟨h.trans (spent_trace level message m), fun _ _ => trivial⟩

theorem spends_liftM (x : Except Fault α) : Spends m₀ (liftM x) := .liftM fun _ _ => trivial

theorem spends_throw (e : Fault) : Spends m₀ (throw e : Action α) := .throw trivial

theorem spends_itemTexts (h₀ : Unstopped m₀) (items : List PrintItem) :
    Spends m₀ (itemTexts items) := by
  induction items with
  | nil => exact .pure _
  | cons item rest ih =>
      refine .bind (spends_evaluate h₀ _) fun v => .get fun m _ => ?_
      exact .bind (spends_liftM _) fun text => .bind ih fun _ => .pure _

theorem spends_needDisplay : Spends m₀ needDisplay := by
  refine .get fun m _ => ?_
  split
  · exact .pure _
  · exact spends_throw _

theorem spends_arrayOf (name : String) : Spends m₀ (arrayOf name) := by
  refine .get fun m _ => ?_
  split
  · exact .pure _
  · exact spends_throw _

/-! ## Actions that write last -/

/-- A property holds still when an action fails. -/
def Withholds (P : Machine → Prop) (a : Action α) : Prop :=
  ∀ ⦃m : Machine⦄, P m → ∀ e m₁, a.run.run m = (.error e, m₁) → P m₁

namespace Withholds

/-- An action that cannot fail has nothing to withhold. -/
theorem of_ok {a : Action α} (h : ∀ m, P m → ∃ x m₁, a.run.run m = (.ok x, m₁)) :
    Withholds P a := by
  intro m hm e m₁ hrun
  obtain ⟨x, m₂, hok⟩ := h m hm
  cases hok.symm.trans hrun

theorem throw (e : Fault) : Withholds P (throw e : Action α) := by
  intro m hm e' m₁ hrun
  cases hrun
  exact hm

/-- What upholds the property may come before what withholds its writes. -/
theorem bind {E : Fault → Prop} {a : Action α} {k : α → Action β} (ha : Upholds E P a)
    (hk : ∀ x, Withholds P (k x)) : Withholds P (a >>= k) := by
  intro m hm e m₁ hrun
  have hkept := (ha hm).1
  rw [run_bind] at hrun
  rcases ha' : a.run.run m with ⟨e' | x, m₂⟩
  · rw [ha'] at hrun hkept
    cases hrun
    exact hkept
  · rw [ha'] at hrun hkept
    exact hk x hkept e m₁ hrun

/-- An action that has withheld its writes may be followed by one that cannot fail. -/
theorem followed {a : Action α} {x : β} (ha : Withholds P a) :
    Withholds P (do let _ ← a; return x) := by
  intro m hm e m₁ hrun
  rw [run_bind] at hrun
  rcases ha' : a.run.run m with ⟨e' | y, m₂⟩
  · rw [ha'] at hrun
    cases hrun
    exact ha hm e m₁ ha'
  · rw [ha'] at hrun
    cases hrun

theorem get {k : Machine → Action α} (hk : ∀ m, P m → Withholds P (k m)) :
    Withholds P (MonadState.get >>= k) :=
  fun m h => hk m h h

theorem modify (f : Machine → Machine) : Withholds P (modify f : Action Unit) :=
  of_ok fun _ _ => ⟨_, _, rfl⟩

end Withholds

/-- The end of a run that is accounted for does not fail. -/
theorem Accounted.run_finish (h : Accounted b m) {fault : Option Fault}
    (hfault : ∀ e ∈ fault, e.Tellable) : ∃ m₁, (finish fault).run.run m = (.ok (), m₁) := by
  rw [finish_eq, run_bind, run_get]
  dsimp only
  by_cases hended : m.phase = .ended
  · rw [if_pos hended]
    exact ⟨m, rfl⟩
  · obtain ⟨timers, timer, hcancel⟩ := cancelTimer_eq m
    obtain ⟨log, hrun⟩ := run_conclude
      (m := { m with timers := timers, timer := timer, phase := .ended }) hfault h.cursor
    rw [if_neg hended, run_bind, run_modify, hcancel]
    dsimp only
    rw [hrun]
    cases hc : m.completion with
    | absent | pending => exact ⟨_, by simp only [complete, run_bind, run_get]; rfl⟩
    | done o => exact absurd ((h.ended (by simp [hc])).mpr ⟨o, hc⟩) hended

theorem run_jumpTo {line : Int} (h : (Decimal.writeInt? line).isSome = true) (m : Machine) :
    ∃ m₁, (jumpTo line).run.run m = (.ok (), m₁) := by
  obtain ⟨digits, hdigits⟩ := Option.isSome_iff_exists.mp h
  obtain ⟨log, hlog⟩ := run_trace 1 ("goto " ++ digits) m
  unfold jumpTo
  simp only [hdigits, run_bind, hlog, run_modify]
  exact ⟨_, rfl⟩

/-- A jump fails before the cursor is set. -/
theorem withholds_jumpTo {E : Fault → Prop}
    (htrace : ∀ level message, Upholds E P (trace level message)) (line : Int) :
    Withholds P (jumpTo line) := by
  unfold jumpTo
  split
  · exact .throw _
  · exact .bind (htrace _ _) fun _ => .modify _

/-- A call writes the stack before it jumps, but the jump to a line that can be written does not
fail. -/
theorem withholds_callLine {line : Int} (h : (Decimal.writeInt? line).isSome = true) :
    Withholds P (callLine line) := by
  refine .of_ok fun m _ => ?_
  unfold callLine
  rw [run_bind, run_modify]
  dsimp only
  obtain ⟨m₁, hrun⟩ := run_jumpTo h _
  exact ⟨_, _, hrun⟩

theorem withholds_setElement (name : String) (index value : Value) :
    Withholds (Spent m₀) (setElement name index value) :=
  .bind (spends_arrayOf name) fun _ => .bind (spends_liftM _) fun _ => .modify _

theorem withholds_plot (x y color : Value) : Withholds (Spent m₀) (plot x y color) :=
  .bind spends_needDisplay fun _ => .bind (spends_liftM _) fun _ => .modify _

theorem withholds_pauseFor (millis : Value) : Withholds (Spent m₀) (pauseFor millis) := by
  refine .get fun m _ => .bind (spends_liftM _) fun text => .bind (spends_trace _ _) fun _ => ?_
  exact .bind (spends_liftM _) fun positive => .modify _

/-- A loop is opened without a fault: on the last line the run ends, and its end does not fail. -/
theorem withholds_openLoop (h₀ : Accounted b m₀) (name : String) (value increment bound : Value) :
    Withholds (Spent m₀) (openLoop name value increment bound) := by
  refine .of_ok fun m h => ?_
  have hm := h.accounted h₀
  have hset : Accounted b { m with vars := m.vars.insert name value } :=
    ⟨hm.begun, hm.absent, hm.ended, hm.cursor, hm.program⟩
  unfold openLoop setVariable
  rw [run_bind, run_modify]
  dsimp only
  rw [run_bind, run_get]
  dsimp only
  split
  · have hnone : ∀ e ∈ (none : Option Fault), e.Tellable := nofun
    obtain ⟨m₁, hrun⟩ := hset.run_finish hnone
    exact ⟨_, _, hrun⟩
  · exact ⟨_, _, rfl⟩

theorem withholds_startLoop (h₀ : Accounted b m₀) (name : String) (value increment bound : Value) :
    Withholds (Spent m₀) (startLoop name value increment bound) := by
  rw [startLoop_eq]
  refine .bind (spends_trace _ _) fun _ => .get fun m _ => .bind (spends_liftM _) fun zero => ?_
  split
  · exact .bind (spends_throw _) fun _ => withholds_openLoop h₀ name value increment bound
  · exact withholds_openLoop h₀ name value increment bound

/-- The commands that act last have done nothing when they fail. -/
theorem withholds_performCommand (h₀ : Unstopped m₀) (ha : Accounted b m₀) {c : Command}
    (hcall : ∀ target, c = .call target → (Decimal.writeInt? target).isSome = true)
    (hc : c.actsLast = true) : Withholds (Spent m₀) (performCommand c) := by
  cases c with
  | print items => exact .bind (spends_itemTexts h₀ items) fun _ => .followed (.modify _)
  | assign name index value =>
      cases index with
      | none => exact .bind (spends_evaluate h₀ value) fun _ => .followed (.modify _)
      | some index =>
          refine .bind (spends_evaluate h₀ value) fun v => ?_
          refine .bind (spends_evaluate h₀ index) fun i => ?_
          exact .followed (withholds_setElement name i v)
  | loop name start stop step =>
      refine .bind (spends_evaluate h₀ start) fun value => ?_
      refine .bind (spends_evaluate h₀ step) fun increment => ?_
      refine .bind (spends_evaluate h₀ stop) fun bound => ?_
      exact .followed (withholds_startLoop ha name value increment bound)
  | pause millis => exact .bind (spends_evaluate h₀ millis) fun v => .followed (withholds_pauseFor v)
  | array name => exact .followed (.modify _)
  | plot x y color =>
      refine .bind (spends_evaluate h₀ x) fun vx => .bind (spends_evaluate h₀ y) fun vy => ?_
      exact .bind (spends_evaluate h₀ color) fun vc => .followed (withholds_plot vx vy vc)
  | jump target => exact .followed (withholds_jumpTo spends_trace target)
  | call target => exact .followed (withholds_callLine (hcall target rfl))
  | _ => cases hc

/-- So has a branch with such commands. -/
theorem withholds_performInstruction (h₀ : Unstopped m₀) (ha : Accounted b m₀) {i : Instruction}
    (hformed : i.Formed) (hi : ∀ c ∈ i.commands, c.actsLast = true) :
    Withholds (Spent m₀) (performInstruction i) := by
  have hcall (c : Command) (hc : c.Formed) (target : Nat) (hsame : c = .call target) :
      (Decimal.writeInt? target).isSome = true := by
    subst hsame
    exact hc
  cases i with
  | command c =>
      exact withholds_performCommand h₀ ha (hcall c hformed) (hi c (by simp [Instruction.commands]))
  | branch condition yes no =>
      obtain ⟨-, hyes, hno, -⟩ := hformed
      refine .bind (spends_evaluate h₀ condition) fun v => .get fun m _ => ?_
      split
      · exact withholds_performCommand h₀ ha (hcall yes hyes)
          (hi yes (by simp [Instruction.commands]))
      · cases no with
        | none => exact .of_ok fun _ _ => ⟨_, _, rfl⟩
        | some c =>
            exact withholds_performCommand h₀ ha (hcall c (hno c rfl))
              (hi c (by simp [Instruction.commands]))

/-- A statement that fails has done nothing. Take any machine that a new one becomes in the course of
its requests, before a statement or between two requests, with whatever it has logged since. A line
of commands that act last is performed on it and fails: then keys have been taken from the front of
the queue, numbers have been thrown and records have been logged, and nothing else has changed. -/
theorem performInstruction_error_spent (hnew : IsNew m₀) (hunstopped : Unstopped m₀) (n : Nat)
    {requests : List Request} (hplain : ∀ request ∈ requests, request.Plain) {k : Machine}
    (hreached : k ∈ trail n requests m₀ ∨ ∃ answers, attend n requests m₀ = some (answers, k))
    {text : String} {line : Line} (hline : parseLine text = .ok line)
    (hlast : ∀ c ∈ line.instruction.commands, c.actsLast = true) (log : Array LogRecord) {e : Fault}
    (hrun : (performInstruction line.instruction).run.run { k with log := log } = (.error e, m₁)) :
    Spent { k with log := log } m₁ := by
  have hdrives : ∀ request ∈ requests, request.drives = true := fun r hr => (hplain r hr).1
  have hk : Unstopped k ∧ Accounted false k := by
    rcases hreached with htrail | ⟨answers, hattend⟩
    · exact ⟨attuned_unstopped.trail_below hdrives hunstopped (by simp) k htrail,
        (attuned_accounted.trail_below hplain hnew.accounted (by simp) k htrail).accounted⟩
    · exact ⟨(attuned_unstopped.attend_below hdrives hunstopped (by simp) hattend).1,
        (attuned_accounted.attend_below hplain hnew.accounted (by simp) hattend).1⟩
  have hunstopped₁ : Unstopped { k with log := log } := hk.1
  have haccounted₁ := lasting_accounted.log log hk.2
  exact withholds_performInstruction hunstopped₁ haccounted₁ (parseLine_formed hline).1 hlast
    (.refl _) e m₁ hrun

/-- A second item that cannot be computed keeps the first one from being shown, but a key is gone. -/
theorem performInstruction_error_spent_difference :
    ∃ k line m₁, k ∈ trail 1 [.run "10 PRINT \"A\"\n20 PRINT \"\\x\""]
        { constants := defaultConstants, functions := defaultFunctions,
          display := some { keys := ["x", "y"] } } ∧
      parseLine "1 PRINT 7, GETCHAR() - 1" = .ok line ∧
      (performInstruction line.instruction).run.run k = (.error .wrongType, m₁) ∧
      m₁.display.map (·.keys) = some ["y"] ∧ Spent k m₁ := by
  let m₀ : Machine :=
    { constants := defaultConstants, functions := defaultFunctions,
      display := some { keys := ["x", "y"] } }
  let k : Machine := { reset m₀ with program := garbled, cursor := 10 }
  let line : Line :=
    { number := 1
      instruction := .command (.print [
        { formula := { text := "7", tree := .number "7" }, separator := some .comma },
        { formula :=
            { text := "GETCHAR() - 1"
              tree := .binary .sub (.call "GETCHAR" []) (.number "1") }
          separator := none }]) }
  have hline : parseLine "1 PRINT 7, GETCHAR() - 1" = .ok line := by
    with_unfolding_all rfl
  have htrail : k ∈ trail 1 [.run "10 PRINT \"A\"\n20 PRINT \"\\x\""] m₀ := by
    have hidle : m₀.phase = .idle := rfl
    rw [(attend_run_of_load load_garbled (.inl hidle) 1 []).2]
    exact List.mem_append_left _ List.mem_cons_self
  have hnew : IsNew m₀ := rfl
  have hplain : ∀ request ∈ [Request.run "10 PRINT \"A\"\n20 PRINT \"\\x\""], request.Plain := by
    simp [Request.Plain, Request.drives]
  have hend : ((performInstruction line.instruction).run.run k).2.display.map (·.keys) =
      some ["y"] ∧
      ((performInstruction line.instruction).run.run k).1 = .error .wrongType := by
    decide +kernel
  rcases hrun : (performInstruction line.instruction).run.run k with ⟨e | r, m₁⟩
  · rw [hrun] at hend
    cases hend.2
    exact ⟨k, line, m₁, htrail, hline, hrun, hend.1,
      performInstruction_error_spent hnew defaultFunctions_unstopped 1 hplain (.inl htrail) hline
        (by decide) k.log hrun⟩
  · rw [hrun] at hend
    cases hend.2

end Machine

end LineBasic

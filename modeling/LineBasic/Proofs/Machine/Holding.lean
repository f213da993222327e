import LineBasic.Proofs.Machine.Answering
import LineBasic.Proofs.Machine.Recording

/-!
# Questions that hold the run

A run that asks a question with no reply at hand is to wait until the reply comes. To say what
becomes of each question, a ledger is kept beside the machine: an `Inquiry` for every question that
the latest run has asked, with the reply to it and the value that its variable had when the reply
had been handed over. The ledger also keeps the inquiries that were overtaken, those with no reply
yet when another statement was performed.

No inquiry is ever overtaken. Between requests an inquiry without a reply is held by a machine that
waits, with one exception. Whether there is a line to move to is looked at before whether a reply is
due, so a question on the last line of a program ends the run instead of holding it.
-/

namespace LineBasic

namespace Console

theorem ask_write_fst (c : Console) (text name : String) :
    ((c.write text).ask name).1 = (c.ask name).1 := by
  cases c with
  | buffer b =>
      cases hreplies : b.replies with
      | nil => simp [ask, write, hreplies]
      | cons reply rest => simp [ask, write, hreplies]
  | stream s => rfl

/-- A question that finds no reply is held. -/
theorem asking?_ask_of_none {c : Console} {name : String} (h : (c.ask name).1 = none) :
    (c.ask name).2.asking? = some name := by
  cases c with
  | buffer b =>
      cases hreplies : b.replies with
      | nil => simp [ask, asking?, hreplies]
      | cons reply rest => simp [ask, hreplies] at h
  | stream s => cases h

end Console

namespace Machine

/-- A question that a run has asked: the variable it is for, the reply if there is one, the value of
the variable once the reply had been handed over, and whether the question stands on the last line.
-/
structure Inquiry where
  name : String
  reply : Option Reply
  stored : Option Value
  closing : Bool

namespace Inquiry

def Stored (i : Inquiry) : Prop :=
  ∃ reply value, i.reply = some reply ∧ replyValue i.name reply = .ok value ∧ i.stored = some value

theorem Stored.reply_ne_none {i : Inquiry} (h : i.Stored) : i.reply ≠ none := by
  obtain ⟨reply, value, hreply, -⟩ := h
  simp [hreply]

/-- The inquiry when a reply for a variable has been handed over. -/
def answer (name : String) (reply : Reply) (stored : Option Value) (i : Inquiry) : Inquiry :=
  if i.name = name ∧ i.reply = none then { i with reply := some reply, stored := stored } else i

theorem Stored.answer_eq {i : Inquiry} (h : i.Stored) (name : String) (reply : Reply)
    (stored : Option Value) : i.answer name reply stored = i :=
  if_neg fun hopen => h.reply_ne_none hopen.2

end Inquiry

/-- What became of the questions of the latest run, and which of all questions were overtaken by a
statement. -/
structure Ledger where
  inquiries : List Inquiry := []
  overtaken : List Inquiry := []

/-- Keeps the ledger. -/
def inquirer : Recorder Ledger where
  begins _ m l := if m.phase = .idle ∨ m.phase = .ended then { l with inquiries := [] } else l
  hears reply m l :=
    match m.console.asking? with
    | none => l
    | some name =>
      if m.phase = .ended then l
      else
        let stored := ((feed reply).run.run m).2.vars.get? name
        { l with inquiries := l.inquiries.map (·.answer name reply stored) }
  notes k l :=
    { inquiries :=
        l.inquiries ++ (question? k).toList.map fun (name, reply) =>
          { name := name, reply := reply
            stored := reply.bind fun _ => (step.run.run k).2.vars.get? name
            closing := (k.program.next? k.cursor).isNone }
      overtaken := l.overtaken ++ l.inquiries.filter (·.reply.isNone) }

def Ledger.Settled (l : Ledger) : Prop := ∀ i ∈ l.inquiries, i.Stored

/-- Before a statement nothing is to hold the run back, and all its questions so far are settled. -/
structure Cleared (l : Ledger) (m : Machine) : Prop where
  phase : m.phase = .running
  halted : m.halted = false
  waiting : m.waiting = false
  delay : m.delay = none
  settled : l.Settled

/-- Between requests all questions are settled, or the last one is held by a machine that waits, or
the run has ended: by a question on its last line, or at fault over a reply. -/
inductive Reconciled (l : Ledger) (m : Machine) : Prop where
  | settled (h : l.Settled) (hphase : m.phase ≠ .waiting)
      (hpaused : m.phase = .paused → m.waiting = false ∧ m.delay = none)
  | holding (before : List Inquiry) (i : Inquiry) (h : l.inquiries = before ++ [i])
      (hbefore : ∀ j ∈ before, j.Stored) (hreply : i.reply = none) (hphase : m.phase = .waiting)
      (hasking : m.console.asking? = some i.name) (hdelay : m.delay = none)
  | closed (hphase : m.phase = .ended)
      (h : ∀ i ∈ l.inquiries, i.Stored ∨ i.reply = none ∧ i.closing = true)
  | failed (hphase : m.phase = .ended) (outcome : Outcome) (hdone : m.completion = .done outcome)
      (hfault : outcome.fault ≠ none) (h : ∀ i ∈ l.inquiries, i.reply ≠ none)

variable {l : Ledger} {m m₁ : Machine}

/-- What the ledger says of a machine is about its phase, its flags and the question held. -/
theorem Reconciled.congr (h : Reconciled l m) (hphase : m₁.phase = m.phase)
    (hwaiting : m₁.waiting = m.waiting) (hdelay : m₁.delay = m.delay)
    (hcompletion : m₁.completion = m.completion)
    (hasking : m.phase = .waiting → m₁.console.asking? = m.console.asking?) : Reconciled l m₁ := by
  cases h with
  | settled h hother hpaused =>
      exact .settled h (hphase ▸ hother) fun hp => by
        rw [hwaiting, hdelay]
        exact hpaused (hphase ▸ hp)
  | holding before i h hbefore hreply hwaits hheld hnone =>
      exact .holding before i h hbefore hreply (hphase.trans hwaits)
        ((hasking hwaits).trans hheld) (hdelay.trans hnone)
  | closed hended h => exact .closed (hphase.trans hended) h
  | failed hended outcome hdone hfault h =>
      exact .failed (hphase.trans hended) outcome (hcompletion.trans hdone) hfault h

/-- A run that ends with all questions settled. -/
theorem Ledger.Settled.ended (h : l.Settled) (hphase : m.phase = .ended) : Reconciled l m :=
  .settled h (by simp [hphase]) fun hpaused => by simp [hphase] at hpaused

/-! ## A cycle with no question open -/

theorem turns_boundary (h : l.Settled) (hphase : m.phase = .running)
    (hwaiting : m.waiting = false) : Turns Cleared Reconciled l (boundary.run.run m) := by
  have hawaits (hhalted : m.halted = false) :
      Turns Cleared Reconciled l (awaitReply.run.run { m with delay := none }) := by
    unfold awaitReply
    rw [run_bind, run_get]
    dsimp only
    rw [if_neg (by simp [hwaiting])]
    exact ⟨hphase, hhalted, hwaiting, rfl, h⟩
  have hsuspends (millis : Value) :
      Turns Cleared Reconciled l ((suspend millis).run.run { m with delay := none }) := by
    unfold suspend
    rw [run_bind, run_modify]
    dsimp only
    rw [run_bind, run_liftM]
    cases seconds millis with
    | error e => exact .settled h (by simp) fun _ => ⟨hwaiting, rfl⟩
    | ok s => exact .settled h (by simp) fun _ => ⟨hwaiting, rfl⟩
  unfold boundary
  rw [run_bind, run_get]
  dsimp only
  by_cases hhalted : m.halted = true
  · rw [if_pos hhalted]
    exact turns_finish (h.ended (finish_phase none m))
  · have hgoes : m.halted = false := by simpa using hhalted
    rw [if_neg hhalted, run_bind, run_set]
    dsimp only
    split
    · split
      · exact hsuspends _
      · exact hawaits hgoes
    · exact hawaits hgoes

/-- What follows a statement that has left no question open. -/
theorem turns_afterStep (h : l.Settled) (hphase : m.phase = .running ∨ m.phase = .ended)
    (hwaiting : m.waiting = false) : Turns Cleared Reconciled l (afterStep.run.run m) := by
  rw [run_afterStep_eq]
  split
  · next hended => exact h.ended hended
  · next hended =>
    have hrunning := hphase.resolve_right hended
    split
    · exact turns_boundary h hrunning hwaiting
    · split
      · exact turns_finish (h.ended (finish_phase none m))
      · exact turns_boundary h hrunning hwaiting

/-- What statements leave alone: the run goes on or has ended, and no reply is due unless a question
is asked. -/
def Undistracted (m : Machine) : Prop :=
  (m.phase = .running ∨ m.phase = .ended) ∧ m.waiting = false

theorem unaffected_undistracted : Unaffected Undistracted where
  display _ _ h := h
  dice _ _ h := h
  log _ _ h := h
  vars _ _ h := h
  heap _ _ h := h
  loops _ _ h := h
  stack _ _ h := h
  jump _ _ h := h
  halt _ h := h
  write _ _ h := h
  clear _ h := h
  ending m h := by
    obtain ⟨timers, timer, hcancel⟩ := cancelTimer_eq m
    rw [hcancel]
    exact ⟨.inr rfl, h.2⟩
  completion _ _ h := h

/-- A cycle on a statement that asks no question. -/
theorem turns_cycle_of_no_question (h : Cleared l m) (hq : question? m = none) :
    Turns Cleared Reconciled l (cycle.run.run m) := by
  have hpoised : Undistracted m := ⟨.inl h.phase, h.waiting⟩
  have hstep : Undistracted (step.run.run m).2 := by
    refine unaffected_undistracted.step
      (unaffected_undistracted.pauseFor fun _ _ h => h) ?_ hpoised
    intro prompt name m₀ hc
    cases askedName_of_no_question hc hq
  rw [cycle_eq_afterStep, run_bind]
  rcases hrun : step.run.run m with ⟨e | reaction, m₁⟩
  · rw [hrun] at hstep
    obtain ⟨hphase : m₁.phase = .running ∨ m₁.phase = .ended, -⟩ := hstep
    refine .settled h.settled ?_ fun hpaused => ?_
    · rcases hphase with hphase | hphase <;> simp [hphase]
    · rcases hphase with hphase | hphase <;> simp [hphase] at hpaused
  · rw [hrun] at hstep
    exact turns_afterStep h.settled hstep.1 hstep.2

/-! ## A cycle that asks a question -/

/-- Asking comes down to a reply that is received, or to a question that is held. -/
theorem run_ask (name : String) (m : Machine) :
    (ask name).run.run m =
      match (m.console.ask name).1 with
      | some reply =>
        (receive name reply).run.run
          { m with waiting := true, console := (m.console.ask name).2 }
      | none => (.ok .quiet, { m with waiting := true, console := (m.console.ask name).2 }) := by
  rw [ask_eq, run_bind, run_modify]
  dsimp only
  rw [run_bind, run_get]
  dsimp only
  rw [run_bind, run_set]
  dsimp only
  cases (m.console.ask name).1 with
  | none => rfl
  | some reply => rfl

theorem run_receive_ok (hphase : m.phase ≠ .ended) {name : String} {reply : Reply} {value : Value}
    (hvalue : replyValue name reply = .ok value) :
    (receive name reply).run.run m =
      (.ok .replied, { m with vars := m.vars.insert name value, waiting := false }) := by
  unfold receive
  rw [run_bind, run_get]
  dsimp only
  rw [if_neg hphase, hvalue]
  rfl

theorem run_receive_error (hphase : m.phase ≠ .ended) {name : String} {reply : Reply} {e : Fault}
    (hvalue : replyValue name reply = .error e) :
    (receive name reply).run.run m =
      (do finish (some e); return .quiet : Action Reaction).run.run m := by
  unfold receive
  rw [run_bind, run_get]
  dsimp only
  rw [if_neg hphase, hvalue]

/-- A reply that cannot be stored ends the run with a fault. -/
theorem run_receive_failed (hphase : m.phase ≠ .ended) (hpending : m.completion = .pending)
    (hcursor : (Decimal.writeInt? m.cursor).isSome = true) {name : String} {reply : Reply}
    {e : Fault} (hvalue : replyValue name reply = .error e) :
    ∃ m₁ outcome, (receive name reply).run.run m = (.ok .quiet, m₁) ∧ m₁.phase = .ended ∧
      m₁.completion = .done outcome ∧ outcome.fault ≠ none := by
  have htellable : ∀ e' ∈ some e, e'.Tellable := by
    rintro _ ⟨⟩
    exact Fault.tellable_of_isBare
      (Fault.isBare_of_isPrimitive (primitive_replyValue name reply e hvalue))
  obtain ⟨log, hfinish⟩ := run_finish_of_pending hphase hpending htellable hcursor
  have hreceive : (receive name reply).run.run m = (.ok .quiet, { cancelTimer m with
      phase := .ended, completion := .done (m.outcome (some e)), log := log }) := by
    rw [run_receive_error hphase hvalue, run_bind, hfinish]
    rfl
  exact ⟨_, _, hreceive, rfl, rfl, by simp [outcome]⟩

/-- A step on a question asks it, with the reply that the console has at hand. -/
theorem run_step_question (hphase : m.phase = .running)
    (hstop : ∀ name, m.functions.get? name ≠ some .stop) {name : String} {reply : Option Reply}
    (hq : question? m = some (name, reply)) :
    ∃ display dice log console, (console.ask name).1 = reply ∧ ∀ reaction m₁,
      (ask name).run.run { m with display := display, dice := dice, log := log,
                                  console := console } = (.ok reaction, m₁) →
      step.run.run m = (.ok reaction, m₁) := by
  obtain ⟨prompt, m₀, hc⟩ := question_eq_some hq
  obtain ⟨line, hline, -⟩ := commandHere_mem hc
  have hreply : (m₀.console.ask name).1 = reply := by
    simp only [question?, hc, askedName?, Option.map_some] at hq
    exact (Prod.mk.inj (Option.some.inj hq)).2
  have heval := commandHere_evaluated hphase
  rw [hc] at heval
  obtain ⟨display, dice, log, halted, rfl, hhalted | ⟨other, hother⟩⟩ := heval
  · subst hhalted
    cases prompt with
    | none =>
        refine ⟨display, dice, log, m.console, hreply, fun reaction m₁ hask => ?_⟩
        rw [run_step hline, run_bind, hc]
        dsimp only [performChosen, performCommand]
        rw [hask]
    | some text =>
        refine ⟨display, dice, log, m.console.write text, ?_, fun reaction m₁ hask => ?_⟩
        · rw [Console.ask_write_fst]
          exact hreply
        · rw [run_step hline, run_bind, hc]
          dsimp only [performChosen, performCommand]
          rw [run_bind, write, run_modify]
          dsimp only
          rw [hask]
  · exact absurd hother (hstop other)

/-- A boundary at which the run is to wait for a reply. -/
theorem run_boundary_waiting (hhalted : m.halted = false) (hdelay : m.delay = none)
    (hwaiting : m.waiting = true) :
    boundary.run.run m = (.ok .stops, { m with delay := none, phase := .waiting }) := by
  unfold boundary
  rw [run_bind, run_get]
  dsimp only
  rw [if_neg (by simp [hhalted]), run_bind, run_set, hdelay]
  dsimp only
  unfold awaitReply
  rw [run_bind, run_get]
  dsimp only
  rw [if_pos hwaiting]
  rfl

/-- What follows a question that found no reply: the machine holds it and waits, unless there is no
line to move to. -/
theorem turns_afterStep_held {before : List Inquiry} {i : Inquiry}
    (hl : l.inquiries = before ++ [i]) (hbefore : ∀ j ∈ before, j.Stored) (hreply : i.reply = none)
    (hclosing : i.closing = (m.program.next? m.cursor).isNone) (hphase : m.phase = .running)
    (hhalted : m.halted = false) (hwaiting : m.waiting = true) (hdelay : m.delay = none)
    (hasking : m.console.asking? = some i.name) :
    Turns Cleared Reconciled l (afterStep.run.run m) := by
  have hholds (m₁ : Machine) (hasking₁ : m₁.console.asking? = some i.name)
      (hhalted₁ : m₁.halted = false) (hwaiting₁ : m₁.waiting = true) (hdelay₁ : m₁.delay = none) :
      Turns Cleared Reconciled l (boundary.run.run m₁) := by
    rw [run_boundary_waiting hhalted₁ hdelay₁ hwaiting₁]
    exact .holding before i hl hbefore hreply rfl hasking₁ rfl
  rw [run_afterStep_eq, if_neg (by simp [hphase])]
  split
  · exact hholds _ hasking hhalted hwaiting hdelay
  · split
    · next hnone =>
      -- the run ends before it is asked whether a reply is due
      refine turns_finish (.closed (finish_phase none m) fun j hj => ?_)
      rw [hl] at hj
      rcases List.mem_append.mp hj with hj | hj
      · exact .inl (hbefore j hj)
      · cases List.mem_singleton.mp hj
        refine .inr ⟨hreply, ?_⟩
        rw [hclosing, hnone]
        rfl
    · exact hholds _ hasking hhalted hwaiting hdelay

/-- A cycle on a question. -/
theorem turns_cycle_of_question (h : Cleared l m) (haccounted : Accounted false m)
    (hstop : ∀ name, m.functions.get? name ≠ some .stop) {name : String} {reply : Option Reply}
    (hq : question? m = some (name, reply)) :
    Turns Cleared Reconciled (inquirer.notes m l) (cycle.run.run m) := by
  have hphase : m.phase ≠ .ended := by simp [h.phase]
  have hpending : m.completion = .pending := haccounted.pending (by simp [h.phase]) hphase
  obtain ⟨display, dice, log, console, hreply, hstep⟩ := run_step_question h.phase hstop hq
  have hask := run_ask name { m with display := display, dice := dice, log := log,
                                     console := console }
  have hnotes : (inquirer.notes m l).inquiries = l.inquiries ++
      [{ name := name, reply := reply
         stored := reply.bind fun _ => (step.run.run m).2.vars.get? name
         closing := (m.program.next? m.cursor).isNone }] := by
    simp [inquirer, hq]
  dsimp only at hask
  rw [hreply] at hask
  rw [cycle_eq_afterStep, run_bind]
  -- held, or answered from the queue, by a reply that can be stored or not
  cases reply with
  | none =>
      rw [hstep _ _ hask]
      exact turns_afterStep_held hnotes h.settled rfl rfl h.phase h.halted rfl h.delay
        (Console.asking?_ask_of_none hreply)
  | some reply =>
      dsimp only at hask
      cases hvalue : replyValue name reply with
      | ok value =>
          rw [run_receive_ok (by exact hphase) hvalue] at hask
          have hstored : (step.run.run m).2.vars.get? name = some value := by
            rw [hstep _ _ hask]
            simp
          rw [hstep _ _ hask]
          refine turns_afterStep (fun i hi => ?_) (.inl h.phase) rfl
          rw [hnotes] at hi
          rcases List.mem_append.mp hi with hi | hi
          · exact h.settled i hi
          · cases List.mem_singleton.mp hi
            exact ⟨reply, value, rfl, hvalue, hstored⟩
      | error e =>
          obtain ⟨m₁, outcome, hreceive, hended, hdone, hfault⟩ := run_receive_failed
            (m := { m with display := display, dice := dice, log := log, waiting := true,
                           console := (console.ask name).2 })
            hphase hpending haccounted.cursor hvalue
          rw [hreceive] at hask
          rw [hstep _ _ hask]
          dsimp only
          rw [run_afterStep_eq, if_pos hended]
          refine .failed hended outcome hdone hfault fun i hi => ?_
          rw [hnotes] at hi
          rcases List.mem_append.mp hi with hi | hi
          · exact (h.settled i hi).reply_ne_none
          · cases List.mem_singleton.mp hi
            exact Option.some_ne_none _

/-- Every cycle keeps the ledger reconciled with the machine. -/
theorem turns_cycle (h : Cleared l m) (haccounted : Accounted false m)
    (hstop : ∀ name, m.functions.get? name ≠ some .stop) :
    Turns Cleared Reconciled (inquirer.notes m l) (cycle.run.run m) := by
  cases hq : question? m with
  | none =>
      have hcleared : Cleared (inquirer.notes m l) m := by
        refine ⟨h.phase, h.halted, h.waiting, h.delay, fun i hi => h.settled i ?_⟩
        simpa [inquirer, hq] using hi
      exact turns_cycle_of_no_question hcleared hq
  | some question => exact turns_cycle_of_question h haccounted hstop hq

/-! ## Requests -/

/-- Taking up a run whose questions are settled. -/
theorem turns_goOn (h : l.Settled) (hwaiting : m.waiting = false) (hdelay : m.delay = none) :
    Turns Cleared Reconciled l (goOn.run.run m) := by
  unfold goOn
  rw [run_bind, run_get]
  dsimp only
  by_cases hhalted : m.halted = true
  · rw [if_pos hhalted]
    exact turns_finish (h.ended (finish_phase none m))
  · rw [if_neg hhalted]
    exact ⟨rfl, by simpa using hhalted, hwaiting, hdelay, h⟩

theorem turns_wake (h : Reconciled l m) : Turns Cleared Reconciled l (wake.run.run m) := by
  have huntimed : Reconciled l { m with timer := none } := h.congr rfl rfl rfl rfl fun _ => rfl
  unfold wake
  rw [run_bind, run_modify]
  dsimp only
  rw [run_bind, run_get]
  dsimp only
  by_cases hphase : m.phase = .paused
  · rw [if_pos hphase]
    cases h with
    | settled hsettled _ hpaused =>
        obtain ⟨hwaiting, hdelay⟩ := hpaused hphase
        exact turns_goOn hsettled hwaiting hdelay
    | holding _ _ _ _ _ hwaits => rw [hphase] at hwaits; cases hwaits
    | closed hended => rw [hphase] at hended; cases hended
    | failed hended => rw [hphase] at hended; cases hended
  · rw [if_neg hphase]
    exact huntimed

/-- A run that is accepted starts a ledger of its own. -/
theorem turns_start (h : Reconciled l m) (source : String) :
    Turns Cleared Reconciled (inquirer.begins source m l) ((start source).run.run m) := by
  have hnone : Ledger.Settled { l with inquiries := [] } := nofun
  rw [start_eq, run_bind, run_get]
  dsimp only
  split
  · next hbusy =>
    have hsame : inquirer.begins source m l = l := by
      refine if_neg ?_
      rcases hbusy with hbusy | hbusy | hbusy <;> simp [hbusy]
    rw [hsame]
    exact h
  · next hfree =>
    have hfresh : inquirer.begins source m l = { l with inquiries := [] } := by
      refine if_pos ?_
      cases hphase : m.phase <;> simp_all
    rw [hfresh]
    unfold launch
    rw [run_bind, run_modify]
    dsimp only
    cases Program.load source with
    | error e =>
        dsimp only
        split
        · exact .settled hnone (by simp [reset]) (by simp [reset])
        · exact turns_finish (hnone.ended (finish_phase (some e) _))
    | ok p =>
        dsimp only
        rw [run_bind, run_modify]
        dsimp only
        cases p.first? with
        | none => exact turns_finish (hnone.ended (finish_phase none _))
        | some line => exact ⟨rfl, rfl, rfl, rfl, hnone⟩

/-- A reply is handed to the question that is held. -/
theorem run_feed_asked {name : String} (hasking : m.console.asking? = some name) (reply : Reply) :
    (feed reply).run.run m = (receive name reply >>= react).run.run
      { m with console := (m.console.feed reply).2 } := by
  rw [feed_eq, run_bind, run_get]
  dsimp only
  rw [run_bind, run_set, Console.feed_fst, hasking]

theorem run_react_quiet (m : Machine) : (react .quiet).run.run m = (.ok .stops, m) := by
  unfold react
  rw [run_bind, run_get]
  dsimp only
  rw [if_neg (by simp)]
  rfl

/-- Questions that are settled stay so when a reply comes. -/
theorem Ledger.Settled.hears_eq (h : l.Settled) (reply : Reply) (m : Machine) :
    inquirer.hears reply m l = l := by
  have hsame (name : String) (stored : Option Value) :
      l.inquiries.map (·.answer name reply stored) = l.inquiries :=
    (List.map_congr_left fun i hi => (h i hi).answer_eq name reply stored).trans (List.map_id _)
  unfold inquirer
  dsimp only
  split
  · rfl
  · split
    · rfl
    · rw [hsame]

/-- A reply that comes while all questions are settled may be for a question of a former run. It
does not take up the run. -/
theorem turns_feed_of_settled (h : l.Settled) (hended : m.phase ≠ .ended)
    (hphase : m.phase ≠ .waiting)
    (hpaused : m.phase = .paused → m.waiting = false ∧ m.delay = none) (reply : Reply) :
    Turns Cleared Reconciled l ((feed reply).run.run m) := by
  cases hasking : m.console.asking? with
  | none =>
      rw [feed_eq, run_bind, run_get]
      dsimp only
      rw [run_bind, run_set, Console.feed_fst, hasking]
      exact .settled h hphase hpaused
  | some name =>
      rw [run_feed_asked hasking, run_bind]
      cases hvalue : replyValue name reply with
      | ok value =>
          rw [run_receive_ok (by exact hended) hvalue]
          dsimp only
          unfold react
          rw [run_bind, run_get]
          dsimp only
          rw [if_neg fun hwaits => hphase hwaits.2]
          exact .settled h hphase fun hp => ⟨rfl, (hpaused hp).2⟩
      | error e =>
          have hends := finish_phase (some e) { m with console := (m.console.feed reply).2 }
          rw [run_receive_error (by exact hended) hvalue, run_bind]
          rcases hfinish : (finish (some e)).run.run
            { m with console := (m.console.feed reply).2 } with ⟨e' | _, m₁⟩
          · rw [hfinish] at hends
            exact h.ended hends
          · rw [hfinish] at hends
            dsimp only
            rw [run_pure]
            dsimp only
            rw [run_react_quiet]
            exact h.ended hends

/-- The reply to the question that is held is stored and takes up the run, or ends it at fault. -/
theorem turns_feed_of_holding {before : List Inquiry} {i : Inquiry}
    (hl : l.inquiries = before ++ [i]) (hbefore : ∀ j ∈ before, j.Stored) (hreply : i.reply = none)
    (hphase : m.phase = .waiting) (hasking : m.console.asking? = some i.name)
    (hdelay : m.delay = none) (haccounted : Accounted false m) (reply : Reply) :
    Turns Cleared Reconciled (inquirer.hears reply m l) ((feed reply).run.run m) := by
  have hended : m.phase ≠ .ended := by simp [hphase]
  have hpending : m.completion = .pending := haccounted.pending (by simp [hphase]) hended
  have hanswer (stored : Option Value) :
      i.answer i.name reply stored = { i with reply := some reply, stored := stored } :=
    if_pos ⟨rfl, hreply⟩
  -- only the last inquiry is open, so it is the one that is answered
  have hhears : (inquirer.hears reply m l).inquiries = before ++
      [{ i with reply := some reply
                stored := ((feed reply).run.run m).2.vars.get? i.name }] := by
    have hsame (stored : Option Value) : before.map (·.answer i.name reply stored) = before :=
      (List.map_congr_left fun j hj => (hbefore j hj).answer_eq _ reply stored).trans
        (List.map_id _)
    simp only [inquirer, hasking, if_neg hended, hl, List.map_append, hsame, List.map_cons,
      List.map_nil, hanswer]
  cases hvalue : replyValue i.name reply with
  | ok value =>
      have hfeed : (feed reply).run.run m = (react .replied).run.run
          { m with console := (m.console.feed reply).2, vars := m.vars.insert i.name value,
                   waiting := false } := by
        rw [run_feed_asked hasking, run_bind, run_receive_ok (by exact hended) hvalue]
      have hvars : ((feed reply).run.run m).2.vars = m.vars.insert i.name value := by
        rw [hfeed]
        exact (simulates_react_vars (m.vars.insert i.name value) .replied).keeps rfl
      have hsettled : (inquirer.hears reply m l).Settled := by
        intro j hj
        rw [hhears] at hj
        rcases List.mem_append.mp hj with hj | hj
        · exact hbefore j hj
        · cases List.mem_singleton.mp hj
          exact ⟨reply, value, rfl, hvalue, by simp [hvars]⟩
      rw [hfeed]
      unfold react
      rw [run_bind, run_get]
      dsimp only
      rw [if_pos ⟨rfl, hphase⟩]
      exact turns_goOn hsettled rfl hdelay
  | error e =>
      obtain ⟨m₁, outcome, hreceive, hends, hdone, hfault⟩ := run_receive_failed
        (m := { m with console := (m.console.feed reply).2 }) hended hpending haccounted.cursor
        hvalue
      have hfeed : (feed reply).run.run m = (.ok .stops, m₁) := by
        rw [run_feed_asked hasking, run_bind, hreceive]
        exact run_react_quiet m₁
      rw [hfeed]
      refine .failed hends outcome hdone hfault fun j hj => ?_
      rw [hhears] at hj
      rcases List.mem_append.mp hj with hj | hj
      · exact (hbefore j hj).reply_ne_none
      · cases List.mem_singleton.mp hj
        exact Option.some_ne_none _

theorem turns_feed (h : Reconciled l m) (haccounted : Accounted false m) (reply : Reply) :
    Turns Cleared Reconciled (inquirer.hears reply m l) ((feed reply).run.run m) := by
  by_cases hended : m.phase = .ended
  · have hsame : inquirer.hears reply m l = l := by
      unfold inquirer
      dsimp only
      split
      · rfl
      · exact if_pos hended
    rw [hsame, run_feed_of_ended hended]
    exact h.congr rfl rfl rfl rfl fun hwaits => by rw [hended] at hwaits; cases hwaits
  · cases h with
    | settled h hphase hpaused =>
        rw [h.hears_eq]
        exact turns_feed_of_settled h hended hphase hpaused reply
    | holding before i hl hbefore hreply hphase hasking hdelay =>
        exact turns_feed_of_holding hl hbefore hreply hphase hasking hdelay haccounted reply
    | closed hphase => exact absurd hphase hended
    | failed hphase => exact absurd hphase hended

/-! ## Sessions -/

/-- The functions of a machine cannot ask it to stop. -/
def Unstopped (m : Machine) : Prop := ∀ name, m.functions.get? name ≠ some .stop

theorem unimpeded_unstopped : Unimpeded Unstopped where
  display _ _ h := h
  dice _ _ h := h
  log _ _ h := h
  vars _ _ h := h
  heap _ _ h := h
  loops _ _ h := h
  stack _ _ h := h
  jump _ _ h := h
  halt _ h := h
  write _ _ h := h
  clear _ h := h
  ending m h := by
    obtain ⟨timers, timer, hcancel⟩ := cancelTimer_eq m
    rw [hcancel]
    exact h
  completion _ _ h := h
  phase _ _ h := h
  land _ h := h
  move _ _ h := h
  waiting _ _ h := h
  delay _ _ h := h
  timers _ _ _ h := h
  feed _ _ h := h
  reset _ _ h := h

theorem attuned_unstopped : Attuned (fun request => request.drives = true) (fun _ => True)
    (Below Unstopped) (Below Unstopped) (fun _ => True) := by
  have U := unimpeded_unstopped
  refine U.driveFrame.attuned fun m m' h _ => ?_
  exact (U.driveFrame.cycle (U.ask (fun _ _ h => h) fun _ _ h => h)).matched h

/-- The requests that leave a run to itself: nothing stops it, ends it or takes it up but replies
and timers. -/
def Request.unforced : Request → Bool
  | .run _ | .feed _ | .press _ | .tick | .tickAll => true
  | _ => false

theorem Request.plain_of_unforced {request : Request} (h : request.unforced = true) :
    request.Plain := by
  cases request <;> simp_all [Request.unforced, Request.Plain, Request.drives]

/-- The ledger stays reconciled with the machine over whole sessions. -/
theorem recorded_inquirer : Recorded inquirer (fun request => request.unforced = true)
    (fun l m => (Cleared l m ∧ Going false m) ∧ Unstopped m)
    (fun l m => (Reconciled l m ∧ Accounted false m) ∧ Unstopped m) where
  drives _ h := (Request.plain_of_unforced h).1
  start _ _ source hsource h := by
    have hplain := Request.plain_of_unforced hsource
    have haccounted := attuned_accounted.start source hplain ⟨rfl, h.1.2⟩
    exact ((turns_start h.1.1 source).with haccounted).with
      (attuned_unstopped.start source rfl ⟨rfl, h.2⟩)
  feed _ _ reply hreply h := by
    have hplain := Request.plain_of_unforced hreply
    have haccounted := attuned_accounted.feed reply hplain ⟨rfl, h.1.2⟩
    exact ((turns_feed h.1.1 h.1.2 reply).with haccounted).with
      (attuned_unstopped.feed reply rfl ⟨rfl, h.2⟩)
  resume _ _ h := nomatch h
  wake l m h hfires := by
    have hpopped : Reconciled l { m with timers := m.timers.pop.2 } :=
      h.1.1.congr rfl rfl rfl rfl fun _ => rfl
    have haccounted := attuned_accounted.wake ⟨rfl, h.1.2⟩ hfires
    exact ((turns_wake hpopped).with haccounted).with (attuned_unstopped.wake ⟨rfl, h.2⟩ hfires)
  drain _ _ h hfires := by
    have haccounted := (attuned_accounted.drain ⟨rfl, h.1.2⟩ hfires).2
    exact ⟨⟨h.1.1.congr rfl rfl rfl rfl fun _ => rfl, haccounted⟩, h.2⟩
  press l m key h := by
    have hpress : Reconciled l ((press key).run.run m).2 := by
      unfold press
      rw [run_bind, run_get]
      dsimp only
      split
      · exact h.1.1.congr rfl rfl rfl rfl fun _ => rfl
      · exact h.1.1
    have haccounted := (attuned_accounted.press key ⟨rfl, h.1.2⟩).keeps
    exact ⟨⟨hpress, haccounted⟩, (attuned_unstopped.press key ⟨rfl, h.2⟩).keeps⟩
  stop _ _ h := nomatch h
  stopElsewhere _ _ h := nomatch h
  finish _ _ _ h := nomatch h
  cycle _ _ h := by
    have haccounted := attuned_accounted.cycle ⟨rfl, h.1.2⟩ trivial
    exact ((turns_cycle h.1.1 h.1.2.accounted h.2).with haccounted).with
      (attuned_unstopped.cycle ⟨rfl, h.2⟩ trivial)

/-- No statement is performed while a question of the run is open. -/
theorem recorded_overtaken : Recorded inquirer (fun request => request.unforced = true)
    (fun l m => ((Cleared l m ∧ Going false m) ∧ Unstopped m) ∧ l.overtaken = [])
    (fun l m => ((Reconciled l m ∧ Accounted false m) ∧ Unstopped m) ∧ l.overtaken = []) := by
  refine recorded_inquirer.and (fun source m l h => ?_) (fun reply m l h => ?_) fun l m hl h => ?_
  · unfold inquirer
    dsimp only
    split <;> exact h
  · unfold inquirer
    dsimp only
    split
    · exact h
    · split <;> exact h
  · have hnone : l.inquiries.filter (·.reply.isNone) = [] := by
      refine List.filter_eq_nil_iff.mpr fun i hi => ?_
      have hreply := (hl.1.1.settled i hi).reply_ne_none
      simpa using hreply
    change l.overtaken ++ l.inquiries.filter (·.reply.isNone) = []
    rw [h, hnone]
    rfl

/-- A question without a reply is held, or was on the last line. -/
theorem Reconciled.unanswered (h : Reconciled l m) {i : Inquiry} (hi : i ∈ l.inquiries)
    (hreply : i.reply = none) :
    m.phase = .waiting ∧ m.console.asking? = some i.name ∨
      m.phase = .ended ∧ i.closing = true := by
  cases h with
  | settled h _ _ => exact absurd hreply (h i hi).reply_ne_none
  | holding before j h hbefore _ hphase hasking _ =>
      rw [h] at hi
      rcases List.mem_append.mp hi with hi | hi
      · exact absurd hreply (hbefore i hi).reply_ne_none
      · cases List.mem_singleton.mp hi
        exact .inl ⟨hphase, hasking⟩
  | closed hphase h =>
      rcases h i hi with hstored | ⟨-, hclosing⟩
      · exact absurd hreply hstored.reply_ne_none
      · exact .inr ⟨hphase, hclosing⟩
  | failed _ _ _ _ h => exact absurd hreply (h i hi)

/-- The questions of a run that has been completed without a fault. -/
theorem Reconciled.completed (h : Reconciled l m) (haccounted : Accounted false m)
    {outcome : Outcome} (hdone : m.completion = .done outcome) (hfault : outcome.fault = none)
    {i : Inquiry} (hi : i ∈ l.inquiries) : i.Stored ∨ i.reply = none ∧ i.closing = true := by
  cases h with
  | settled h _ _ => exact .inl (h i hi)
  | holding _ _ _ _ _ hphase _ _ =>
      have hended := (haccounted.ended (by simp [hdone])).mpr ⟨outcome, hdone⟩
      rw [hphase] at hended
      cases hended
  | closed _ h => exact h i hi
  | failed _ outcome' hdone' hfault' _ =>
      cases hdone.symm.trans hdone'
      exact absurd hfault hfault'

/-- A question holds the run until its reply is there. Whatever a new machine is asked, as long as
runs are left to themselves: no statement is performed while a question of the run is open. A
question without a reply is held by a machine that waits for it, unless it stands on the last line
of the program, where it ends the run. So all other questions of a run that has come to its end
without a fault have been answered, and the answers are stored. -/
theorem question_holds_run {m₀ : Machine} (hnew : IsNew m₀)
    (hstop : ∀ name, m₀.functions.get? name ≠ some .stop) (n : Nat) {requests : List Request}
    (hunforced : ∀ request ∈ requests, request.unforced = true) :
    (inquirer.record n requests m₀ {}).overtaken = [] ∧
    ∀ answers m, attend n requests m₀ = some (answers, m) →
      (∀ i ∈ (inquirer.record n requests m₀ {}).inquiries, i.reply = none →
        m.phase = .waiting ∧ m.console.asking? = some i.name ∨
          m.phase = .ended ∧ i.closing = true) ∧
      ∀ outcome, m.completion = .done outcome → outcome.fault = none →
        ∀ i ∈ (inquirer.record n requests m₀ {}).inquiries,
          i.Stored ∨ i.reply = none ∧ i.closing = true := by
  have hidle : m₀.phase = .idle := by rw [hnew]
  have hreconciled : Reconciled {} m₀ := by
    refine .settled nofun ?_ fun hpaused => ?_
    · simp [hidle]
    · simp [hidle] at hpaused
  have hlasts := recorded_overtaken.attend n hunforced
    (h := {}) ⟨⟨⟨hreconciled, hnew.accounted⟩, hstop⟩, rfl⟩
  generalize inquirer.record n requests m₀ {} = l at hlasts ⊢
  generalize attend n requests m₀ = x at hlasts ⊢
  rcases x with _ | ⟨answers, m⟩
  · obtain ⟨m, hm | hm⟩ := hlasts
    · exact ⟨hm.2, fun _ _ hnone => absurd hnone.symm (Option.some_ne_none _)⟩
    · exact ⟨hm.2, fun _ _ hnone => absurd hnone.symm (Option.some_ne_none _)⟩
  · obtain ⟨⟨⟨hl, haccounted⟩, -⟩, hovertaken⟩ := hlasts
    refine ⟨hovertaken, fun answers' m' hsome => ?_⟩
    obtain ⟨-, rfl⟩ := Prod.mk.inj (Option.some.inj hsome)
    exact ⟨fun i hi hreply => hl.unanswered hi hreply, fun outcome hdone hfault i hi =>
      hl.completed haccounted hdone hfault hi⟩

/-- The program that asks for a text waits for it, and the text is stored when it comes. -/
theorem question_holds_run_greeting :
    ∃ answers m i, attend 3 [.run "10 INPUT X$\n20 PRINT X$", .feed (some "A")]
        { constants := defaultConstants, functions := defaultFunctions } = some (answers, m) ∧
      m.completion = .done {} ∧
      (inquirer.record 3 [.run "10 INPUT X$\n20 PRINT X$", .feed (some "A")]
        { constants := defaultConstants, functions := defaultFunctions } {}).inquiries = [i] ∧
      i.name = "X$" ∧ i.Stored := by
  have hstart : (start "10 INPUT X$\n20 PRINT X$").run.run
      { constants := defaultConstants, functions := defaultFunctions } =
        (.ok .goesOn, greetingWith []) :=
    start_greeting []
  have hmoments : Request.moments 3 (.run "10 INPUT X$\n20 PRINT X$")
      { constants := defaultConstants, functions := defaultFunctions } = [greetingWith []] := by
    rw [Request.moments, momentsAfter, hstart]
    with_unfolding_all rfl
  have hfeed : handle 3 (.feed (some "A")) (held "X$" { greetingWith [] with cursor := 20 }) =
      some (.ok .nothing, greeted) := by
    with_unfolding_all rfl
  have hattend : attend 3 [.run "10 INPUT X$\n20 PRINT X$", .feed (some "A")]
      { constants := defaultConstants, functions := defaultFunctions } =
        some ([.ok .nothing, .ok .nothing], greeted) := by
    rw [attend, handle_run_greeting]
    dsimp only
    rw [attend, hfeed]
    rfl
  have hledger : ∃ i, (inquirer.record 3 [.run "10 INPUT X$\n20 PRINT X$", .feed (some "A")]
      { constants := defaultConstants, functions := defaultFunctions } {}).inquiries = [i] ∧
        i.name = "X$" ∧ i.closing = false := by
    rw [Recorder.record, handle_run_greeting, hmoments]
    dsimp only
    rw [Recorder.record, hfeed]
    exact ⟨_, by with_unfolding_all rfl, rfl, rfl⟩
  obtain ⟨i, hi, hname, hclosing⟩ := hledger
  have hnew : IsNew { constants := defaultConstants, functions := defaultFunctions } := rfl
  have hstored := ((question_holds_run hnew defaultFunctions_unstopped 3
    (by simp [Request.unforced])).2 _ _ hattend).2 {} rfl rfl i (by simp [hi])
  refine ⟨_, greeted, i, hattend, rfl, hi, hname, hstored.resolve_right fun hopen => ?_⟩
  rw [hclosing] at hopen
  cases hopen.2

/-- A program that is nothing but a question. -/
def soleQuestion : Program where
  lines := [{ number := 10, instruction := .command (.input none "X") }]

theorem load_soleQuestion : Program.load "10 INPUT X" = .ok soleQuestion := by
  have hsplit : (Program.splitSource "10 INPUT X").filter (!Program.isBlankLine ·) =
      ["10 INPUT X"] := by decide
  have hlines : ["10 INPUT X"].mapM parseLine = .ok soleQuestion.lines := by
    with_unfolding_all rfl
  unfold Program.load
  rw [hsplit, hlines]
  exact Program.ofLines_of_ascending soleQuestion.ascending

def soleQuestionAsked : Machine :=
  { reset { constants := defaultConstants, functions := defaultFunctions } with
    program := soleQuestion, cursor := 10, waiting := true
    console := .buffer { asking := some "X" }, phase := .ended, completion := .done {} }

/-- A question on the last line ends the run without a fault, though no reply has come, and the
reply that comes then is dropped. -/
theorem question_on_last_line :
    ∃ answers m, attend 1 [.run "10 INPUT X", .feed (some "7")]
        { constants := defaultConstants, functions := defaultFunctions } = some (answers, m) ∧
      m.phase = .ended ∧ m.completion = .done {} ∧ m.vars.get? "X" = none ∧
      ∃ i ∈ (inquirer.record 1 [.run "10 INPUT X", .feed (some "7")]
        { constants := defaultConstants, functions := defaultFunctions } {}).inquiries,
        i.name = "X" ∧ i.reply = none ∧ i.stored = none := by
  have hstart : (start "10 INPUT X").run.run
      { constants := defaultConstants, functions := defaultFunctions } = (.ok .goesOn,
        { reset { constants := defaultConstants, functions := defaultFunctions } with
          program := soleQuestion, cursor := 10 }) := by
    unfold start
    rw [load_soleQuestion]
    rfl
  have hrun : handle 1 (.run "10 INPUT X")
      { constants := defaultConstants, functions := defaultFunctions } =
        some (.ok .nothing, soleQuestionAsked) := by
    rw [handle, following, course_bind, followed_eq, hstart]
    with_unfolding_all rfl
  have hmoments : Request.moments 1 (.run "10 INPUT X")
      { constants := defaultConstants, functions := defaultFunctions } =
        [{ reset { constants := defaultConstants, functions := defaultFunctions } with
           program := soleQuestion, cursor := 10 }] := by
    rw [Request.moments, momentsAfter, hstart]
    with_unfolding_all rfl
  have hfeed : handle 1 (.feed (some "7")) soleQuestionAsked =
      some (.ok .nothing, { soleQuestionAsked with console := .buffer {} }) := by
    with_unfolding_all rfl
  refine ⟨[.ok .nothing, .ok .nothing], { soleQuestionAsked with console := .buffer {} }, ?_, rfl,
    rfl, rfl, ?_⟩
  · rw [attend, hrun]
    dsimp only
    rw [attend, hfeed]
    rfl
  · rw [Recorder.record, hrun, hmoments]
    dsimp only
    rw [Recorder.record, hfeed]
    exact ⟨{ name := "X", reply := none, stored := none, closing := true },
      List.mem_singleton.mpr (by with_unfolding_all rfl), rfl, rfl, rfl⟩

end Machine

end LineBasic

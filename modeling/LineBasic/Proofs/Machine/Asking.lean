import LineBasic.Proofs.Machine.Queueing
import LineBasic.Proofs.Program

/-!
# Questions and their replies

A steady machine is between two statements of a run, with nothing open but replies in its queue. A
cycle on a steady machine that asks no question leaves it steady, suspends it by a pause, or brings
it to rest, and does so with any further replies in the queue.

A cycle on `INPUT` is computed in full. With an empty queue it holds the question, moves on and
suspends the run; with a reply in the queue it stores the reply, moves on and lets the run go on.
The two machines differ in what a later delivery of the reply makes up for.
-/

namespace LineBasic

namespace Machine

def askedName? : Option Command → Option String
  | some (.input _ name) => some name
  | _ => none

/-- The question that the statement at the cursor asks, with the answer in the queue if there is
one. -/
def question? (m : Machine) : Option (String × Option Reply) :=
  match commandHere.run.run m with
  | (.ok c, m₁) => (askedName? c).map fun name => (name, (m₁.console.ask name).1)
  | (.error _, _) => none

theorem askedName_of_no_question {m m₁ : Machine} {c : Option Command}
    (hc : commandHere.run.run m = (.ok c, m₁)) (h : question? m = none) : askedName? c = none := by
  simp only [question?, hc] at h
  exact Option.map_eq_none_iff.mp h

/-- A machine with nothing open: no timer in the queue and no question, only the given replies. Its
functions do not stop it, and its program does not close with a question. -/
structure Settled (q : List String) (m : Machine) : Prop where
  timer : m.timer = none
  queue : m.timers.queue = []
  functions : ∀ name, m.functions.get? name ≠ some .stop
  closes : m.program.ClosesQuietly
  console : ∃ b, m.console = .buffer b ∧ b.asking = none ∧ b.replies = q.map some

theorem unaffected_settled (q : List String) : Unaffected (Settled q) where
  display _ _ h := ⟨h.timer, h.queue, h.functions, h.closes, h.console⟩
  dice _ _ h := ⟨h.timer, h.queue, h.functions, h.closes, h.console⟩
  log _ _ h := ⟨h.timer, h.queue, h.functions, h.closes, h.console⟩
  vars _ _ h := ⟨h.timer, h.queue, h.functions, h.closes, h.console⟩
  heap _ _ h := ⟨h.timer, h.queue, h.functions, h.closes, h.console⟩
  loops _ _ h := ⟨h.timer, h.queue, h.functions, h.closes, h.console⟩
  stack _ _ h := ⟨h.timer, h.queue, h.functions, h.closes, h.console⟩
  jump _ _ h := ⟨h.timer, h.queue, h.functions, h.closes, h.console⟩
  halt _ h := ⟨h.timer, h.queue, h.functions, h.closes, h.console⟩
  write m text h := by
    obtain ⟨b, hb, hasking, hreplies⟩ := h.console
    have hwrite : m.console.write text = .buffer { b with written := b.written ++ text } := by
      rw [hb]
      rfl
    exact ⟨h.timer, h.queue, h.functions, h.closes, _, hwrite, hasking, hreplies⟩
  clear m h := by
    obtain ⟨b, hb, hasking, hreplies⟩ := h.console
    have hclear : m.console.clear = .buffer { b with written := "", clears := b.clears + 1 } := by
      rw [hb]
      rfl
    exact ⟨h.timer, h.queue, h.functions, h.closes, _, hclear, hasking, hreplies⟩
  ending m h := by
    rw [cancelTimer_none h.timer]
    exact ⟨h.timer, h.queue, h.functions, h.closes, h.console⟩
  completion _ _ h := ⟨h.timer, h.queue, h.functions, h.closes, h.console⟩

theorem Evaluated.settled {q : List String} {m₀ m : Machine} (h : Evaluated m₀ m)
    (h₀ : Settled q m₀) : Settled q m := by
  obtain ⟨display, dice, log, halted, rfl, -⟩ := h
  exact ⟨h₀.timer, h₀.queue, h₀.functions, h₀.closes, h₀.console⟩

/-- Evaluation leaves the request to stop alone when no function makes one. -/
theorem Evaluated.halted {q : List String} {m₀ m : Machine} (h : Evaluated m₀ m)
    (h₀ : Settled q m₀) : m.halted = m₀.halted := by
  obtain ⟨display, dice, log, halted, rfl, hhalted⟩ := h
  rcases hhalted with hsame | ⟨name, hstop⟩
  · exact hsame
  · exact absurd hstop (h₀.functions name)

/-- A step without a question leaves nothing open. -/
theorem Settled.step {q : List String} {m : Machine} (h : Settled q m)
    (hq : question? m = none) : Settled q (step.run.run m).2 := by
  have U := unaffected_settled q
  refine U.step (U.pauseFor fun _ _ h => ⟨h.timer, h.queue, h.functions, h.closes, h.console⟩) ?_ h
  intro prompt name m₀ hc
  cases askedName_of_no_question hc hq

theorem Settled.moveOn {q : List String} {m : Machine} (h : Settled q m) :
    Settled q (moveOn.run.run m).2 := by
  have hmove := (unaffected_settled q).performFrame.moveOn ?_ ?_ ?_ ?_
  · exact hmove.keeps h
  · rintro m _ ⟨rfl, h⟩; rfl
  · rintro m _ ⟨rfl, h⟩; rfl
  · rintro m _ ⟨rfl, h⟩
    exact ⟨rfl, h.timer, h.queue, h.functions, h.closes, h.console⟩
  · rintro m _ n ⟨rfl, h⟩
    exact ⟨rfl, h.timer, h.queue, h.functions, h.closes, h.console⟩

theorem Settled.unbrokenBoundary {q : List String} {m : Machine} (h : Settled q m) :
    Settled q (unbrokenBoundary.run.run m).2 := by
  have hboundary : Simulates (Below (Settled q)) Machine.unbrokenBoundary
      Machine.unbrokenBoundary := by
    refine simulates_get ?_
    rintro m _ ⟨rfl, h⟩
    split
    · exact simulates_bind ((unaffected_settled q).finish none) fun _ => simulates_pure _
    · refine simulates_bind (simulates_set ?_) fun _ => simulates_get ?_
      · exact ⟨rfl, h.timer, h.queue, h.functions, h.closes, h.console⟩
      · rintro m _ ⟨rfl, h⟩
        split
        · refine simulates_bind (simulates_modify ?_) fun _ => simulates_pure _
          rintro m _ ⟨rfl, h⟩
          exact ⟨rfl, h.timer, h.queue, h.functions, h.closes, h.console⟩
        · exact simulates_pure _
  exact hboundary.keeps h

/-- A cycle without a question and without a pause leaves nothing open. -/
theorem Settled.unbrokenCycle {q : List String} {m : Machine} (h : Settled q m)
    (hq : question? m = none) : Settled q (unbrokenCycle.run.run m).2 := by
  have hstep := h.step hq
  unfold Machine.unbrokenCycle
  rw [run_cycleWith, advance, run_bind]
  rcases hs : Machine.step.run.run m with ⟨e | r, m₁⟩
  · rw [hs] at hstep
    exact hstep
  · rw [hs] at hstep
    have hmove := hstep.moveOn
    dsimp only
    rcases hm : Machine.moveOn.run.run m₁ with ⟨e | p, m₂⟩
    · rw [hm] at hmove
      exact hmove
    · rw [hm] at hmove
      cases p with
      | goesOn => exact hmove.unbrokenBoundary
      | stops => exact hmove

/-- A machine between two statements of a run that goes on, with nothing open. -/
structure Steady (q : List String) (m : Machine) : Prop where
  underway : Underway m
  settled : Settled q m

/-- What a cycle without a question comes to: the run goes on, is suspended by a pause, or has come
to rest. -/
theorem Steady.cycle_of_no_question {q : List String} {m : Machine} (h : Steady q m)
    (hq : question? m = none) :
    (∃ m₁, cycle.run.run m = (.ok .goesOn, m₁) ∧ Steady q m₁) ∨
      (∃ s m₁, cycle.run.run m = (.ok .stops, pausedFor s m₁) ∧ Steady q m₁) ∨
      ∃ r m₁, cycle.run.run m = (r, m₁) ∧ r ≠ .ok .goesOn ∧ Settled q m₁ := by
  have hsettled := h.settled.unbrokenCycle hq
  cases hdue : duePause? m with
  | none =>
      have hcycle : cycle.run.run m = ((unbrokenCycle.run.run m).1,
          { (unbrokenCycle.run.run m).2 with timers := m.timers }) :=
        run_cycle_of_not_due h.underway hdue m.timers
      rw [← run_unbrokenCycle_timers h.underway.timer m.timers] at hcycle
      change cycle.run.run m = unbrokenCycle.run.run m at hcycle
      rcases hu : unbrokenCycle.run.run m with ⟨r, m₁⟩
      rw [hu] at hsettled hcycle
      by_cases hr : r = .ok .goesOn
      · subst hr
        exact .inl ⟨m₁, hcycle, h.underway.unbrokenCycle hu, hsettled⟩
      · exact .inr (.inr ⟨r, m₁, hcycle, hr, hsettled⟩)
  | some v =>
      obtain ⟨m₁, hu, hcycle⟩ := run_cycle_of_due h.underway hdue
      have htimers : m₁.timers = m.timers := by
        have hsame := run_unbrokenCycle_timers h.underway.timer m.timers
        change unbrokenCycle.run.run m = _ at hsame
        rw [hu] at hsame
        have hm₁ := (Prod.mk.inj hsame).2
        rw [hm₁]
      have hpause : cycle.run.run m = (suspend v).run.run { m₁ with timers := m.timers } :=
        hcycle m.timers
      rw [← htimers] at hpause
      rw [hu] at hsettled
      cases hs : seconds v with
      | ok s =>
          rw [run_suspend hs] at hpause
          exact .inr (.inl ⟨s, m₁, hpause, h.underway.unbrokenCycle hu, hsettled⟩)
      | error e =>
          rw [run_suspend_error hs] at hpause
          exact .inr (.inr ⟨.error e, _, hpause, nofun, hsettled.timer, hsettled.queue,
            hsettled.functions, hsettled.closes, hsettled.console⟩)

theorem Settled.pushed {q : List String} {m : Machine} (h : Settled q m) (u : List String) :
    Pushed u m (push u m) := by
  obtain ⟨b, hb, hasking, -⟩ := h.console
  exact ⟨b, hb, hasking, push_eq hb u⟩

/-- A step without a question does the same with further replies in the queue. -/
theorem pushed_step {u : List String} {m m' : Machine} (h : Pushed u m m')
    (hq : question? m = none) :
    (step.run.run m).1 = (step.run.run m').1 ∧ Pushed u (step.run.run m).2 (step.run.run m').2 := by
  have F := pushed_performFrame u
  refine F.step_at F.toMoveFrame h (fun c m₀ hc => ?_) fun _ _ _ h => h
  refine F.performCommand c (fun _ _ v => ?_) fun prompt name hinput => ?_
  · refine simulates_pauseFor F.heap F.trace ?_ v
    rintro m _ d ⟨b, hb, ha, rfl⟩
    exact ⟨b, hb, ha, rfl⟩
  · subst hinput
    cases askedName_of_no_question hc hq

/-- A cycle without a question does the same with further replies in the queue. -/
theorem Steady.cycle_push {q : List String} {m : Machine} (h : Steady q m)
    (hq : question? m = none) (u : List String) :
    cycle.run.run (push u m) = ((cycle.run.run m).1, push u (cycle.run.run m).2) := by
  obtain ⟨hres, hrel⟩ := pushed_step (h.settled.pushed u) hq
  rw [cycle_eq_afterStep, run_bind, run_bind]
  rcases hs : step.run.run m with ⟨x, m₁⟩
  rcases hs' : step.run.run (push u m) with ⟨x', m₁'⟩
  rw [hs, hs'] at hres hrel
  cases hres
  cases x with
  | error e => exact Prod.ext rfl hrel.eq
  | ok r =>
      obtain ⟨hres', hrel'⟩ := pushed_afterStep hrel
      exact Prod.ext hres'.symm hrel'.eq

theorem Settled.question_push {q : List String} {m : Machine} (h : Settled q m)
    (hq : question? m = none) (u : List String) : question? (push u m) = none := by
  obtain ⟨hres, -⟩ := pushed_commandHere (h.pushed u)
  rcases hc : commandHere.run.run m with ⟨x, m₁⟩
  rcases hc' : commandHere.run.run (push u m) with ⟨x', m₁'⟩
  rw [hc, hc'] at hres
  cases hres
  cases x with
  | error e => simp only [question?, hc']
  | ok c => simp only [question?, hc', askedName_of_no_question hc hq, Option.map_none]

def readReply (name text : String) : Value :=
  match replyValue name (some text) with
  | .ok v => v
  | .error _ => .nothing

theorem replyValue_some (name text : String) :
    replyValue name (some text) = .ok (readReply name text) := by
  unfold readReply replyValue
  cases name.toList.getLast? == some '$' with
  | true => rfl
  | false =>
      dsimp only
      cases Number.read? (Text.trim text.toList) <;> rfl

/-- A question with a reply in the queue is answered at once. -/
theorem run_ask_answered {m : Machine} {b : Buffer} {text : String} {rest : List Reply}
    (hphase : m.phase ≠ .ended) (hconsole : m.console = .buffer b)
    (hreplies : b.replies = some text :: rest) (name : String) :
    (ask name).run.run m =
      (.ok .replied, { m with console := .buffer { b with replies := rest }, waiting := false,
                              vars := m.vars.insert name (readReply name text) }) := by
  have hask : m.console.ask name = (some (some text), .buffer { b with replies := rest }) := by
    rw [hconsole]
    unfold Console.ask
    dsimp only
    rw [hreplies]
  unfold ask
  simp only [run_bind, run_modify, run_get, hask, run_set]
  unfold receive
  simp only [run_bind, run_get, if_neg hphase, replyValue_some, setVariable, run_modify, run_pure]

/-- A question with an empty queue is held. -/
theorem run_ask_held {m : Machine} {b : Buffer} (hconsole : m.console = .buffer b)
    (hreplies : b.replies = []) (name : String) :
    (ask name).run.run m =
      (.ok .quiet, { m with console := .buffer { b with asking := some name },
                            waiting := true }) := by
  have hask : m.console.ask name = (none, .buffer { b with asking := some name }) := by
    rw [hconsole]
    unfold Console.ask
    dsimp only
    rw [hreplies]
  unfold ask
  simp only [run_bind, run_modify, run_get, hask, run_set, run_pure]

theorem run_input {m : Machine} {b : Buffer} (hconsole : m.console = .buffer b)
    (prompt : Option String) (name : String) :
    (performCommand (.input prompt name)).run.run m =
      (ask name).run.run
        { m with console := .buffer { b with written := b.written ++ prompt.getD "" } } := by
  cases prompt with
  | none =>
      have hsame : { m with console := .buffer { b with written := b.written ++ "" } } = m := by
        rw [String.append_empty, ← hconsole]
      rw [Option.getD_none, hsame]
      rfl
  | some text =>
      have hwrite : m.console.write text = .buffer { b with written := b.written ++ text } := by
        rw [hconsole]
        rfl
      simp only [performCommand, run_bind, write, run_modify, hwrite, Option.getD_some]

theorem asks_of_mem {i : Instruction} {c : Command} (h : c ∈ i.commands) (hc : c.asks = true) :
    i.asks = true := by
  cases i with
  | command c' =>
      cases List.mem_singleton.mp h
      exact hc
  | branch condition yes no =>
      rcases List.mem_cons.mp h with rfl | hno
      · simp [Instruction.asks, hc]
      · rw [Option.mem_toList] at hno
        simp [Instruction.asks, Option.mem_def.mp hno, hc]

theorem commandHere_some {m m₁ : Machine} {c : Command}
    (h : commandHere.run.run m = (.ok (some c), m₁)) :
    ∃ line, m.program.find? m.cursor = some line ∧
      (c.asks = true → line.instruction.asks = true) := by
  obtain ⟨line, hline, hmem⟩ := commandHere_mem h
  exact ⟨line, hline, asks_of_mem hmem⟩

def stored (name text : String) (m : Machine) : Machine :=
  { m with vars := m.vars.insert name (readReply name text) }

def held (name : String) (m : Machine) : Machine :=
  match m.console with
  | .buffer b =>
    { m with console := .buffer { b with asking := some name }, waiting := true,
             phase := .waiting }
  | .stream _ => m

theorem held_eq {m : Machine} {b : Buffer} (h : m.console = .buffer b) (name : String) :
    held name m =
      { m with console := .buffer { b with asking := some name }, waiting := true,
               phase := .waiting } := by
  unfold held
  rw [h]

theorem Evaluated.steady {q : List String} {m₀ m : Machine} (h : Evaluated m₀ m)
    (h₀ : Steady q m₀) : Steady q m := by
  have hhalted := h.halted h₀.settled
  have hsettled := h.settled h₀.settled
  obtain ⟨display, dice, log, halted, rfl, -⟩ := h
  refine ⟨⟨h₀.underway.phase, h₀.underway.jumped, ?_, h₀.underway.waiting, h₀.underway.delay,
    h₀.underway.timer⟩, hsettled⟩
  exact hhalted.trans h₀.underway.halted

/-- A cycle on `INPUT`. With an empty queue the question is held and the run waits. With a reply in
the queue the reply is stored and the run goes on from the same place. -/
theorem Steady.cycle_of_question {m m₀ : Machine} (h : Steady [] m) {prompt : Option String}
    {name : String} (hc : commandHere.run.run m = (.ok (some (.input prompt name)), m₀)) :
    ∃ m₁, Steady [] m₁ ∧ cycle.run.run m = (.ok .stops, held name m₁) ∧
      ∀ text u, cycle.run.run (push (text :: u) m) =
        (.ok .goesOn, push u (stored name text m₁)) := by
  obtain ⟨line, hline, hasks⟩ := commandHere_some hc
  obtain ⟨next, hnext⟩ := Program.next_of_asks h.settled.closes hline (hasks rfl)
  obtain ⟨b, hb, hasking, hreplies⟩ := h.settled.console
  have heval := commandHere_evaluated h.underway.phase
  rw [hc] at heval
  have h₀ := heval.steady h
  have hb₀ : m₀.console = .buffer b := by
    obtain ⟨display, dice, log, halted, rfl, -⟩ := heval
    exact hb
  have hnext₀ : m₀.program.next? m₀.cursor = some next := by
    obtain ⟨display, dice, log, halted, rfl, -⟩ := heval
    exact hnext
  refine ⟨{ m₀ with console := .buffer { b with written := b.written ++ prompt.getD "" },
                    cursor := (next.number : Int), delay := none }, ?_, ?_, ?_⟩
  · exact ⟨⟨h₀.underway.phase, h₀.underway.jumped, h₀.underway.halted, h₀.underway.waiting, rfl,
        h₀.underway.timer⟩,
      ⟨h₀.settled.timer, h₀.settled.queue, h₀.settled.functions, h₀.settled.closes, _, rfl, hasking,
        hreplies⟩⟩
  · have hstep : step.run.run m =
        (.ok .quiet, { m₀ with console := .buffer { b with written := b.written ++ prompt.getD "",
                                                           asking := some name },
                               waiting := true }) := by
      have hask := run_ask_held
        (m := { m₀ with console := .buffer { b with written := b.written ++ prompt.getD "" } })
        rfl hreplies name
      rw [run_step hline, run_bind, hc]
      dsimp only [performChosen]
      rw [run_input hb₀, hask]
    rw [cycle_eq_afterStep, run_bind, hstep, held_eq rfl]
    exact run_afterStep h₀.underway.phase h₀.underway.jumped h₀.underway.halted h₀.underway.delay
      hnext₀
  · intro text u
    obtain ⟨hres, hrel⟩ := pushed_commandHere (h.settled.pushed (text :: u))
    rcases hc' : commandHere.run.run (push (text :: u) m) with ⟨x, m₀'⟩
    rw [hc, hc'] at hres hrel
    cases hres
    have hpush₀ := hrel.eq
    rw [push_eq hb₀] at hpush₀
    have hline' : (push (text :: u) m).program.find? (push (text :: u) m).cursor = some line := by
      rw [push_eq hb]
      exact hline
    have hphase : m₀.phase ≠ .ended := by rw [h₀.underway.phase]; decide
    have hqueue : b.replies ++ (text :: u).map some = some text :: u.map some := by
      rw [hreplies]
      rfl
    have hstep : step.run.run (push (text :: u) m) =
        (.ok .replied, { m₀ with console := .buffer { b with written := b.written ++ prompt.getD "",
                                                             replies := u.map some },
                                 waiting := false,
                                 vars := m₀.vars.insert name (readReply name text) }) := by
      have hask := run_ask_answered
        (m := { m₀ with console := .buffer { b with
                  written := b.written ++ prompt.getD "",
                  replies := b.replies ++ (text :: u).map some } })
        hphase rfl hqueue name
      rw [run_step hline', run_bind, hc']
      dsimp only [performChosen] at hpush₀ ⊢
      rw [hpush₀, run_input rfl, hask]
    have hafter := run_afterStep
      (m := { m₀ with console := .buffer { b with written := b.written ++ prompt.getD "",
                                                  replies := u.map some },
                      waiting := false,
                      vars := m₀.vars.insert name (readReply name text) })
      h₀.underway.phase h₀.underway.jumped h₀.underway.halted h₀.underway.delay hnext₀
    rw [cycle_eq_afterStep, run_bind, hstep]
    dsimp only
    rw [hafter, stored, push_eq rfl]
    have hwaiting := h₀.underway.waiting
    dsimp only at hwaiting ⊢
    rw [if_neg Bool.false_ne_true, hreplies, hwaiting]
    rfl

theorem Settled.push {q : List String} {m : Machine} (h : Settled q m) (u : List String) :
    Settled (q ++ u) (push u m) := by
  obtain ⟨b, hb, hasking, hreplies⟩ := h.console
  rw [push_eq hb]
  refine ⟨h.timer, h.queue, h.functions, h.closes, _, rfl, hasking, ?_⟩
  rw [List.map_append, hreplies]

theorem Steady.push {q : List String} {m : Machine} (h : Steady q m) (u : List String) :
    Steady (q ++ u) (push u m) := by
  refine ⟨?_, h.settled.push u⟩
  obtain ⟨b, hb, -, -⟩ := h.settled.console
  rw [push_eq hb]
  exact ⟨h.underway.phase, h.underway.jumped, h.underway.halted, h.underway.waiting,
    h.underway.delay, h.underway.timer⟩

theorem Steady.stored {q : List String} {m : Machine} (h : Steady q m) (name text : String) :
    Steady q (stored name text m) :=
  ⟨⟨h.underway.phase, h.underway.jumped, h.underway.halted, h.underway.waiting, h.underway.delay,
      h.underway.timer⟩,
    ⟨h.settled.timer, h.settled.queue, h.settled.functions, h.settled.closes, h.settled.console⟩⟩

/-- Every steady machine comes from one with an empty queue. -/
theorem Steady.exists_push {q : List String} {m : Machine} (h : Steady q m) :
    ∃ e, Steady [] e ∧ m = Machine.push q e := by
  obtain ⟨b, hb, hasking, hreplies⟩ := h.settled.console
  refine ⟨{ m with console := .buffer { b with replies := [] } }, ?_, ?_⟩
  · exact ⟨⟨h.underway.phase, h.underway.jumped, h.underway.halted, h.underway.waiting,
        h.underway.delay, h.underway.timer⟩,
      ⟨h.settled.timer, h.settled.queue, h.settled.functions, h.settled.closes, _, rfl, hasking,
        rfl⟩⟩
  · rw [push_eq rfl]
    dsimp only
    rw [List.nil_append, ← hreplies, ← hb]

/-- A cycle on `INPUT` with a reply in the queue takes that reply, whatever stands behind it. -/
theorem Steady.cycle_of_answer {text : String} {q : List String} {m m₀ : Machine}
    (h : Steady (text :: q) m) {prompt : Option String} {name : String}
    (hc : commandHere.run.run m = (.ok (some (.input prompt name)), m₀)) :
    ∃ m₁, Steady q m₁ ∧
      ∀ u, cycle.run.run (Machine.push u m) = (.ok .goesOn, Machine.push u m₁) := by
  obtain ⟨e, he, rfl⟩ := h.exists_push
  obtain ⟨hres, -⟩ := pushed_commandHere (he.settled.pushed (text :: q))
  rcases hc' : commandHere.run.run e with ⟨x, m₀'⟩
  rw [hc, hc'] at hres
  cases hres
  obtain ⟨m₁, hm₁, -, hanswer⟩ := he.cycle_of_question hc'
  refine ⟨Machine.push q (Machine.stored name text m₁), (hm₁.stored name text).push q, ?_⟩
  intro u
  rw [push_push, push_push, List.cons_append, hanswer text (q ++ u)]

/-- An `INPUT` asks a question, and the first reply in the queue answers it. -/
theorem Steady.question_of_command {q : List String} {m m₀ : Machine} (h : Steady q m)
    {prompt : Option String} {name : String}
    (hc : commandHere.run.run m = (.ok (some (.input prompt name)), m₀)) :
    question? m = some (name, q.head?.map some) := by
  have heval := commandHere_evaluated h.underway.phase
  rw [hc] at heval
  obtain ⟨b, hb, -, hreplies⟩ := (heval.settled h.settled).console
  dsimp only at hb
  simp only [question?, hc, askedName?, Option.map_some, hb, Console.ask, hreplies]
  cases q <;> rfl

theorem Settled.commandHere_push {q : List String} {m m₀ : Machine} (h : Settled q m)
    {c : Option Command} (hc : commandHere.run.run m = (.ok c, m₀)) (u : List String) :
    commandHere.run.run (Machine.push u m) = (.ok c, Machine.push u m₀) := by
  obtain ⟨hres, hrel⟩ := pushed_commandHere (h.pushed u)
  rw [hc] at hres hrel
  exact Prod.ext hres.symm hrel.eq

/-- Only an `INPUT` asks a question. -/
theorem question_eq_some {m : Machine} {question : String × Option Reply}
    (hq : question? m = some question) :
    ∃ prompt m₀, commandHere.run.run m = (.ok (some (.input prompt question.1)), m₀) := by
  rcases hc : commandHere.run.run m with ⟨e | c, m₀⟩
  · simp only [question?, hc] at hq
    cases hq
  · simp only [question?, hc] at hq
    obtain ⟨name, hname, rfl⟩ := Option.map_eq_some_iff.mp hq
    unfold askedName? at hname
    split at hname
    · next prompt name' =>
      cases hname
      exact ⟨prompt, m₀, rfl⟩
    · cases hname

end Machine

end LineBasic

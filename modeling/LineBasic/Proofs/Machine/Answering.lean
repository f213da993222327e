import LineBasic.Proofs.Machine.Driving
import LineBasic.Proofs.Machine.Halting
import LineBasic.Proofs.Machine.Replies

/-!
# Where replies go

The console holds the latest question that found no reply, and the next reply from outside is stored
in its variable. The question stays held when its run ends. While no other run is under way a reply
to it is dropped. A run that begins takes the question over: it has no question of its own yet, and
a reply that comes before it asks one goes to the variable of the former run's question.

So the question that is held after any requests was asked by a statement that was performed on the
way, or was held before (`attend_asking`). Both kinds occur.
-/

namespace LineBasic

namespace Console

@[simp] theorem asking?_write (c : Console) (text : String) :
    (c.write text).asking? = c.asking? := by
  cases c <;> rfl

@[simp] theorem asking?_clear (c : Console) : c.clear.asking? = c.asking? := by
  cases c <;> rfl

/-- A question is answered from the queue, or is held from now on. -/
theorem asking?_ask (c : Console) (name : String) :
    (c.ask name).2.asking? = c.asking? ∨ (c.ask name).2.asking? = some name := by
  cases c with
  | buffer b =>
      cases hreplies : b.replies with
      | nil => simp [ask, asking?, hreplies]
      | cons reply rest => simp [ask, asking?, hreplies]
  | stream s => exact .inl rfl

end Console

namespace Machine

variable {names : String → Prop} {m m₁ m₂ : Machine}

/-- The variable that the statement at the cursor asks for, if it comes down to a question. -/
def asksHere? (m : Machine) : Option String :=
  match commandHere.run.run m with
  | (.ok c, _) => askedName? c
  | (.error _, _) => none

/-- The question that is held, if any, is for one of the given variables. -/
def Holds (names : String → Prop) (m : Machine) : Prop :=
  ∀ name, m.console.asking? = some name → names name

theorem unimpeded_holds (names : String → Prop) : Unimpeded (Holds names) where
  display _ _ h := h
  dice _ _ h := h
  log _ _ h := h
  vars _ _ h := h
  heap _ _ h := h
  loops _ _ h := h
  stack _ _ h := h
  jump _ _ h := h
  halt _ h := h
  write m text h := by simpa [Holds] using h
  clear m h := by simpa [Holds] using h
  ending m h := by
    unfold cancelTimer
    split <;> exact h
  completion _ _ h := h
  phase _ _ h := h
  land _ h := h
  move _ _ h := h
  waiting _ _ h := h
  delay _ _ h := h
  timers _ _ _ h := h
  feed m reply _ := by simp [Holds, Console.asking?_feed]
  reset _ _ h := h

/-- A question for one of the variables may be held. -/
theorem holds_ask {name : String} (hname : names name) :
    Simulates (Below (Holds names)) (ask name) (ask name) := by
  have U := unimpeded_holds names
  refine U.driveFrame.asking (fun e => U.finish (some e)) name ?_ ?_
  · rintro m _ ⟨rfl, h⟩; rfl
  · rintro m _ ⟨rfl, h⟩
    refine ⟨rfl, fun asked hheld => ?_⟩
    rcases m.console.asking?_ask name with hsame | hnew
    · exact h asked (hsame ▸ hheld)
    · cases hnew.symm.trans hheld
      exact hname

/-- Every session keeps the question that is held among the given variables, as long as they
include the variables that its statements ask for. -/
theorem attuned_holds (names : String → Prop) :
    Attuned (fun request => request.drives = true)
      (fun k => ∀ name, asksHere? k = some name → names name)
      (Below (Holds names)) (Below (Holds names)) (fun _ => True) := by
  have U := unimpeded_holds names
  refine U.driveFrame.attuned ?_
  rintro m _ ⟨rfl, h⟩ hasks
  have hcycle : Holds names (cycle.run.run m).2 := by
    refine U.cycle (fun prompt name m₀ hc => holds_ask (hasks name ?_)) h
    rw [asksHere?, hc]
    rfl
  exact matched_below (fun _ => hcycle) (fun _ => hcycle) fun _ _ => ⟨trivial, hcycle⟩

/-- The question that is held after any requests was asked on the way or held before. -/
theorem attend_asking {n : Nat} {requests : List Request} {answers : List (Except Fault Value)}
    {name : String} (hdrives : ∀ request ∈ requests, request.drives = true)
    (hattend : attend n requests m₁ = some (answers, m₂))
    (hasking : m₂.console.asking? = some name) :
    (∃ k ∈ trail n requests m₁, asksHere? k = some name) ∨ m₁.console.asking? = some name := by
  -- the variables that the session asks for itself, and the one asked for before
  let names (name : String) : Prop :=
    (∃ k ∈ trail n requests m₁, asksHere? k = some name) ∨ m₁.console.asking? = some name
  have hbefore : Holds names m₁ := fun name h => .inr h
  have hafter := ((attuned_holds names).attend_below hdrives hbefore
    (fun k hk name hname => .inl ⟨k, hk, hname⟩) hattend).1
  exact hafter name hasking

/-! ## What a reply changes -/

theorem simulates_finish_vars (vars : Table String Value) (fault : Option Fault) :
    Simulates (Below fun m => m.vars = vars) (finish fault) (finish fault) := by
  have htrace (level : Int) (message : String) :
      Simulates (Below fun m => m.vars = vars) (trace level message) (trace level message) := by
    refine simulates_trace ?_ ?_ ?_ level message
    · rintro m _ ⟨rfl, h⟩; rfl
    · rintro m _ ⟨rfl, h⟩; rfl
    · rintro m _ r ⟨rfl, h⟩; exact ⟨rfl, h⟩
  refine simulates_finish htrace ?_ ?_ ?_ ?_ ?_ fault
  · rintro m _ ⟨rfl, h⟩; rfl
  · rintro m _ ⟨rfl, h⟩; rfl
  · rintro m _ ⟨rfl, h⟩; rfl
  · rintro m _ ⟨rfl, h⟩
    unfold cancelTimer
    split <;> exact ⟨rfl, h⟩
  · rintro m _ c ⟨rfl, h⟩; exact ⟨rfl, h⟩

/-- Taking up the run after a reply does not change variables. -/
theorem simulates_react_vars (vars : Table String Value) (reaction : Reaction) :
    Simulates (Below fun m => m.vars = vars) (react reaction) (react reaction) := by
  refine simulates_get ?_
  rintro m _ ⟨rfl, h⟩
  split
  · refine simulates_get ?_
    rintro m₁ _ ⟨rfl, h⟩
    split
    · exact simulates_bind (simulates_finish_vars vars none) fun _ => simulates_pure _
    · refine simulates_bind (simulates_modify ?_) fun _ => simulates_pure _
      rintro m₂ _ ⟨rfl, h⟩
      exact ⟨rfl, h⟩
  · exact simulates_pure _

/-- A reply leaves the variables alone, or is stored in the variable of the question that is held,
while a run is under way. -/
theorem feed_vars (reply : Reply) (m : Machine) :
    ((feed reply).run.run m).2.vars = m.vars ∨
      ∃ name value, m.console.asking? = some name ∧ m.phase ≠ .ended ∧
        replyValue name reply = .ok value ∧
        ((feed reply).run.run m).2.vars = m.vars.insert name value := by
  rw [feed_eq, run_bind, run_get]
  dsimp only
  rw [run_bind, run_set, Console.feed_fst]
  dsimp only
  cases hasking : m.console.asking? with
  | none => exact .inl rfl
  | some name =>
      dsimp only
      rw [receive, run_bind, run_bind, run_get]
      dsimp only
      by_cases hended : m.phase = .ended
      · rw [if_pos hended]
        exact .inl rfl
      · rw [if_neg hended]
        cases hvalue : replyValue name reply with
        | error fault =>
            have hfinish := simulates_bind (simulates_finish_vars m.vars (some fault))
              fun _ => simulates_pure Reaction.quiet
            rw [← run_bind]
            exact .inl ((simulates_bind hfinish (simulates_react_vars m.vars)).keeps rfl)
        | ok value =>
            refine .inr ⟨name, value, rfl, hended, hvalue, ?_⟩
            exact (simulates_react_vars (m.vars.insert name value) .replied).keeps rfl

/-- A reply is stored in the variable of a question that the run itself has asked, or that was held
when the run began. Nothing else changes a variable when a reply comes. -/
theorem feed_answers_held_question {n : Nat} {source : String} {after : List Request}
    (hdrives : ∀ request ∈ after, request.drives = true) {answers : List (Except Fault Value)}
    (hattend : attend n (.run source :: after) m₁ = some (answers, m₂)) (reply : Reply) :
    ((feed reply).run.run m₂).2.vars = m₂.vars ∨
      ∃ name value, replyValue name reply = .ok value ∧
        ((feed reply).run.run m₂).2.vars = m₂.vars.insert name value ∧ m₂.phase ≠ .ended ∧
        ((∃ k ∈ trail n (.run source :: after) m₁, asksHere? k = some name) ∨
          m₁.console.asking? = some name) := by
  have hrequests : ∀ request ∈ Request.run source :: after, request.drives = true := by
    simpa [Request.drives] using hdrives
  refine (feed_vars reply m₂).imp_right ?_
  rintro ⟨name, value, hasking, hphase, hvalue, hvars⟩
  exact ⟨name, value, hvalue, hvars, hphase, attend_asking hrequests hattend hasking⟩

/-- The program that asks for a text runs up to its question. -/
theorem handle_run_greeting :
    handle 3 (.run "10 INPUT X$\n20 PRINT X$")
        { constants := defaultConstants, functions := defaultFunctions } =
      some (.ok .nothing, held "X$" { greetingWith [] with cursor := 20 }) := by
  have hstart : (start "10 INPUT X$\n20 PRINT X$").run.run
      { constants := defaultConstants, functions := defaultFunctions } =
        (.ok .goesOn, greetingWith []) :=
    start_greeting []
  have hfollow : follow 3 (greetingWith []) =
      some (.ok (), held "X$" { greetingWith [] with cursor := 20 }) := by
    with_unfolding_all rfl
  rw [handle, following, course_bind, followed_eq, hstart]
  dsimp only
  rw [hfollow]
  rfl

/-- A run asks for a text, and the reply is stored where it asked for it. -/
theorem feed_answers_held_question_greeting :
    ∃ answers m₂, attend 3 [.run "10 INPUT X$\n20 PRINT X$"]
        { constants := defaultConstants, functions := defaultFunctions } = some (answers, m₂) ∧
      ((feed (some "A")).run.run m₂).2.vars = Table.empty.insert "X$" (.text "A") ∧
      ∃ k ∈ trail 3 [.run "10 INPUT X$\n20 PRINT X$"]
        { constants := defaultConstants, functions := defaultFunctions },
        asksHere? k = some "X$" := by
  have hattend : attend 3 [.run "10 INPUT X$\n20 PRINT X$"]
      { constants := defaultConstants, functions := defaultFunctions } =
        some ([.ok .nothing], held "X$" { greetingWith [] with cursor := 20 }) := by
    rw [attend, handle_run_greeting]
    rfl
  have hstored : ((feed (some "A")).run.run
      (held "X$" { greetingWith [] with cursor := 20 })).2.vars =
        Table.empty.insert "X$" (.text "A") := by
    with_unfolding_all rfl
  refine ⟨_, _, hattend, hstored, ?_⟩
  rcases feed_answers_held_question (by simp) hattend (some "A") with
    hsame | ⟨name, value, -, hvars, -, hasked | hheld⟩
  · rw [hstored] at hsame
    cases hsame
  · rw [hstored] at hvars
    cases hvars
    exact hasked
  · cases hheld

def greetingStopped : Machine :=
  { held "X$" { greetingWith [] with cursor := 20 } with
    halted := true, phase := .ended, completion := .done {} }

/-- A run that has asked for a text is stopped, and another one begins and pauses. The reply that
comes then is stored in a variable of the second run, which has not asked for anything. -/
theorem feed_answers_former_run :
    ∃ answers₁ m₁ answers₂ m₂,
      attend 3 [.run "10 INPUT X$\n20 PRINT X$", .stop]
        { constants := defaultConstants, functions := defaultFunctions } = some (answers₁, m₁) ∧
      m₁.phase = .ended ∧
      attend 3 [.run "10 PAUSE 5\n20 PRINT \"A\""] m₁ = some (answers₂, m₂) ∧
      (∀ k ∈ trail 3 [.run "10 PAUSE 5\n20 PRINT \"A\""] m₁, asksHere? k = none) ∧
      m₂.vars = .empty ∧
      ((feed (some "7")).run.run m₂).2.vars = Table.empty.insert "X$" (.text "7") := by
  obtain ⟨s, -, hcycle⟩ := cycle_pausing
  have hstopped : attend 3 [.run "10 INPUT X$\n20 PRINT X$", .stop]
      { constants := defaultConstants, functions := defaultFunctions } =
        some ([.ok .nothing, .ok .nothing], greetingStopped) := by
    rw [attend, handle_run_greeting]
    rfl
  -- the question of the first run is still held when the second one pauses
  have hstart : (start "10 PAUSE 5\n20 PRINT \"A\"").run.run greetingStopped =
      (.ok .goesOn, { pausingAt 10 with console := .buffer { asking := some "X$" } }) := by
    unfold start
    rw [load_pausing]
    rfl
  have hpause := hcycle (.buffer { asking := some "X$" })
  have hmoments : Request.moments 3 (.run "10 PAUSE 5\n20 PRINT \"A\"") greetingStopped =
      [{ pausingAt 10 with console := .buffer { asking := some "X$" } }] := by
    rw [Request.moments, momentsAfter, hstart]
    dsimp only
    rw [moments, hpause]
  have hhandle : handle 3 (.run "10 PAUSE 5\n20 PRINT \"A\"") greetingStopped = some (.ok .nothing,
      pausedFor s { pausingAt 20 with console := .buffer { asking := some "X$" } }) := by
    rw [handle, following, course_bind, followed_eq, hstart]
    dsimp only
    rw [follow_succ, hpause]
    rfl
  refine ⟨_, greetingStopped, [.ok .nothing], _, hstopped, rfl, by rw [attend, hhandle]; rfl, ?_,
    rfl, by with_unfolding_all rfl⟩
  intro k hk
  simp only [trail, hmoments, hhandle, List.append_nil, List.mem_singleton] at hk
  rw [hk]
  rfl

end Machine

end LineBasic

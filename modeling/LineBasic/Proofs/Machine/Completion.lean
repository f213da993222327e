import LineBasic.Proofs.Grammar.Numbering
import LineBasic.Proofs.Machine.Ended
import LineBasic.Proofs.Machine.Failing
import LineBasic.Proofs.Machine.Suspension

/-!
# A run is completed once

The end of a run is reached on many ways: after the last line, by a request to stop, through a fault
in a statement or in a reply, from outside, or because the program cannot be loaded. `Accounted`
says that the phase and the completion of a machine agree: the latest run is completed just when the
machine has ended. The cursor and the lines of the program have numbers that can be written, so that
every fault of a run can be told when it ends.

Every statement, every cycle and every request keeps this, so no run is completed twice.
-/

namespace LineBasic

namespace Machine

variable {b : Bool} {m : Machine}

/-- The phase of the machine tells whether its latest run is completed. Once a run has `begun` there
is a latest run. -/
structure Accounted (begun : Bool) (m : Machine) : Prop where
  begun : begun = true → m.completion ≠ .absent
  absent : m.completion = .absent → m.phase = .idle ∨ m.phase = .ended
  ended : m.completion ≠ .absent → (m.phase = .ended ↔ ∃ outcome, m.completion = .done outcome)
  cursor : (Decimal.writeInt? m.cursor).isSome = true
  program : m.program.Writable

structure Going (begun : Bool) (m : Machine) : Prop where
  accounted : Accounted begun m
  phase : m.phase = .running

namespace Accounted

theorem weaken (h : Accounted true m) : Accounted b m :=
  ⟨fun _ => h.begun rfl, h.absent, h.ended, h.cursor, h.program⟩

/-- A run that is under way or suspended is yet to be completed. -/
theorem pending (h : Accounted b m) (hidle : m.phase ≠ .idle) (hended : m.phase ≠ .ended) :
    m.completion = .pending := by
  cases hc : m.completion with
  | absent => exact absurd (h.absent hc) (by simp [hidle, hended])
  | pending => rfl
  | done outcome => exact absurd ((h.ended (by simp [hc])).mpr ⟨outcome, hc⟩) hended

theorem rephase (h : Accounted b m) (hpending : m.completion = .pending) (phase : Phase)
    (hphase : phase ≠ .ended) : Accounted b { m with phase := phase } where
  begun := h.begun
  absent hc := by simp [hpending] at hc
  ended _ := by simp [hphase, hpending]
  cursor := h.cursor
  program := h.program

end Accounted

theorem describe_of_tellable {e : Fault} (h : e.Tellable) : describe e = .ok e.message := by
  unfold describe
  cases hline : e.line? with
  | none => rfl
  | some n =>
      obtain ⟨digits, hdigits⟩ := Option.isSome_iff_exists.mp (h n hline)
      simp [hdigits]

def outcome (m : Machine) : Option Fault → Outcome
  | none => {}
  | some e => { fault := some (e.atLine m.currentLine), line := m.currentLine }

/-- The end of a run whose fault can be told comes down to recording its outcome. -/
theorem run_conclude {fault : Option Fault} (hfault : ∀ e ∈ fault, e.Tellable)
    (hcursor : (Decimal.writeInt? m.cursor).isSome = true) :
    ∃ log, (conclude fault).run.run m =
      (complete (m.outcome fault)).run.run { m with log := log } := by
  cases fault with
  | none =>
      obtain ⟨log, hlog⟩ := run_trace 1 "program ended" m
      exact ⟨log, by simp only [conclude, run_bind, hlog, outcome]⟩
  | some e =>
      have htold : (e.atLine m.currentLine).Tellable := by
        refine Fault.tellable_atLine (hfault e rfl) fun n hn => ?_
        unfold currentLine at hn
        split at hn
        · cases hn
          exact hcursor
        · cases hn
      obtain ⟨log, hlog⟩ := run_trace 1
        ("program ended with error: " ++ (e.atLine m.currentLine).message) m
      refine ⟨log, ?_⟩
      simp only [conclude, run_bind, run_get, run_liftM, describe_of_tellable htold, hlog, outcome]

theorem cancelTimer_eq (m : Machine) :
    ∃ timers timer, cancelTimer m = { m with timers := timers, timer := timer } := by
  unfold cancelTimer
  split
  · exact ⟨_, _, rfl⟩
  · exact ⟨m.timers, m.timer, rfl⟩

/-- The end of a run that is yet to be completed, and whose fault can be told. -/
theorem run_finish_of_pending (hphase : m.phase ≠ .ended) (hpending : m.completion = .pending)
    {fault : Option Fault} (hfault : ∀ e ∈ fault, e.Tellable)
    (hcursor : (Decimal.writeInt? m.cursor).isSome = true) :
    ∃ log, (finish fault).run.run m = (.ok (), { cancelTimer m with
      phase := .ended, completion := .done (m.outcome fault), log := log }) := by
  obtain ⟨timers, timer, hcancel⟩ := cancelTimer_eq m
  have houtcome : outcome { m with timers := timers, timer := timer, phase := .ended } fault =
      m.outcome fault := by
    cases fault <;> rfl
  obtain ⟨log, hrun⟩ := run_conclude
    (m := { m with timers := timers, timer := timer, phase := .ended }) hfault hcursor
  refine ⟨log, ?_⟩
  rw [finish_eq, run_bind, run_get]
  dsimp only
  rw [if_neg hphase, run_bind, run_modify, hcancel]
  dsimp only
  rw [hrun, houtcome, complete, run_bind, run_get]
  dsimp only
  rw [hpending]
  rfl

/-- Ending a run keeps the account, and never fails. -/
theorem accounted_finish {fault : Option Fault} (hfault : ∀ e ∈ fault, e.Tellable) :
    Keeps (Accounted b) (finish fault) := by
  intro m h
  rw [finish_eq, run_bind, run_get]
  dsimp only
  by_cases hended : m.phase = .ended
  · rw [if_pos hended]
    exact ⟨h, raises_ok ()⟩
  · rw [if_neg hended, run_bind, run_modify]
    dsimp only
    obtain ⟨timers, timer, hcancel⟩ := cancelTimer_eq m
    rw [hcancel]
    obtain ⟨log, hrun⟩ := run_conclude
      (m := { m with timers := timers, timer := timer, phase := .ended }) hfault h.cursor
    rw [hrun]
    cases hc : m.completion with
    | absent =>
        simp only [complete, run_bind, run_get]
        exact ⟨⟨fun hb => absurd hc (h.begun hb), fun _ => .inr rfl, nofun, h.cursor, h.program⟩,
          raises_ok ()⟩
    | pending =>
        simp only [complete, run_bind, run_get]
        exact ⟨⟨nofun, nofun, fun _ => ⟨fun _ => ⟨_, rfl⟩, fun _ => rfl⟩, h.cursor, h.program⟩,
          raises_ok ()⟩
    | done o => exact absurd ((h.ended (by simp [hc])).mpr ⟨o, hc⟩) hended

theorem accounted_halt : Keeps (Accounted b) halt :=
  .modify fun _ h => ⟨h.begun, h.absent, h.ended, h.cursor, h.program⟩

theorem accounted_stop : Keeps (Accounted b) stop := by
  refine .get fun m h => ?_
  split
  · exact .pure _
  · refine .bind accounted_halt fun _ => .get fun m h => ?_
    split
    · exact accounted_finish nofun
    · exact .pure _

/-- Statements keep the account. -/
theorem lasting_accounted : Lasting (Accounted b) where
  primitive _ := Fault.isBare_of_isPrimitive
  run _ := rfl
  display _ _ h := ⟨h.begun, h.absent, h.ended, h.cursor, h.program⟩
  dice _ _ h := ⟨h.begun, h.absent, h.ended, h.cursor, h.program⟩
  log _ _ h := ⟨h.begun, h.absent, h.ended, h.cursor, h.program⟩
  vars _ _ h := ⟨h.begun, h.absent, h.ended, h.cursor, h.program⟩
  heap _ _ h := ⟨h.begun, h.absent, h.ended, h.cursor, h.program⟩
  loops _ _ h := ⟨h.begun, h.absent, h.ended, h.cursor, h.program⟩
  stack _ _ h := ⟨h.begun, h.absent, h.ended, h.cursor, h.program⟩
  jump _ _ hline h := ⟨h.begun, h.absent, h.ended, hline, h.program⟩
  halt _ h := ⟨h.begun, h.absent, h.ended, h.cursor, h.program⟩
  delay _ _ h := ⟨h.begun, h.absent, h.ended, h.cursor, h.program⟩
  waiting _ _ h := ⟨h.begun, h.absent, h.ended, h.cursor, h.program⟩
  console _ _ h := ⟨h.begun, h.absent, h.ended, h.cursor, h.program⟩
  stop := accounted_stop
  finish _ hfault := accounted_finish fun e he => Fault.tellable_of_isBare (hfault e he)

/-- A step keeps the account: a fault of the statement ends the run, and so does a missing line. -/
theorem accounted_step : Keeps (Accounted b) step := by
  refine lasting_accounted.step (fun _ line _ _ => decodes_bare _) fun m h => accounted_finish ?_
  rintro e ⟨⟩ n ⟨⟩
  exact h.cursor

theorem accounted_moveOn : Keeps (Accounted b) moveOn := by
  refine .get fun m h => ?_
  split
  · exact .pure _
  · split
    · refine .bind (.set ?_) fun _ => .pure _
      exact ⟨h.begun, h.absent, h.ended, h.cursor, h.program⟩
    · split
      · exact .bind (accounted_finish nofun) fun _ => .pure _
      · next line hline =>
        refine .bind (.set ?_) fun _ => .pure _
        exact ⟨h.begun, h.absent, h.ended, h.program.next? hline, h.program⟩

theorem accounted_advance : Keeps (Accounted b) advance :=
  .bind accounted_step fun _ => accounted_moveOn

/-- What an action that may let a run go on comes to: it keeps the account, and where the run goes
on the machine runs. -/
abbrev Settles (begun : Bool) (x : Except Fault Progress × Machine) : Prop :=
  Matched (Below (Going begun)) (Below (Accounted begun)) (fun e => e.isBare = true) x x

/-- Ending a run and stopping there. -/
theorem settles_finish {fault : Option Fault} (hfault : ∀ e ∈ fault, e.Tellable)
    (h : Accounted b m) :
    Settles b ((do finish fault; return .stops : Action Progress).run.run m) := by
  obtain ⟨haccounted, hbare⟩ := accounted_finish hfault h
  exact matched_finish haccounted hbare

theorem settles_suspend (h : Going b m) (v : Value) : Settles b ((suspend v).run.run m) := by
  have hpending := h.accounted.pending (by simp [h.phase]) (by simp [h.phase])
  have hpaused := h.accounted.rephase hpending .paused (by decide)
  cases hs : seconds v with
  | ok s =>
      rw [run_suspend hs]
      refine .stops ⟨rfl, ?_⟩
      exact ⟨hpaused.begun, hpaused.absent, hpaused.ended, hpaused.cursor, hpaused.program⟩
  | error e =>
      rw [run_suspend_error hs]
      exact .error (Fault.isBare_of_isPrimitive (primitive_seconds v e hs)) ⟨rfl, hpaused⟩

theorem settles_awaitReply (h : Going b m) : Settles b (awaitReply.run.run m) := by
  have hpending := h.accounted.pending (by simp [h.phase]) (by simp [h.phase])
  unfold awaitReply
  rw [run_bind, run_get]
  dsimp only
  split
  · exact .stops ⟨rfl, h.accounted.rephase hpending .waiting (by decide)⟩
  · exact .goesOn ⟨rfl, h⟩

theorem settles_boundary (h : Going b m) : Settles b (boundary.run.run m) := by
  have hcleared : Going b { m with delay := none } :=
    ⟨lasting_accounted.delay none h.accounted, h.phase⟩
  unfold boundary
  rw [run_bind, run_get]
  dsimp only
  split
  · exact settles_finish nofun h.accounted
  · rw [run_bind, run_set]
    dsimp only
    split
    · split
      · exact settles_suspend hcleared _
      · exact settles_awaitReply hcleared
    · exact settles_awaitReply hcleared

/-- A cycle of a run keeps the account. -/
theorem settles_cycle (h : Going b m) : Settles b (cycle.run.run m) := by
  obtain ⟨haccounted, hbare⟩ := accounted_advance h.accounted
  rw [cycle_eq_cycleWith, run_cycleWith]
  rcases hadvance : advance.run.run m with ⟨e | p, m₁⟩
  · rw [hadvance] at haccounted hbare
    exact .error (hbare e rfl) ⟨rfl, haccounted⟩
  · rw [hadvance] at haccounted
    cases p with
    | goesOn => exact settles_boundary ⟨haccounted, (advance_goesOn_phase hadvance).trans h.phase⟩
    | stops => exact .stops ⟨rfl, haccounted⟩

/-! ## Requests -/

/-- Taking up a run that is suspended keeps the account. -/
theorem settles_goOn (h : Accounted b m) (hphase : m.phase = .paused ∨ m.phase = .waiting) :
    Settles b (goOn.run.run m) := by
  have hpending : m.completion = .pending := by
    apply h.pending
    · rcases hphase with hphase | hphase <;> simp [hphase]
    · rcases hphase with hphase | hphase <;> simp [hphase]
  unfold goOn
  rw [run_bind, run_get]
  dsimp only
  split
  · exact settles_finish nofun h
  · exact .goesOn ⟨rfl, h.rephase hpending .running (by decide), rfl⟩

theorem settles_wake (h : Accounted b m) : Settles b (wake.run.run m) := by
  have huntimed : Accounted b { m with timer := none } :=
    ⟨h.begun, h.absent, h.ended, h.cursor, h.program⟩
  unfold wake
  rw [run_bind, run_modify]
  dsimp only
  rw [run_bind, run_get]
  dsimp only
  split
  · next hphase => exact settles_goOn huntimed (.inl hphase)
  · exact .stops ⟨rfl, huntimed⟩

theorem settles_resume (h : Accounted b m) : Settles b (resume.run.run m) := by
  have hreleased := lasting_accounted.waiting false h
  unfold resume
  rw [run_bind, run_get]
  dsimp only
  split
  · exact .stops ⟨rfl, h⟩
  · rw [run_bind, run_modify]
    dsimp only
    rw [run_bind, run_get]
    dsimp only
    split
    · next hphase => exact settles_goOn hreleased (.inr hphase)
    · exact .stops ⟨rfl, hreleased⟩

theorem settles_react (h : Accounted b m) (reaction : Reaction) :
    Settles b ((react reaction).run.run m) := by
  unfold react
  rw [run_bind, run_get]
  dsimp only
  split
  · next hphase => exact settles_goOn h (.inr hphase.2)
  · exact .stops ⟨rfl, h⟩

theorem settles_feed (h : Accounted b m) (reply : Reply) : Settles b ((feed reply).run.run m) := by
  have hfed := lasting_accounted.console (m.console.feed reply).2 h
  unfold feed
  rw [run_bind, run_get]
  dsimp only
  rw [run_bind, run_set]
  dsimp only
  split
  · next name _ =>
    obtain ⟨haccounted, hbare⟩ := lasting_accounted.receive name reply hfed
    rw [run_bind]
    rcases hr : (receive name reply).run.run { m with console := (m.console.feed reply).2 } with
      ⟨e | reaction, m₁⟩
    · rw [hr] at haccounted hbare
      exact .error (hbare e rfl) ⟨rfl, haccounted⟩
    · rw [hr] at haccounted
      exact settles_react haccounted reaction
  · exact .stops ⟨rfl, hfed⟩

/-- The start of a run makes a latest run, whatever came before. -/
theorem settles_start (h : Accounted b m) (source : String) :
    Settles true ((start source).run.run m) := by
  have hminus : (Decimal.writeInt? (-1)).isSome = true := by decide +kernel
  have hreset : Accounted true (reset m) :=
    ⟨nofun, nofun, fun _ => ⟨nofun, nofun⟩, hminus, Program.writable_empty⟩
  rw [start_eq, run_bind, run_get]
  dsimp only
  split
  · next hbusy =>
    have hpending : m.completion = .pending := by
      apply h.pending
      · rcases hbusy with hbusy | hbusy | hbusy <;> simp [hbusy]
      · rcases hbusy with hbusy | hbusy | hbusy <;> simp [hbusy]
    exact .error rfl ⟨rfl, fun _ => by simp [hpending], h.absent, h.ended, h.cursor, h.program⟩
  · unfold launch
    rw [run_bind, run_modify]
    dsimp only
    cases hload : Program.load source with
    | error e =>
        have horderly := Program.orderly_of_load hload
        dsimp only
        split
        · next hforeign =>
          exact .error (horderly.2 (by simpa using hforeign)) ⟨rfl, hreset⟩
        · refine settles_finish ?_ hreset
          rintro _ ⟨⟩
          exact horderly.1
    | ok p =>
        have hwritable := Program.writable_of_load hload
        have hloaded : Accounted true { reset m with program := p } :=
          ⟨hreset.begun, hreset.absent, hreset.ended, hreset.cursor, hwritable⟩
        dsimp only
        rw [run_bind, run_modify]
        dsimp only
        cases hfirst : p.first? with
        | none => exact settles_finish nofun hloaded
        | some line =>
            have hline := hwritable line (List.mem_of_mem_head? hfirst)
            refine .goesOn ⟨rfl, ⟨?_, rfl⟩⟩
            exact ⟨nofun, nofun, fun _ => ⟨nofun, nofun⟩, hline, hwritable⟩

/-- The requests that a session may hold: a fault given from outside can be told. -/
def Request.Plain (request : Request) : Prop :=
  request.drives = true ∧ ∀ e, request = .finish (some e) → e.Tellable

/-- Sessions keep the account. -/
theorem attuned_accounted : Attuned Request.Plain (fun _ => True) (Below (Going b))
    (Below (Accounted b)) (fun e => e.isBare = true) where
  drives _ h := h.1
  cycle := by
    rintro m _ ⟨rfl, h⟩ -
    exact settles_cycle h
  start := by
    rintro m _ source - ⟨rfl, h⟩
    refine (settles_start h source).imp ?_ ?_ fun _ he => he
    · rintro m _ ⟨rfl, h⟩
      exact ⟨rfl, h.accounted.weaken, h.phase⟩
    · rintro m _ ⟨rfl, h⟩
      exact ⟨rfl, h.weaken⟩
  feed := by
    rintro m _ reply - ⟨rfl, h⟩
    exact settles_feed h reply
  resume := by
    rintro m _ ⟨rfl, h⟩
    exact settles_resume h
  fires := by
    rintro m _ ⟨rfl, h⟩
    rfl
  wake := by
    rintro m _ ⟨rfl, h⟩ -
    exact settles_wake ⟨h.begun, h.absent, h.ended, h.cursor, h.program⟩
  drain := by
    rintro m _ ⟨rfl, h⟩ -
    exact ⟨rfl, h.begun, h.absent, h.ended, h.cursor, h.program⟩
  press := by
    rintro m _ key ⟨rfl, h⟩
    have hpress : Keeps (Accounted b) (press key) := by
      refine .get fun m h => ?_
      split
      · exact .modify fun _ h => lasting_accounted.display _ h
      · exact .throw rfl
    exact agrees_below (hpress h).1 (hpress h).2
  stop := by
    rintro m _ ⟨rfl, h⟩
    exact agrees_below (accounted_stop h).1 (accounted_stop h).2
  stopElsewhere := by
    rintro m _ ⟨rfl, h⟩
    have hstop : Keeps (Accounted b) stopElsewhere := by
      refine .get fun m h => ?_
      split
      · exact .pure _
      · exact accounted_halt
    exact agrees_below (hstop h).1 (hstop h).2
  finish := by
    rintro m _ fault hplain ⟨rfl, h⟩
    have hfinish : Keeps (Accounted b) (finish fault) :=
      accounted_finish fun e he => hplain.2 e (by rw [he])
    exact agrees_below (hfinish h).1 (hfinish h).2

/-- After a request to run there is a latest run. -/
theorem accounted_of_run {n : Nat} {requests : List Request} {answers : List (Except Fault Value)}
    {m₁ : Machine} (h : Accounted b m) (hplain : ∀ request ∈ requests, request.Plain)
    {source : String} (hrun : Request.run source ∈ requests)
    (hattend : attend n requests m = some (answers, m₁)) : Accounted true m₁ := by
  induction requests generalizing m answers with
  | nil => cases hrun
  | cons request rest ih =>
      obtain ⟨answer, more, m₂, hhandle, hrest, rfl⟩ := attend_cons hattend
      have hplain₁ : ∀ request ∈ rest, request.Plain := fun r hr => hplain r (by simp [hr])
      rcases List.mem_cons.mp hrun with rfl | hrun
      · have hagrees : Agrees (Below (Accounted true)) (fun e => e.isBare = true)
            (handle n (.run source) m) (handle n (.run source) m) :=
          (attuned_accounted.followed (settles_start h source) (by simp)).1.bind
            fun _ _ _ h => .ok _ h
        rw [hhandle] at hagrees
        have h₂ : Accounted true m₂ := by
          cases hagrees with
          | ok _ h₂ => exact h₂.2
          | error _ h₂ => exact h₂.2
        exact (attuned_accounted.attend_below hplain₁ h₂ (by simp) hrest).1
      · have h₂ := attuned_accounted.handle_below (hplain request (by simp)) h (by simp) hhandle
        exact ih h₂ hplain₁ hrun hrest

/-! ## Sessions of a new machine -/

theorem IsNew.accounted (h : IsNew m) : Accounted false m := by
  have hminus : (Decimal.writeInt? (-1)).isSome = true := by decide +kernel
  rw [h]
  exact ⟨nofun, fun _ => .inl rfl, fun hc => absurd rfl hc, hminus, Program.writable_empty⟩

/-- A run is completed once, and a machine that has ended is inert. Whatever a new machine is asked:
before every statement the run is yet to be completed, and neither a statement nor a request ever
completes a run a second time. Once a run has been asked for, the machine has ended just when the
latest run is completed. Then every request but another run leaves everything as it is, apart from
the replies and keys kept for later and the timers. -/
theorem attend_completes_once {m₀ : Machine} (hnew : IsNew m₀) (n : Nat) {requests : List Request}
    (hplain : ∀ request ∈ requests, request.Plain) :
    (∀ k ∈ trail n requests m₀, k.completion = .pending ∧
      ∀ line log, k.program.find? k.cursor = some line →
        ((performInstruction line.instruction).run.run { k with log := log }).1 ≠
          .error .alreadyCompleted) ∧
    ∀ answers m, attend n requests m₀ = some (answers, m) →
      .error .alreadyCompleted ∉ answers ∧
      ((∃ source, .run source ∈ requests) →
        (m.phase = .ended ↔ ∃ outcome, m.completion = .done outcome)) ∧
      (m.phase = .ended → ∀ request : Request, request.drives = true →
        (∀ source, request ≠ .run source) →
        (∃ k, (handle k request m).isSome = true) ∧
          ∀ k x, handle k request m = some x → Inert m x.2) := by
  refine ⟨fun k hk => ?_, fun answers m hattend => ⟨fun hmem => ?_, ?_, ?_⟩⟩
  · have hgoing := attuned_accounted.trail_below hplain hnew.accounted (by simp) k hk
    refine ⟨hgoing.accounted.pending (by simp [hgoing.phase]) (by simp [hgoing.phase]), ?_⟩
    intro line log _ herror
    have hlogged := lasting_accounted.log log hgoing.accounted
    have hbare := (lasting_accounted.performInstruction line.instruction hlogged).2
    cases hbare .alreadyCompleted herror
  · have hbare := (attuned_accounted.attend_below hplain hnew.accounted (by simp) hattend).2
    cases hbare .alreadyCompleted hmem
  · rintro ⟨source, hrun⟩
    have haccounted := accounted_of_run hnew.accounted hplain hrun hattend
    exact haccounted.ended (haccounted.begun rfl)
  · intro hended request hdrives hother
    exact handle_of_ended hended hdrives hother

/-- A run that is paused is ended from outside with a fault, after which its timer is fired in vain
and another end is asked for. -/
theorem attend_completes_once_pausing :
    ∃ answers m, attend 1 [.run "10 PAUSE 5\n20 PRINT \"A\"", .finish (some .wrongType), .tick,
          .finish none] { constants := defaultConstants, functions := defaultFunctions } =
        some (answers, m) ∧
      answers.length = 4 ∧ .error .alreadyCompleted ∉ answers ∧
      m.phase = .ended ∧ ∃ outcome, m.completion = .done outcome := by
  obtain ⟨s, -, -, hrun⟩ := handle_run_pausing
  have hattend : ∃ answers m, attend 1 [.run "10 PAUSE 5\n20 PRINT \"A\"",
      .finish (some .wrongType), .tick, .finish none]
      { constants := defaultConstants, functions := defaultFunctions } = some (answers, m) ∧
        answers.length = 4 ∧ m.phase = .ended := by
    rw [attend, hrun]
    exact ⟨_, _, rfl, rfl, rfl⟩
  obtain ⟨answers, m, hattend, hlength, hended⟩ := hattend
  have hplain : ∀ request ∈ [Request.run "10 PAUSE 5\n20 PRINT \"A\"",
      .finish (some .wrongType), .tick, .finish none], request.Plain := by
    have htellable : Fault.wrongType.Tellable := Fault.tellable_of_isBare rfl
    simp [Request.Plain, Request.drives, htellable]
  have hnew : IsNew { constants := defaultConstants, functions := defaultFunctions } := rfl
  obtain ⟨honce, hiff, -⟩ := (attend_completes_once hnew 1 hplain).2 answers m hattend
  have hdone := (hiff ⟨"10 PAUSE 5\n20 PRINT \"A\"", by simp⟩).mp hended
  exact ⟨answers, m, hattend, hlength, honce, hended, hdone⟩

end Machine

end LineBasic

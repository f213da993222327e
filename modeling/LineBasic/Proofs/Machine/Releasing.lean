import LineBasic.Proofs.Machine.Halting
import LineBasic.Proofs.Program.Layout

/-!
# Runs that let go of the machine

A machine takes one run at a time, so a run that has been followed to its result must not leave the
machine busy: it is to be ended, or suspended so that a request to stop ends it. `Released` says
this of a machine between requests. Every cycle of a run keeps to it, also one that is at fault:
what fails in a statement ends the run, and a pause that is too long to be told in seconds leaves
the machine paused.

The start of a run is the exception. The machine counts as running before its program is loaded, and
a line number of too many digits is no fault of the language, so it is not taken as the end of the
run. Such a source leaves the machine running with nothing that runs, and from then on it can
neither be stopped nor be used again.
-/

namespace LineBasic

/-! ## Line numbers that are too long -/

namespace Program

/-- A source that is nothing but digits, more than a number may have, cannot be loaded, and this is
no fault of the language. -/
theorem load_overlong {cs : List Char} (hdigits : ∀ c ∈ cs, Text.isDigit c = true)
    (hlong : Decimal.digitLimit < cs.length) : load (String.ofList cs) = .error .badValue := by
  have hink : ∀ c ∈ cs, Text.isBlank c = false := fun c hc => by
    simpa [Token.isInk] using Token.isInk_of_isDigit (hdigits c hc)
  have hbreak : '\n' ∉ cs := fun hmem => absurd (hink _ hmem) (by decide)
  obtain ⟨c, rest, rfl⟩ : ∃ c rest, cs = c :: rest := by
    cases cs with
    | nil => simp at hlong
    | cons c rest => exact ⟨c, rest, rfl⟩
  have hlines : (splitSource (String.ofList (c :: rest))).filter (!isBlankLine ·) =
      [String.ofList (c :: rest)] := by
    rw [splitSource, String.toList_ofList, splitLines_unbroken hbreak]
    simp [isBlankLine, hink c (by simp)]
  have htrim : Text.trimLeft (c :: rest) = c :: rest := by
    rw [Text.trimLeft, List.dropWhile_cons_of_neg (by simp [hink c (by simp)])]
  have hsplit : splitLine? (c :: rest) = some (c :: rest, []) := by
    have htake : (c :: rest).takeWhile Text.isDigit = c :: rest :=
      List.takeWhile_eq_self_iff.mpr hdigits
    have hdrop : (c :: rest).dropWhile Text.isDigit = [] :=
      List.dropWhile_eq_nil_iff.mpr hdigits
    simp only [splitLine?, htrim, htake, hdrop]
    rfl
  have hparse : parseLine (String.ofList (c :: rest)) = .error .badValue := by
    rw [parseLine, String.toList_ofList, hsplit]
    exact if_neg (by omega)
  unfold load
  rw [hlines, List.mapM_cons, hparse]
  rfl

end Program

namespace Machine

variable {m m₁ : Machine}

/-! ## Cycles -/

/-- Between requests after the start of a run: it is accounted for, and has ended or is suspended.
-/
structure Released (m : Machine) : Prop where
  accounted : Accounted true m
  phase : m.phase = .paused ∨ m.phase = .waiting ∨ m.phase = .ended

/-- A fault that escapes a step comes from the end of the run, so the run has ended. -/
theorem step_error_phase (hcursor : (Decimal.writeInt? m.cursor).isSome = true) {e : Fault}
    (hstep : step.run.run m = (.error e, m₁)) : m₁.phase = .ended := by
  cases hline : m.program.find? m.cursor with
  | none =>
      rw [run_step_missing hline, missing_of_writable hcursor] at hstep
      exact finish_then_phase hstep
  | some line =>
      rw [run_step hline] at hstep
      rcases hperform : (commandHere >>= performChosen).run.run m with ⟨fault | reaction, m₂⟩
      · rw [hperform] at hstep
        exact finish_then_phase hstep
      · rw [hperform] at hstep
        cases hstep

theorem moveOn_error_phase {e : Fault} (hmove : moveOn.run.run m = (.error e, m₁)) :
    m₁.phase = .ended := by
  unfold moveOn at hmove
  rw [run_bind, run_get] at hmove
  dsimp only at hmove
  split at hmove
  · cases hmove
  · split at hmove
    · cases hmove
    · split at hmove
      · exact finish_then_phase hmove
      · cases hmove

/-- A boundary after which the run does not go on leaves it suspended or ended. -/
theorem boundary_phase {x : Except Fault Progress} (hboundary : boundary.run.run m = (x, m₁))
    (hx : x ≠ .ok .goesOn) : m₁.phase = .paused ∨ m₁.phase = .waiting ∨ m₁.phase = .ended := by
  have hawait : ∀ {m₂ : Machine}, awaitReply.run.run m₂ = (x, m₁) → m₁.phase = .waiting := by
    intro m₂ hrun
    unfold awaitReply at hrun
    rw [run_bind, run_get] at hrun
    dsimp only at hrun
    split at hrun
    · cases hrun
      rfl
    · cases hrun
      exact absurd rfl hx
  unfold boundary at hboundary
  rw [run_bind, run_get] at hboundary
  dsimp only at hboundary
  split at hboundary
  · exact .inr (.inr (finish_then_phase hboundary))
  · rw [run_bind, run_set] at hboundary
    dsimp only at hboundary
    split at hboundary
    · next millis _ =>
      split at hboundary
      · cases hs : seconds millis with
        | ok s =>
            rw [run_suspend hs] at hboundary
            cases hboundary
            exact .inl rfl
        | error e =>
            rw [run_suspend_error hs] at hboundary
            cases hboundary
            exact .inl rfl
      · exact .inr (.inl (hawait hboundary))
    · exact .inr (.inl (hawait hboundary))

/-- A cycle after which the run does not go on releases the machine. -/
theorem released_cycle (h : Going true m) {x : Except Fault Progress}
    (hcycle : cycle.run.run m = (x, m₁)) (hx : x ≠ .ok .goesOn) : Released m₁ := by
  have hsettles := settles_cycle h
  rw [hcycle] at hsettles
  have haccounted : Accounted true m₁ := by
    cases hsettles with
    | goesOn _ => exact absurd rfl hx
    | stops h₁ => exact h₁.2
    | error _ h₁ => exact h₁.2
  refine ⟨haccounted, ?_⟩
  rw [cycle_eq_afterStep, run_bind] at hcycle
  rcases hstep : step.run.run m with ⟨e | reaction, m₂⟩
  · rw [hstep] at hcycle
    cases hcycle
    exact .inr (.inr (step_error_phase h.accounted.cursor hstep))
  · rw [hstep] at hcycle
    dsimp only at hcycle
    rw [afterStep, run_bind] at hcycle
    rcases hmove : moveOn.run.run m₂ with ⟨e | progress, m₃⟩
    · rw [hmove] at hcycle
      cases hcycle
      exact .inr (.inr (moveOn_error_phase hmove))
    · rw [hmove] at hcycle
      cases progress with
      | goesOn => exact boundary_phase hcycle hx
      | stops =>
          cases hcycle
          have hadvance : advance.run.run m = (.ok .stops, m₁) := by
            rw [advance, run_bind, hstep]
            exact hmove
          exact .inr (.inr (advance_stops hadvance))

/-- A run that is followed to its result releases the machine. -/
theorem released_follow {n : Nat} (h : Going true m) {x : Except Fault Unit}
    (hfollow : follow n m = some (x, m₁)) : Released m₁ := by
  induction n generalizing m with
  | zero => cases hfollow
  | succ n ih =>
      have hsettles := settles_cycle h
      rw [follow_succ] at hfollow
      rcases hcycle : cycle.run.run m with ⟨e | progress, m₂⟩
      · rw [hcycle] at hfollow
        cases hfollow
        exact released_cycle h hcycle nofun
      · rw [hcycle] at hfollow hsettles
        cases progress with
        | goesOn =>
            cases hsettles with
            | goesOn h₂ => exact ih h₂.2 hfollow
        | stops =>
            cases hfollow
            exact released_cycle h hcycle nofun

/-! ## Whole runs -/

/-- A request to stop brings a machine that is released to its end, with its run completed. -/
theorem Released.stop (h : Released m) :
    ∃ m₁ outcome, stop.run.run m = (.ok (), m₁) ∧ m₁.phase = .ended ∧
      m₁.completion = .done outcome := by
  have hsuspended (hphase : m.phase = .paused ∨ m.phase = .waiting) :
      ∃ m₁ outcome, Machine.stop.run.run m = (.ok (), m₁) ∧ m₁.phase = .ended ∧
        m₁.completion = .done outcome := by
    have hpending : m.completion = .pending := by
      apply h.accounted.pending
      · rcases hphase with hphase | hphase <;> simp [hphase]
      · rcases hphase with hphase | hphase <;> simp [hphase]
    obtain ⟨log, hstop⟩ := run_stop_of_suspended hphase hpending
    exact ⟨_, {}, hstop, rfl, rfl⟩
  rcases h.phase with hphase | hphase | hphase
  · exact hsuspended (.inl hphase)
  · exact hsuspended (.inr hphase)
  · obtain ⟨outcome, hdone⟩ := (h.accounted.ended (h.accounted.begun rfl)).mp hphase
    exact ⟨m, outcome, run_stop_of_ended hphase, hphase, hdone⟩

/-- A machine that is not busy with a run accepts another one. -/
theorem run_start_of_free (h : m.phase = .idle ∨ m.phase = .ended) (source : String) :
    (start source).run.run m = (launch source).run.run m := by
  have hnot : ¬ (m.phase = .running ∨ m.phase = .paused ∨ m.phase = .waiting) := by
    rcases h with h | h <;> simp [h]
  rw [start_eq, run_bind, run_get]
  dsimp only
  rw [if_neg hnot]

/-- Ending a run that has just been accounted for releases the machine. -/
theorem released_finish {fault : Option Fault} (hfault : ∀ e ∈ fault, e.Tellable)
    (h : Accounted true m) :
    ∃ x, x ≠ .ok .goesOn ∧ Released ((finish fault).run.run m).2 ∧
      (do finish fault; return .stops : Action Progress).run.run m =
        (x, ((finish fault).run.run m).2) := by
  have hreleased : Released ((finish fault).run.run m).2 :=
    ⟨(accounted_finish hfault h).1, .inr (.inr (finish_phase fault m))⟩
  rw [run_finish_then]
  cases ((finish fault).run.run m).1 with
  | error e => exact ⟨.error e, nofun, hreleased, rfl⟩
  | ok _ => exact ⟨.ok .stops, nofun, hreleased, rfl⟩

/-- The start of a run on a machine that is free. A program that cannot be loaded, for no fault of
the language, leaves the machine running. Otherwise the run goes on or has released the machine. -/
theorem launch_cases (source : String) (m : Machine) :
    (∃ fault, Program.load source = .error fault ∧ fault.ofLanguage = false ∧
      (launch source).run.run m = (.error fault, reset m)) ∨
    (∀ fault, Program.load source = .error fault → fault.ofLanguage = true) ∧
      ((∃ m₁, (launch source).run.run m = (.ok .goesOn, m₁) ∧ Going true m₁) ∨
        ∃ x m₁, (launch source).run.run m = (x, m₁) ∧ x ≠ .ok .goesOn ∧ Released m₁) := by
  have hminus : (Decimal.writeInt? (-1)).isSome = true := by decide +kernel
  have hreset : Accounted true (reset m) :=
    ⟨nofun, nofun, fun _ => ⟨nofun, nofun⟩, hminus, Program.writable_empty⟩
  unfold launch
  rw [run_bind, run_modify]
  dsimp only
  cases hload : Program.load source with
  | error fault =>
      dsimp only
      cases hlanguage : fault.ofLanguage with
      | false => exact .inl ⟨fault, rfl, hlanguage, rfl⟩
      | true =>
          have htellable : ∀ e ∈ some fault, e.Tellable := by
            rintro _ ⟨⟩
            exact (Program.orderly_of_load hload).1
          obtain ⟨x, hx, hreleased, hrun⟩ := released_finish htellable hreset
          refine .inr ⟨?_, .inr ⟨x, _, hrun, hx, hreleased⟩⟩
          rintro _ ⟨⟩
          exact hlanguage
  | ok p =>
      have hwritable := Program.writable_of_load hload
      have hloaded : Accounted true { reset m with program := p } :=
        ⟨hreset.begun, hreset.absent, hreset.ended, hreset.cursor, hwritable⟩
      refine .inr ⟨nofun, ?_⟩
      dsimp only
      rw [run_bind, run_modify]
      dsimp only
      cases hfirst : p.first? with
      | none =>
          have hnone : ∀ e ∈ (none : Option Fault), e.Tellable := nofun
          obtain ⟨x, hx, hreleased, hrun⟩ := released_finish hnone hloaded
          exact .inr ⟨x, _, hrun, hx, hreleased⟩
      | some line =>
          have hline := hwritable line (List.mem_of_mem_head? hfirst)
          refine .inl ⟨_, rfl, ⟨nofun, nofun, fun _ => ⟨nofun, nofun⟩, hline, hwritable⟩, rfl⟩

/-- A run leaves the machine running only when its program cannot be loaded and this is no fault of
the language, whatever the program, the console and the state the machine was in. In all other cases
a request to stop brings the machine to its end with the run completed, and it accepts the next run.
-/
theorem run_stuck_iff (hfree : m.phase = .idle ∨ m.phase = .ended) {n : Nat} {source : String}
    {x : Except Fault Unit} (hrun : run n source m = some (x, m₁)) :
    (m₁.phase = .running ↔
      ∃ fault, Program.load source = .error fault ∧ fault.ofLanguage = false) ∧
    (m₁.phase ≠ .running → ∃ m₂ outcome, stop.run.run m₁ = (.ok (), m₂) ∧ m₂.phase = .ended ∧
      m₂.completion = .done outcome ∧
      ∀ next, (start next).run.run m₂ = (launch next).run.run m₂) := by
  have hstart : (start source).run.run m = (launch source).run.run m :=
    run_start_of_free hfree source
  rw [run, followed_eq, hstart] at hrun
  have hreleases (h : Released m₁)
      (hlanguage : ∀ fault, Program.load source = .error fault → fault.ofLanguage = true) :
      (m₁.phase = .running ↔
        ∃ fault, Program.load source = .error fault ∧ fault.ofLanguage = false) ∧
      (m₁.phase ≠ .running → ∃ m₂ outcome, stop.run.run m₁ = (.ok (), m₂) ∧ m₂.phase = .ended ∧
        m₂.completion = .done outcome ∧
        ∀ next, (start next).run.run m₂ = (launch next).run.run m₂) := by
    refine ⟨⟨fun hphase => ?_, ?_⟩, fun _ => ?_⟩
    · rcases h.phase with h | h | h <;> simp [h] at hphase
    · rintro ⟨fault, hload, hforeign⟩
      rw [hlanguage fault hload] at hforeign
      cases hforeign
    · obtain ⟨m₂, outcome, hstop, hended, hdone⟩ := h.stop
      exact ⟨m₂, outcome, hstop, hended, hdone, run_start_of_free (.inr hended)⟩
  rcases launch_cases source m with ⟨fault, hload, hforeign, hlaunch⟩ |
    ⟨hlanguage, ⟨m₂, hlaunch, hgoing⟩ | ⟨y, m₂, hlaunch, hy, hreleased⟩⟩
  · rw [hlaunch] at hrun
    cases hrun
    exact ⟨⟨fun _ => ⟨fault, hload, hforeign⟩, fun _ => rfl⟩, fun h => absurd rfl h⟩
  · rw [hlaunch] at hrun
    exact hreleases (released_follow hgoing hrun) hlanguage
  · rw [hlaunch] at hrun
    refine hreleases ?_ hlanguage
    rcases y with e | progress
    · cases hrun
      exact hreleased
    · cases progress with
      | goesOn => exact absurd rfl hy
      | stops =>
          cases hrun
          exact hreleased

/-- A run that is suspended by a pause can be stopped, and the next one is accepted. -/
theorem run_stuck_iff_pausing :
    ∃ s m₂ outcome, run 1 "10 PAUSE 5\n20 PRINT \"A\""
        { constants := defaultConstants, functions := defaultFunctions } =
          some (.ok (), pausedFor s (pausingAt 20)) ∧
      stop.run.run (pausedFor s (pausingAt 20)) = (.ok (), m₂) ∧ m₂.phase = .ended ∧
      m₂.completion = .done outcome ∧
      ∀ next, (start next).run.run m₂ = (launch next).run.run m₂ := by
  obtain ⟨s, -, hcycle⟩ := cycle_pausing
  have hpause : cycle.run.run (pausingAt 10) = (.ok .stops, pausedFor s (pausingAt 20)) :=
    hcycle (.buffer {})
  have hrun : run 1 "10 PAUSE 5\n20 PRINT \"A\""
      { constants := defaultConstants, functions := defaultFunctions } =
        some (.ok (), pausedFor s (pausingAt 20)) := by
    rw [run, followed_eq, start_pausing]
    dsimp only
    rw [follow_succ, hpause]
  obtain ⟨m₂, outcome, hstop, hended, hdone, hnext⟩ :=
    (run_stuck_iff (.inl rfl) hrun).2 (by simp [pausedFor])
  exact ⟨s, m₂, outcome, hrun, hstop, hended, hdone, hnext⟩

/-- A line number of too many digits leaves the machine running, whether it is stopped or not, and
every later run is refused. -/
theorem run_overlong_stuck :
    ∃ m₁ m₂, run 1 (String.ofList (List.replicate 4301 '1'))
        { constants := defaultConstants, functions := defaultFunctions } =
          some (.error .badValue, m₁) ∧
      m₁.phase = .running ∧ stop.run.run m₁ = (.ok (), m₂) ∧ m₂.phase = .running ∧
      ∀ next, (start next).run.run m₂ = (.error (.run .alreadyRunning none), m₂) := by
  have hload : Program.load (String.ofList (List.replicate 4301 '1')) = .error .badValue := by
    apply Program.load_overlong
    · intro c hc
      rw [List.eq_of_mem_replicate hc]
      decide
    · rw [List.length_replicate]
      decide
  have hrun : run 1 (String.ofList (List.replicate 4301 '1'))
      { constants := defaultConstants, functions := defaultFunctions } =
        some (.error .badValue, reset { constants := defaultConstants,
                                        functions := defaultFunctions }) := by
    rw [run, followed_eq, run_start_of_free (.inl rfl), launch, hload]
    rfl
  exact ⟨_, _, hrun, rfl, rfl, rfl, fun next => rfl⟩

end Machine

end LineBasic

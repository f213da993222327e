import LineBasic.Proofs.Machine.Advancing
import LineBasic.Proofs.Machine.Following
import LineBasic.Proofs.Machine.Renumbering
import LineBasic.Proofs.Machine.Timing

/-!
# Runs that come to rest

The lines that are not below the cursor are a measure of what is left of a run that leads forward:
each cycle that lets the run go on takes one of them away, and so does each pause, which sets one
timer. So the run comes to rest. A timer that fires is one less, whether it takes the run up or not,
so lines and live timers together are a measure of what is left of the timers.
-/

namespace LineBasic

namespace Machine

variable {p : Program} {m m₁ : Machine} {n t : Nat}

/-! ## Runs that do not fail -/

/-- Once there is a run, ending it never fails. -/
theorem Accounted.finish_ok (h : Accounted true m) (fault : Option Fault)
    (hfault : ∀ e ∈ fault, e.Tellable) : ∃ m₁, (finish fault).run.run m = (.ok (), m₁) := by
  by_cases hended : m.phase = .ended
  · exact ⟨m, run_finish_of_ended hended fault⟩
  · have hpending : m.completion = .pending := by
      cases hc : m.completion with
      | absent => exact absurd hc (h.begun rfl)
      | pending => rfl
      | done outcome => exact absurd ((h.ended (h.begun rfl)).mpr ⟨outcome, hc⟩) hended
    obtain ⟨log, hfinish⟩ := run_finish_of_pending hended hpending hfault h.cursor
    exact ⟨_, hfinish⟩

theorem Accounted.finish_then_ok {α : Type} (h : Accounted true m) (fault : Option Fault)
    (hfault : ∀ e ∈ fault, e.Tellable) (x : α) :
    ∃ m₁, (do finish fault; return x : Action α).run.run m = (.ok x, m₁) := by
  obtain ⟨m₁, hfinish⟩ := h.finish_ok fault hfault
  refine ⟨m₁, ?_⟩
  rw [run_finish_then, hfinish]
  rfl

/-- A step never fails: a fault of its statement ends the run. -/
theorem Accounted.step_ok (h : Accounted true m) :
    ∃ reaction m₁, step.run.run m = (.ok reaction, m₁) ∧ Accounted true m₁ := by
  suffices hok : ∃ reaction m₁, step.run.run m = (.ok reaction, m₁) by
    obtain ⟨reaction, m₁, hstep⟩ := hok
    have haccounted := (accounted_step h).1
    rw [hstep] at haccounted
    exact ⟨reaction, m₁, hstep, haccounted⟩
  cases hline : m.program.find? m.cursor with
  | none =>
      have hfault : ∀ e ∈ some (Fault.run (.missingLine m.cursor) (some m.cursor)), e.Tellable := by
        rintro _ ⟨⟩ n ⟨⟩
        exact h.cursor
      rw [run_step_missing hline, missing_of_writable h.cursor]
      exact ⟨_, h.finish_then_ok _ hfault Reaction.quiet⟩
  | some line =>
      obtain ⟨log, hstep⟩ := run_step_line hline
      obtain ⟨haccounted, hbare⟩ := lasting_accounted.performInstruction line.instruction
        (lasting_accounted.log log h)
      rw [hstep]
      rcases hrun : (performInstruction line.instruction).run.run { m with log := log } with
        ⟨e | reaction, m₁⟩
      · rw [hrun] at haccounted hbare
        have hfault : ∀ e' ∈ some e, e'.Tellable := by
          rintro _ ⟨⟩
          exact Fault.tellable_of_isBare (hbare e rfl)
        exact ⟨_, haccounted.finish_then_ok _ hfault Reaction.quiet⟩
      · exact ⟨reaction, m₁, rfl⟩

theorem Accounted.advance_ok (h : Accounted true m) :
    ∃ progress m₁, advance.run.run m = (.ok progress, m₁) ∧ Accounted true m₁ := by
  suffices hok : ∃ progress m₁, advance.run.run m = (.ok progress, m₁) by
    obtain ⟨progress, m₁, hadvance⟩ := hok
    have haccounted := (accounted_advance h).1
    rw [hadvance] at haccounted
    exact ⟨progress, m₁, hadvance, haccounted⟩
  obtain ⟨reaction, m₁, hstep, haccounted⟩ := h.step_ok
  unfold advance moveOn
  rw [run_bind, hstep]
  dsimp only
  rw [run_bind, run_get]
  dsimp only
  split
  · exact ⟨_, _, rfl⟩
  · split
    · exact ⟨_, _, rfl⟩
    · split
      · exact ⟨_, haccounted.finish_then_ok none nofun Progress.stops⟩
      · exact ⟨_, _, rfl⟩

theorem Accounted.unbrokenBoundary_ok (h : Accounted true m) :
    ∃ progress m₁, unbrokenBoundary.run.run m = (.ok progress, m₁) := by
  unfold unbrokenBoundary
  rw [run_bind, run_get]
  dsimp only
  split
  · exact ⟨_, h.finish_then_ok none nofun Progress.stops⟩
  · rw [run_bind, run_set]
    dsimp only
    unfold awaitReply
    rw [run_bind, run_get]
    dsimp only
    split
    · exact ⟨_, _, rfl⟩
    · exact ⟨_, _, rfl⟩

/-! ## One cycle -/

structure Afoot (p : Program) (m : Machine) : Prop where
  underway : Underway m
  going : Going true m
  program : m.program = p

/-- Where a run that leads forward comes to rest: it has ended or waits for a reply, or is paused
with fewer lines ahead and one timer more. -/
inductive Stops (p : Program) (m : Machine) : Machine → Prop where
  | rests {m₁ : Machine} (hphase : m₁.phase = .ended ∨ m₁.phase = .waiting)
      (htimers : m₁.timers = m.timers) : Stops p m m₁
  | pauses {m₁ : Machine} (s : Float) (h : Afoot p m₁) (htimers : m₁.timers = m.timers)
      (hahead : p.linesAhead m₁.cursor < p.linesAhead m.cursor) : Stops p m (pausedFor s m₁)

namespace Afoot

theorem retime (h : Afoot p m) (timers : Timers) : Afoot p { m with timers := timers } where
  underway := ⟨h.underway.phase, h.underway.jumped, h.underway.halted, h.underway.waiting,
    h.underway.delay, h.underway.timer⟩
  going := ⟨⟨h.going.accounted.begun, h.going.accounted.absent, h.going.accounted.ended,
    h.going.accounted.cursor, h.going.accounted.program⟩, h.going.phase⟩
  program := h.program

/-- When pauses take no time, a cycle takes the line at the cursor away or is the last one. -/
theorem unbrokenCycle (hp : p.Forward) (h : Afoot p m) :
    (∃ m₁, unbrokenCycle.run.run m = (.ok .goesOn, m₁) ∧ Afoot p m₁ ∧
      p.linesAhead m₁.cursor < p.linesAhead m.cursor) ∨
    ∃ m₁, unbrokenCycle.run.run m = (.ok .stops, m₁) ∧
      (m₁.phase = .ended ∨ m₁.phase = .waiting) := by
  obtain ⟨progress, m₁, hadvance, haccounted⟩ := h.going.accounted.advance_ok
  have hcycle := run_cycleWith unbrokenBoundary m
  rw [hadvance] at hcycle
  cases progress with
  | stops => exact .inr ⟨m₁, hcycle, run_unbrokenCycle_stops hcycle⟩
  | goesOn =>
      obtain ⟨progress, m₂, hboundary⟩ := haccounted.unbrokenBoundary_ok
      dsimp only at hcycle
      rw [hboundary] at hcycle
      cases progress with
      | stops => exact .inr ⟨m₂, hcycle, run_unbrokenCycle_stops hcycle⟩
      | goesOn =>
          have hunderway := h.underway.unbrokenCycle hcycle
          obtain ⟨-, -, rfl⟩ := run_unbrokenBoundary_goesOn hboundary
          have hforward : m.program.Forward := by rwa [h.program]
          obtain ⟨hprogram, -, hlt, line, hline⟩ :=
            advance_forward hforward h.underway.jumped hadvance
          rw [h.program] at hline
          have hgoing : Going true { m₁ with delay := none } :=
            ⟨lasting_accounted.delay none haccounted, hunderway.phase⟩
          exact .inl ⟨_, hcycle, ⟨hunderway, hgoing, hprogram.trans h.program⟩,
            Program.linesAhead_lt hline hlt⟩

/-- A cycle takes the line at the cursor away, or the run comes to rest. -/
theorem cycle (hp : p.Forward) (h : Afoot p m)
    (hfits : ∀ v, duePause? m = some v → ∃ s, seconds v = .ok s) :
    (∃ m₁, cycle.run.run m = (.ok .goesOn, m₁) ∧ Afoot p m₁ ∧ m₁.timers = m.timers ∧
      p.linesAhead m₁.cursor < p.linesAhead m.cursor) ∨
    ∃ m₁, cycle.run.run m = (.ok .stops, m₁) ∧ Stops p m m₁ := by
  cases hdue : duePause? m with
  | none =>
      have hcycle : Machine.cycle.run.run m = _ := run_cycle_of_not_due h.underway hdue m.timers
      rcases h.unbrokenCycle hp with ⟨m₁, hunbroken, hafoot, hahead⟩ | ⟨m₁, hunbroken, hphase⟩
      · rw [hunbroken] at hcycle
        exact .inl ⟨_, hcycle, hafoot.retime _, rfl, hahead⟩
      · rw [hunbroken] at hcycle
        exact .inr ⟨_, hcycle, .rests hphase rfl⟩
  | some v =>
      obtain ⟨s, hs⟩ := hfits v hdue
      obtain ⟨m₁, hunbroken, hsuspend⟩ := run_cycle_of_due h.underway hdue
      have hcycle : Machine.cycle.run.run m = _ := hsuspend m.timers
      rw [run_suspend hs] at hcycle
      rcases h.unbrokenCycle hp with ⟨m₂, hgoes, hafoot, hahead⟩ | ⟨m₂, hstops, -⟩
      · rw [hunbroken] at hgoes
        cases hgoes
        exact .inr ⟨_, hcycle, .pauses s (hafoot.retime _) rfl hahead⟩
      · rw [hunbroken] at hstops
        cases hstops

end Afoot

/-! ## Whole runs -/

/-- A run that comes to rest after a cycle has done so from the cycle on. -/
theorem Stops.later (htimers : m₁.timers = m.timers)
    (hahead : p.linesAhead m₁.cursor < p.linesAhead m.cursor) {m₂ : Machine}
    (h : Stops p m₁ m₂) : Stops p m m₂ := by
  cases h with
  | rests hphase hsame => exact .rests hphase (hsame.trans htimers)
  | pauses s hafoot hsame hless =>
      exact .pauses s hafoot (hsame.trans htimers) (Nat.lt_trans hless hahead)

/-- A run that leads forward comes to rest. -/
theorem Afoot.follow (hp : p.Forward) (h : Afoot p m) (hn : p.linesAhead m.cursor < n)
    (hfits : ∀ k ∈ moments n m, ∀ v, duePause? k = some v → ∃ s, seconds v = .ok s) :
    ∃ m₁, follow n m = some (.ok (), m₁) ∧ Stops p m m₁ := by
  induction n generalizing m with
  | zero => cases hn
  | succ n ih =>
      rw [moments] at hfits
      rw [follow_succ]
      rcases h.cycle hp (hfits m (by simp)) with
        ⟨m₁, hcycle, hafoot, htimers, hahead⟩ | ⟨m₁, hcycle, hstops⟩
      · rw [hcycle] at hfits ⊢
        obtain ⟨m₂, hfollow, hstops⟩ := ih hafoot (by omega) fun k hk => hfits k (by simp [hk])
        exact ⟨m₂, hfollow, hstops.later htimers hahead⟩
      · rw [hcycle]
        exact ⟨m₁, rfl, hstops⟩

/-! ## Timers -/

/-- Timers fire in vain while the machine is not paused. -/
theorem tickAll_of_unpaused (h : m.phase ≠ .paused) (ht : m.timers.live.length < t) :
    ∃ count m₁, tickAll n t m = some (.ok count, m₁) ∧ m₁.phase = m.phase := by
  induction t generalizing m with
  | zero => cases ht
  | succ t ih =>
      rw [tickAll_succ, tick_eq]
      cases hlive : m.timers.live with
      | nil =>
          rw [Timers.pop_of_live hlive]
          exact ⟨0, _, rfl, rfl⟩
      | cons timer rest =>
          obtain ⟨hfires, hrest⟩ := Timers.pop_of_cons hlive
          rw [hlive, List.length_cons] at ht
          rcases hpop : m.timers.pop with ⟨fires, timers⟩
          rw [hpop] at hfires hrest
          cases hfires
          have hphase : { m with timers := timers }.phase ≠ .paused := h
          have hshorter : { m with timers := timers, timer := none }.timers.live.length < t := by
            rw [hrest]
            omega
          obtain ⟨count, m₁, hticks, hsame⟩ :=
            ih (m := { m with timers := timers, timer := none }) h hshorter
          dsimp only
          rw [followed_eq, run_wake_of_unpaused hphase]
          dsimp only
          rw [hticks]
          exact ⟨count + 1, m₁, rfl, hsame⟩

/-- The timer that fires in a pause takes the run up, which comes to rest again with as many live
timers as there were when the pause was asked for. -/
theorem Afoot.tick (hp : p.Forward) (h : Afoot p m) (s : Float) (hn : p.linesAhead m.cursor < n)
    (hfits : ∀ k ∈ tickMoments n (pausedFor s m), ∀ v, duePause? k = some v →
      ∃ s, seconds v = .ok s) :
    ∃ timers m₁, timers.live.length = m.timers.live.length ∧
      tick n (pausedFor s m) = some (.ok true, m₁) ∧ Stops p { m with timers := timers } m₁ := by
  have hset : (pausedFor s m).timers.live = m.timers.live ++ [_] := Timers.live_set m.timers s
  have hnonempty : (pausedFor s m).timers.live ≠ [] := by simp [hset]
  obtain ⟨timer, rest, hlive⟩ := List.exists_cons_of_ne_nil hnonempty
  obtain ⟨hfires, hrest⟩ := Timers.pop_of_cons hlive
  have hlength : rest.length = m.timers.live.length := by
    have hsame := congrArg List.length (hlive.symm.trans hset)
    rw [List.length_cons, List.length_append, List.length_singleton] at hsame
    omega
  rcases hpop : (pausedFor s m).timers.pop with ⟨fires, timers⟩
  rw [hpop] at hfires hrest
  cases hfires
  rw [tickMoments, hpop] at hfits
  dsimp only at hrest hfits
  rw [momentsAfter, h.underway.wake_paused] at hfits
  obtain ⟨m₁, hfollow, hstops⟩ := (h.retime timers).follow hp hn hfits
  refine ⟨timers, m₁, by rw [hrest, hlength], ?_, hstops⟩
  rw [tick_eq, hpop]
  dsimp only
  rw [followed_eq, h.underway.wake_paused]
  dsimp only
  rw [hfollow]

/-- Once a run that leads forward has come to rest its timers come to an end, and the run has ended
or waits for a reply. Each timer that fires is either a live one less or takes the run past a line.
-/
theorem Stops.tickAll (hp : p.Forward) (h : Stops p m m₁) (hn : p.linesAhead m.cursor < n)
    (ht : m.timers.live.length + p.linesAhead m.cursor < t)
    (hfits : ∀ k ∈ tickAllMoments n t m₁, ∀ v, duePause? k = some v → ∃ s, seconds v = .ok s) :
    ∃ count m₂, tickAll n t m₁ = some (.ok count, m₂) ∧
      (m₂.phase = .ended ∨ m₂.phase = .waiting) := by
  induction t generalizing m m₁ with
  | zero => cases ht
  | succ t ih =>
      cases h with
      | rests hphase htimers =>
          have hunpaused : m₁.phase ≠ .paused := by
            rcases hphase with hphase | hphase <;> simp [hphase]
          have hlive : m₁.timers.live.length < t + 1 := by
            rw [htimers]
            omega
          obtain ⟨count, m₂, hticks, hsame⟩ := tickAll_of_unpaused hunpaused hlive
          exact ⟨count, m₂, hticks, by rwa [hsame]⟩
      | @pauses m₂ s hafoot htimers hahead =>
          rw [tickAllMoments] at hfits
          obtain ⟨timers, m₃, hlive, htick, hstops⟩ :=
            hafoot.tick hp s (Nat.lt_trans hahead hn) fun k hk =>
              hfits k (List.mem_append_left _ hk)
          rw [htick] at hfits
          have hfewer : timers.live.length + p.linesAhead m₂.cursor < t := by
            rw [hlive, htimers]
            omega
          obtain ⟨count, m₄, hticks, hphase⟩ := ih hstops (Nat.lt_trans hahead hn) hfewer
            fun k hk => hfits k (List.mem_append_right _ hk)
          rw [tickAll_succ, htick]
          dsimp only
          rw [hticks]
          exact ⟨count + 1, m₄, rfl, hphase⟩

/-! ## Runs from their start -/

/-- A run that starts is between two statements, or has ended because there are none. -/
theorem startProgram_cases (hwritable : p.Writable) (m : Machine) :
    (∃ m₁, (startProgram p).run.run m = (.ok .goesOn, m₁) ∧ Afoot p m₁ ∧
      m₁.timers = m.timers) ∨
    ∃ m₁, (startProgram p).run.run m = (.ok .stops, m₁) ∧ m₁.phase = .ended ∧
      m₁.timers = m.timers := by
  have hunderway : Underway { reset m with program := p } := ⟨rfl, rfl, rfl, rfl, rfl, rfl⟩
  unfold startProgram
  rw [run_bind, run_modify]
  dsimp only
  cases hfirst : p.first? with
  | none =>
      have hminus : (Decimal.writeInt? (-1)).isSome = true := by decide +kernel
      have hnone : ∀ e ∈ (none : Option Fault), e.Tellable := nofun
      obtain ⟨log, hfinish⟩ := run_finish hunderway rfl hnone hminus
      dsimp only
      rw [run_bind, hfinish]
      exact .inr ⟨_, rfl, rfl, rfl⟩
  | some line =>
      have hline := hwritable line (List.mem_of_head? hfirst)
      refine .inl ⟨_, rfl, ⟨⟨rfl, rfl, rfl, rfl, rfl, rfl⟩, ⟨?_, rfl⟩, rfl⟩, rfl⟩
      exact ⟨nofun, nofun, fun _ => ⟨nofun, nofun⟩, hline, hwritable⟩

/-- A run of a program that leads forward comes to rest. -/
theorem handle_run_forward (hp : p.Forward) {source : String}
    (hload : Program.load source = .ok p) (hfree : m.phase = .idle ∨ m.phase = .ended)
    (hn : p.size < n) (hfits : ∀ k ∈ (Request.run source).moments n m, ∀ v,
      duePause? k = some v → ∃ s, seconds v = .ok s) :
    ∃ m₀ m₁, handle n (.run source) m = some (.ok .nothing, m₁) ∧ m₀.timers = m.timers ∧
      Stops p m₀ m₁ := by
  have hrun : handle n (.run source) m = _ := course_bind (followed n (start source)) _ m
  rw [followed_eq, run_start_of_load hload hfree] at hrun
  rw [Request.moments, momentsAfter, run_start_of_load hload hfree] at hfits
  rcases startProgram_cases (Program.writable_of_load hload) m with
    ⟨m₀, hstart, hafoot, htimers⟩ | ⟨m₁, hstart, hended, htimers⟩
  · rw [hstart] at hrun hfits
    obtain ⟨m₁, hfollow, hstops⟩ :=
      hafoot.follow hp (Nat.lt_of_le_of_lt (p.linesAhead_le m₀.cursor) hn) hfits
    dsimp only at hrun
    rw [hfollow] at hrun
    exact ⟨m₀, m₁, hrun, htimers, hstops⟩
  · rw [hstart] at hrun
    exact ⟨m, m₁, hrun, rfl, .rests (.inl hended) htimers⟩

/-- So do the timers of its pauses. -/
theorem attend_forward (hp : p.Forward) {source : String} (hload : Program.load source = .ok p)
    (hfree : m.phase = .idle ∨ m.phase = .ended) (hn : m.timers.live.length + p.size < n)
    (hfits : ∀ k ∈ trail n [.run source, .tickAll] m, ∀ v, duePause? k = some v →
      ∃ s, seconds v = .ok s) :
    ∃ count m₁, attend n [.run source, .tickAll] m =
        some ([.ok .nothing, .ok (.int count)], m₁) ∧
      (m₁.phase = .ended ∨ m₁.phase = .waiting) := by
  rw [trail] at hfits
  obtain ⟨m₀, m₁, hrun, htimers, hstops⟩ := handle_run_forward hp hload hfree (by omega)
    fun k hk => hfits k (List.mem_append_left _ hk)
  rw [hrun] at hfits
  have hahead := p.linesAhead_le m₀.cursor
  have hlive : m₀.timers.live.length + p.linesAhead m₀.cursor < n := by
    rw [htimers]
    omega
  obtain ⟨count, m₂, hticks, hphase⟩ := hstops.tickAll hp (by omega) hlive fun k hk =>
    hfits k (List.mem_append_right _ (List.mem_append_left _ hk))
  have hhandle : handle n .tickAll m₁ = some (.ok (.int count), m₂) := by
    rw [handle, course_bind, hticks]
    rfl
  refine ⟨count, m₂, ?_, hphase⟩
  rw [attend, hrun]
  dsimp only
  rw [attend, hhandle]
  rfl

/-- A program that leads forward performs each of its lines at most once and comes to rest. Whatever
is asked of the machine in the course of a run: the cursors of the statements it comes to get
strictly larger, and what it performs are lines of the program in ascending order, no more than
there are. As long as every due pause can be told in seconds, the run and then its timers come to an
end with enough cycles allowed, and the run has ended or waits for a reply. -/
theorem run_forward_once {source : String} (hload : Program.load source = .ok p)
    (hp : p.Forward) (hfree : m.phase = .idle ∨ m.phase = .ended) :
    (∀ n (requests : List Request), (∀ request ∈ requests, request.Continues) →
      ((trail n (.run source :: requests) m).Pairwise fun j k => j.cursor < k.cursor) ∧
      ((performed (trail n (.run source :: requests) m)).Pairwise fun a b => a.number < b.number) ∧
      (performed (trail n (.run source :: requests) m)).Sublist p.lines ∧
      (performed (trail n (.run source :: requests) m)).length ≤ p.size) ∧
    ∀ n, m.timers.live.length + p.size < n →
      (∀ k ∈ trail n [.run source, .tickAll] m, ∀ v, duePause? k = some v →
        ∃ s, seconds v = .ok s) →
      ∃ count m₁, attend n [.run source, .tickAll] m =
          some ([.ok .nothing, .ok (.int count)], m₁) ∧
        (m₁.phase = .ended ∨ m₁.phase = .waiting) := by
  refine ⟨fun n requests hrequests => ?_, fun n hn hfits => attend_forward hp hload hfree hn hfits⟩
  have hascends := ascends_trail hp hload hfree n hrequests
  have hlines := hascends.sublist
  exact ⟨hascends.cursors, p.ascending.sublist hlines, hlines, hlines.length_le⟩

/-- A program with a pause and a branch over a line. -/
def skipping : Program where
  lines := [⟨10, .command (.pause ⟨"5", .number "5"⟩)⟩,
    ⟨20, .branch ⟨"1", .number "1"⟩ (.jump 40) none⟩, ⟨30, .command .halt⟩,
    ⟨40, .command (.input none "X$")⟩]

theorem load_skipping :
    Program.load "10 PAUSE 5\n20 IF 1 THEN 40\n30 END\n40 INPUT X$" = .ok skipping := by
  have hsplit : (Program.splitSource "10 PAUSE 5\n20 IF 1 THEN 40\n30 END\n40 INPUT X$").filter
      (!Program.isBlankLine ·) = ["10 PAUSE 5", "20 IF 1 THEN 40", "30 END", "40 INPUT X$"] := by
    decide +kernel
  have hlines : ["10 PAUSE 5", "20 IF 1 THEN 40", "30 END", "40 INPUT X$"].mapM parseLine =
      .ok skipping.lines := by
    with_unfolding_all rfl
  unfold Program.load
  rw [hsplit, hlines]
  exact Program.ofLines_of_ascending skipping.ascending

/-- The line after the pause is skipped, and the run comes to its question. -/
theorem run_forward_once_skipping :
    ∃ count m₁, attend 5 [.run "10 PAUSE 5\n20 IF 1 THEN 40\n30 END\n40 INPUT X$", .tickAll]
        { constants := defaultConstants, functions := defaultFunctions } =
          some ([.ok .nothing, .ok (.int count)], m₁) ∧
      (m₁.phase = .ended ∨ m₁.phase = .waiting) ∧
      (performed (trail 5 [.run "10 PAUSE 5\n20 IF 1 THEN 40\n30 END\n40 INPUT X$", .tickAll]
        { constants := defaultConstants, functions := defaultFunctions })).Sublist skipping.lines ∧
      (performed (trail 5 [.run "10 PAUSE 5\n20 IF 1 THEN 40\n30 END\n40 INPUT X$", .tickAll]
        { constants := defaultConstants, functions := defaultFunctions })).map (·.number) =
          [10, 20, 40] := by
  let m : Machine := { constants := defaultConstants, functions := defaultFunctions }
  have hfree : m.phase = .idle ∨ m.phase = .ended := .inl rfl
  have htrail := (attend_run_of_load load_skipping hfree 5 [.tickAll]).2
  obtain ⟨honce, hrest⟩ := run_forward_once load_skipping (by decide) hfree
  obtain ⟨-, -, hsublist, -⟩ := honce 5 [.tickAll] (by simp [Request.Continues, Request.drives])
  have hall : ((trailProgram 5 skipping [.tickAll] m).all fun k =>
      (duePause? k).all fun v => (seconds v).isOk) = true := by decide +kernel
  have hnumbers : (performed (trailProgram 5 skipping [.tickAll] m)).map (·.number) =
      [10, 20, 40] := by decide +kernel
  rw [← htrail] at hall hnumbers
  have hfits : ∀ k ∈ trail 5 [.run "10 PAUSE 5\n20 IF 1 THEN 40\n30 END\n40 INPUT X$", .tickAll] m,
      ∀ v, duePause? k = some v → ∃ s, seconds v = .ok s := by
    intro k hk v hv
    have hok := List.all_eq_true.mp hall k hk
    rw [hv, Option.all_some] at hok
    cases hs : seconds v with
    | ok s => exact ⟨s, rfl⟩
    | error e =>
        rw [hs] at hok
        cases hok
  obtain ⟨count, m₁, hattend, hphase⟩ := hrest 5 (by decide) hfits
  exact ⟨count, m₁, hattend, hphase, hsublist, hnumbers⟩

end Machine

end LineBasic

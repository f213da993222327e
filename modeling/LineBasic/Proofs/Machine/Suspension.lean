import LineBasic.Proofs.Machine.Pausing
import LineBasic.Proofs.Program
import Mathlib.Data.List.TakeWhile

/-!
# Suspension by pauses is transparent

A run with pauses comes in pieces: each pause suspends it, and a timer takes it up again. The
unbroken run of the same program goes through all its pauses without stopping. Both come to a result
on the same programs, with the same result and the same machine but for its timers, and the delays
that were asked for are those of the pauses that were due, in the order in which they came up.
-/

namespace LineBasic

namespace Timers

theorem dropWhile_of_live {t : Timers} (h : t.live = []) :
    t.queue.dropWhile (·.cancelled) = [] := by
  unfold live at h
  rw [List.filter_eq_nil_iff] at h
  refine List.dropWhile_eq_nil_iff.mpr fun timer htimer => ?_
  simpa using h timer htimer

theorem pop_of_live {t : Timers} (h : t.live = []) : t.pop = (false, { t with queue := [] }) := by
  unfold pop
  rw [dropWhile_of_live h]

/-- A timer that is set when no other is live is the next one to fire. -/
theorem pop_set {t : Timers} (h : t.live = []) (delay : Float) :
    (t.set delay).2.pop = (true, { queue := [], asked := t.asked ++ [delay] }) := by
  unfold pop set
  dsimp only
  rw [List.dropWhile_append, dropWhile_of_live h]
  rfl

end Timers

namespace Machine

/-- Runs a program without a stop at its pauses. -/
def unbrokenRun (cycles : Nat) (source : String) : Course Unit := do
  if (← course (start source)) = .goesOn then followWith unbrokenCycle cycles

/-- Runs a program and fires the timers of its pauses until none is left: how many there were. -/
def runThrough (cycles ticks : Nat) (source : String) : Course Nat := do
  run cycles source
  tickAll cycles ticks

/-- The values of the pauses that are due in the given number of cycles, in order. -/
def duePauses : Nat → Machine → List Value
  | 0, _ => []
  | cycles + 1, m =>
    (duePause? m).toList ++
      match unbrokenCycle.run.run m with
      | (.ok .goesOn, m₁) => duePauses cycles m₁
      | _ => []

/-- The values of the pauses that are due when a program is run for a number of cycles. -/
def sourcePauses (cycles : Nat) (source : String) (m : Machine) : List Value :=
  match (start source).run.run m with
  | (.ok .goesOn, m₁) => duePauses cycles m₁
  | _ => []

/-- The result of a run in pieces belongs to that of the unbroken run: the machines differ in their
timers only, every due pause has been asked for in seconds, and as many timers have fired. -/
def Reassembles (pauses : List Value) (asked : List Float) (whole : Except Fault Unit × Machine)
    (pieces : Except Fault Nat × Machine) : Prop :=
  pieces.2 = { whole.2 with timers := pieces.2.timers } ∧
    ∃ delays, pauses.mapM seconds = .ok delays ∧
      pieces.2.timers.asked = asked ++ delays ∧ pieces.1 = whole.1.map fun _ => delays.length

/-- Follows a run and then the timers it has set. -/
def followThrough (cycles cyclesEach ticks : Nat) : Course Nat := do
  follow cycles
  tickAll cyclesEach ticks

theorem followThrough_eq (c n t : Nat) (m : Machine) :
    followThrough c n t m =
      match follow c m with
      | none => none
      | some (.ok (), m₁) => tickAll n t m₁
      | some (.error e, m₁) => some (.error e, m₁) := by
  rw [followThrough, course_bind]
  rcases follow c m with _ | ⟨_ | _, _⟩ <;> rfl

theorem runThrough_eq (c t : Nat) (source : String) (m : Machine) :
    runThrough c t source m =
      match (start source).run.run m with
      | (.ok .goesOn, m₁) => followThrough c c t m₁
      | (.ok .stops, m₁) => tickAll c t m₁
      | (.error e, m₁) => some (.error e, m₁) := by
  rw [runThrough, course_bind, run, followed_eq]
  rcases (start source).run.run m with ⟨e | p, m₁⟩
  · rfl
  · cases p with
    | goesOn =>
        dsimp only
        rw [followThrough, course_bind]
    | stops => rfl

theorem unbrokenRun_eq (n : Nat) (source : String) (m : Machine) :
    unbrokenRun n source m =
      match (start source).run.run m with
      | (.ok .goesOn, m₁) => followWith unbrokenCycle n m₁
      | (.ok .stops, m₁) => some (.ok (), m₁)
      | (.error e, m₁) => some (.error e, m₁) := by
  rw [unbrokenRun, course_bind, course_apply]
  rcases (start source).run.run m with ⟨e | p, m₁⟩
  · rfl
  · cases p <;> rfl

/-- With no live timer there is nothing to fire. -/
theorem tickAll_of_live {m : Machine} (h : m.timers.live = []) (n t : Nat) :
    tickAll n (t + 1) m = some (.ok 0, { m with timers := { m.timers with queue := [] } }) := by
  rw [tickAll_succ, tick_eq, Timers.pop_of_live h]

/-- A timer that fires takes a paused run up where it was, whichever timer it is. -/
theorem Underway.wake_paused {m : Machine} (h : Underway m) (s : Float) (timers : Timers) :
    wake.run.run { pausedFor s m with timers := timers } =
      (.ok .goesOn, { m with timers := timers }) := by
  have hgoes : ¬ m.halted = true := by simpa using h.halted
  unfold wake goOn pausedFor
  simp only [run_bind, run_modify, run_get, if_true, if_neg hgoes]
  rw [execute, run_bind, run_modify, ← h.phase, ← h.timer]
  rfl

/-- The timer of a pause takes the run up where it was suspended. -/
theorem tickAll_of_paused {m : Machine} (h : Underway m) {timers : Timers} (ht : timers.live = [])
    (s : Float) (n t : Nat) :
    tickAll n (t + 1) (pausedFor s { m with timers := timers }) =
      match followThrough n n t
          { m with timers := { queue := [], asked := timers.asked ++ [s] } } with
      | none => none
      | some (.ok k, m₁) => some (.ok (k + 1), m₁)
      | some (.error e, m₁) => some (.error e, m₁) := by
  have hwake : wake.run.run { pausedFor s { m with timers := timers } with
        timers := ⟨[], timers.asked ++ [s]⟩ } =
      (.ok .goesOn, { m with timers := { queue := [], asked := timers.asked ++ [s] } }) :=
    Underway.wake_paused (m := { m with timers := timers })
      ⟨h.phase, h.jumped, h.halted, h.waiting, h.delay, h.timer⟩ s _
  have hpop : (pausedFor s { m with timers := timers }).timers.pop =
      (true, { queue := [], asked := timers.asked ++ [s] }) := Timers.pop_set ht s
  rw [tickAll_succ, tick_eq, hpop]
  dsimp only
  rw [followed_eq, hwake, followThrough_eq]
  dsimp only
  rcases follow n { m with timers := { queue := [], asked := timers.asked ++ [s] } } with
    _ | ⟨_ | _, _⟩ <;> rfl

theorem duePauses_of_not_due {m : Machine} (h : duePause? m = none) (n : Nat) :
    duePauses (n + 1) m =
      match unbrokenCycle.run.run m with
      | (.ok .goesOn, m₁) => duePauses n m₁
      | _ => [] := by
  rw [duePauses, h]
  rfl

theorem duePauses_of_due {m m₁ : Machine} {v : Value} (h : duePause? m = some v)
    (hcycle : unbrokenCycle.run.run m = (.ok .goesOn, m₁)) (n : Nat) :
    duePauses (n + 1) m = v :: duePauses n m₁ := by
  rw [duePauses, h, hcycle]
  rfl

/-- A pause more in front: one delay more, and one timer more that fires. -/
theorem Reassembles.cons {pauses : List Value} {asked : List Float} {v : Value} {s : Float}
    (hs : seconds v = .ok s) {whole : Except Fault Unit × Machine} {result : Except Fault Nat}
    {m : Machine} (h : Reassembles pauses (asked ++ [s]) whole (result, m)) :
    Reassembles (v :: pauses) asked whole (result.map (· + 1), m) := by
  obtain ⟨hsame, delays, hdelays, hasked, rfl⟩ := h
  refine ⟨hsame, s :: delays, ?_, ?_, ?_⟩
  · rw [List.mapM_cons, hs, hdelays]
    rfl
  · rw [hasked, List.append_assoc]
    rfl
  · cases whole.1 <;> rfl

/-- When the unbroken run comes to a result, so does the run in pieces. -/
theorem followThrough_of_unbroken {n : Nat} {m : Machine} (h : Underway m) {timers : Timers}
    (ht : timers.live = []) (hfits : ∀ v ∈ duePauses n m, ∃ s, seconds v = .ok s)
    {x : Except Fault Unit × Machine} (hx : followWith unbrokenCycle n m = some x)
    {c N t : Nat} (hc : n ≤ c) (hN : n ≤ N) (hticks : n < t) :
    ∃ y, followThrough c N t { m with timers := timers } = some y ∧
      Reassembles (duePauses n m) timers.asked x y := by
  induction n generalizing m timers c t with
  | zero => cases hx
  | succ n ih =>
      obtain ⟨c, rfl⟩ : ∃ d, c = d + 1 := ⟨c - 1, by omega⟩
      obtain ⟨t, rfl⟩ : ∃ d, t = d + 1 := ⟨t - 1, by omega⟩
      rw [followThrough_eq, follow_succ]
      cases hdue : duePause? m with
      | none =>
          rw [duePauses_of_not_due hdue] at hfits ⊢
          rw [run_cycle_of_not_due h hdue]
          rcases hcycle : unbrokenCycle.run.run m with ⟨e | p, m₁⟩
          · rw [followWith_succ, hcycle] at hx
            cases hx
            exact ⟨_, rfl, rfl, [], rfl, (List.append_nil _).symm, rfl⟩
          · cases p with
            | stops =>
                rw [followWith_succ, hcycle] at hx
                cases hx
                refine ⟨_, tickAll_of_live ht N t, rfl, [], rfl, (List.append_nil _).symm, rfl⟩
            | goesOn =>
                rw [followWith_succ, hcycle] at hx
                rw [hcycle] at hfits
                have hrest := ih (h.unbrokenCycle hcycle) ht hfits hx (by omega : n ≤ c) (by omega)
                  (by omega : n < t + 1)
                rw [followThrough_eq] at hrest
                exact hrest
      | some v =>
          obtain ⟨m₁, hcycle, hsuspend⟩ := run_cycle_of_due h hdue
          rw [duePauses_of_due hdue hcycle] at hfits ⊢
          obtain ⟨s, hs⟩ := hfits v (by simp)
          rw [followWith_succ, hcycle] at hx
          rw [hsuspend timers, run_suspend hs]
          dsimp only
          rw [tickAll_of_paused (h.unbrokenCycle hcycle) ht]
          obtain ⟨⟨result, m₂⟩, hy, hagree⟩ := ih (h.unbrokenCycle hcycle)
            (show Timers.live { queue := [], asked := timers.asked ++ [s] } = [] from rfl)
            (fun w hw => hfits w (by simp [hw])) hx (by omega : n ≤ N) (by omega)
            (by omega : n < t)
          rw [hy]
          refine ⟨(result.map (· + 1), m₂), ?_, hagree.cons hs⟩
          cases result <;> rfl

/-- When the run in pieces comes to a result, so does the unbroken run. -/
theorem unbroken_of_followThrough {N t c : Nat} {m : Machine} (h : Underway m) {timers : Timers}
    (ht : timers.live = []) (hfits : ∀ n, ∀ v ∈ duePauses n m, ∃ s, seconds v = .ok s)
    {y : Except Fault Nat × Machine}
    (hy : followThrough c N t { m with timers := timers } = some y) :
    ∃ n x, followWith unbrokenCycle n m = some x := by
  rw [followThrough_eq] at hy
  cases c with
  | zero => cases hy
  | succ c =>
      rw [follow_succ] at hy
      cases hdue : duePause? m with
      | none =>
          rw [run_cycle_of_not_due h hdue] at hy
          rcases hcycle : unbrokenCycle.run.run m with ⟨e | p, m₁⟩
          · exact ⟨1, _, by rw [followWith_succ, hcycle]⟩
          · cases p with
            | stops => exact ⟨1, _, by rw [followWith_succ, hcycle]⟩
            | goesOn =>
                rw [hcycle] at hy
                dsimp only at hy
                rw [← followThrough_eq] at hy
                have hrest : ∀ n, ∀ v ∈ duePauses n m₁, ∃ s, seconds v = .ok s := by
                  intro n v hv
                  refine hfits (n + 1) v ?_
                  rw [duePauses_of_not_due hdue, hcycle]
                  exact hv
                obtain ⟨n, x, hx⟩ := unbroken_of_followThrough (h.unbrokenCycle hcycle) ht hrest hy
                exact ⟨n + 1, x, by rw [followWith_succ, hcycle]; exact hx⟩
      | some v =>
          obtain ⟨m₁, hcycle, hsuspend⟩ := run_cycle_of_due h hdue
          obtain ⟨s, hs⟩ := hfits 1 v (by rw [duePauses_of_due hdue hcycle]; simp)
          rw [hsuspend timers, run_suspend hs] at hy
          dsimp only at hy
          cases t with
          | zero => cases hy
          | succ t =>
              rw [tickAll_of_paused (h.unbrokenCycle hcycle) ht] at hy
              have hrest : ∀ n, ∀ v ∈ duePauses n m₁, ∃ s, seconds v = .ok s := by
                intro n w hw
                refine hfits (n + 1) w ?_
                rw [duePauses_of_due hdue hcycle]
                exact List.mem_cons_of_mem v hw
              split at hy
              · cases hy
              · next hy' =>
                obtain ⟨n, x, hx⟩ :=
                  unbroken_of_followThrough (h.unbrokenCycle hcycle) rfl hrest hy'
                exact ⟨n + 1, x, by rw [followWith_succ, hcycle]; exact hx⟩
              · next hy' =>
                obtain ⟨n, x, hx⟩ :=
                  unbroken_of_followThrough (h.unbrokenCycle hcycle) rfl hrest hy'
                exact ⟨n + 1, x, by rw [followWith_succ, hcycle]; exact hx⟩
-- A piece ends with a timer fewer, a cycle of a piece leaves a cycle fewer.
termination_by (t, c)

theorem followThrough_mono {c c' n n' t t' : Nat} (hc : c ≤ c') (hn : n ≤ n') (ht : t ≤ t')
    {m : Machine} {y : Except Fault Nat × Machine} (h : followThrough c n t m = some y) :
    followThrough c' n' t' m = some y := by
  rw [followThrough_eq] at h ⊢
  cases hf : follow c m with
  | none =>
      rw [hf] at h
      cases h
  | some x =>
      rw [hf] at h
      rw [follow_mono hc hf]
      rcases x with ⟨_ | _, m₁⟩
      · exact h
      · exact tickAll_mono hn ht h

theorem followWith_unbroken_phase {n : Nat} {m m₁ : Machine}
    (h : followWith unbrokenCycle n m = some (.ok (), m₁)) :
    m₁.phase = .ended ∨ m₁.phase = .waiting := by
  induction n generalizing m with
  | zero => cases h
  | succ n ih =>
      rw [followWith_succ] at h
      split at h
      · exact ih h
      · next hcycle =>
        cases h
        exact run_unbrokenCycle_stops hcycle
      · cases h

/-- The timers are the given ones, and none of them belongs to the run. -/
structure Untimed (timers : Timers) (m : Machine) : Prop where
  timers : m.timers = timers
  timer : m.timer = none

theorem unaffected_untimed (timers : Timers) : Unaffected (Untimed timers) where
  display _ _ h := ⟨h.timers, h.timer⟩
  dice _ _ h := ⟨h.timers, h.timer⟩
  log _ _ h := ⟨h.timers, h.timer⟩
  vars _ _ h := ⟨h.timers, h.timer⟩
  heap _ _ h := ⟨h.timers, h.timer⟩
  loops _ _ h := ⟨h.timers, h.timer⟩
  stack _ _ h := ⟨h.timers, h.timer⟩
  jump _ _ h := ⟨h.timers, h.timer⟩
  halt _ h := ⟨h.timers, h.timer⟩
  write _ _ h := ⟨h.timers, h.timer⟩
  clear _ h := ⟨h.timers, h.timer⟩
  ending m h := by
    rw [cancelTimer_none h.timer]
    exact ⟨h.timers, h.timer⟩
  completion _ _ h := ⟨h.timers, h.timer⟩

/-- What the start of a run comes to: it is refused, it ends at once, or it is under way. The timers
are left alone in any case. -/
theorem start_cases (source : String) (m : Machine) :
    (∃ fault m₁, (start source).run.run m = (.error fault, m₁) ∧ m₁.timers = m.timers) ∨
      (∃ m₁, (start source).run.run m = (.ok .stops, m₁) ∧ m₁.timers = m.timers ∧
        m₁.phase = .ended) ∨
      ∃ m₁, (start source).run.run m = (.ok .goesOn, m₁) ∧ m₁.timers = m.timers ∧ Underway m₁ := by
  have hfinish : ∀ (fault : Option Fault) (m₀ : Machine), Untimed m.timers m₀ →
      (∃ e m₁, (do finish fault; return .stops : Action Progress).run.run m₀ = (.error e, m₁) ∧
        m₁.timers = m.timers) ∨
      (∃ m₁, (do finish fault; return .stops : Action Progress).run.run m₀ = (.ok .stops, m₁) ∧
        m₁.timers = m.timers ∧ m₁.phase = .ended) := by
    intro fault m₀ h₀
    have hkeeps := ((unaffected_untimed m.timers).finish fault).keeps h₀
    have hends := finish_phase fault m₀
    rw [run_finish_then]
    cases ((finish fault).run.run m₀).1 with
    | error e => exact .inl ⟨e, _, rfl, hkeeps.timers⟩
    | ok _ => exact .inr ⟨_, rfl, hkeeps.timers, hends⟩
  have hreset : Untimed m.timers (reset m) := ⟨rfl, rfl⟩
  rw [start_eq, run_bind, run_get]
  dsimp only
  split
  · exact .inl ⟨_, m, rfl, rfl⟩
  · unfold launch
    rw [run_bind, run_modify]
    dsimp only
    cases Program.load source with
    | error fault =>
        dsimp only
        split
        · exact .inl ⟨fault, reset m, rfl, rfl⟩
        · exact (hfinish (some fault) (reset m) hreset).imp id Or.inl
    | ok program =>
        dsimp only
        rw [run_bind, run_modify]
        dsimp only
        cases program.first? with
        | none =>
            have hloaded : Untimed m.timers { reset m with program := program } := ⟨rfl, rfl⟩
            exact (hfinish none _ hloaded).imp id Or.inl
        | some line => exact .inr (.inr ⟨_, rfl, rfl, rfl, rfl, rfl, rfl, rfl, rfl⟩)

section

-- The limit on the length of an integer is far too large to be computed with.
attribute [local irreducible] Decimal.writeInt?

theorem plainText_int (h : Heap) {n : Int} {text : String}
    (htext : Decimal.writeInt? n = some text) : h.plainText (.int n) = .ok text := by
  unfold Heap.plainText Number.text
  simp only [htext]

end

theorem seconds_int {n : Int} {s : Float}
    (hs : Binary.ofRatio? (decide (n < 0) != false) n.natAbs 1000 = some s) :
    seconds (.int n) = .ok s := by
  have hdiv : Number.div (.int n) (.int 1000) = .ok (.real s) := by
    have hratio : Binary.ofRatio? (decide (n < 0) != decide ((1000 : Int) < 0)) n.natAbs
        (1000 : Int).natAbs = some s := hs
    have hne : (1000 : Int) ≠ 0 := by decide
    unfold Number.div Number.pair
    simp only [bind, Except.bind, if_neg hne, hratio]
    rfl
  unfold seconds Value.div onNumbers Value.number?
  simp only [hdiv]
  rfl

/-- A program with a pause and a line after it. -/
def pausing : Program where
  lines :=
    [{ number := 10, instruction := .command (.pause ⟨"5", .number "5"⟩) },
     { number := 20, instruction := .command (.print [⟨⟨"\"A\"", .literal "\"A\""⟩, none⟩]) }]

theorem load_pausing : Program.load "10 PAUSE 5\n20 PRINT \"A\"" = .ok pausing := by
  have hsplit : (Program.splitSource "10 PAUSE 5\n20 PRINT \"A\"").filter
      (!Program.isBlankLine ·) = ["10 PAUSE 5", "20 PRINT \"A\""] := by decide
  have hpause : parseLine "10 PAUSE 5" =
      .ok { number := 10, instruction := .command (.pause ⟨"5", .number "5"⟩) } := by
    with_unfolding_all rfl
  have hprint : parseLine "20 PRINT \"A\"" =
      .ok { number := 20,
            instruction := .command (.print [⟨⟨"\"A\"", .literal "\"A\""⟩, none⟩]) } := by
    with_unfolding_all rfl
  unfold Program.load
  rw [hsplit, List.mapM_cons, List.mapM_cons, hpause, hprint]
  exact Program.ofLines_of_ascending pausing.ascending

def pausingAt (line : Int) : Machine :=
  { reset { constants := defaultConstants, functions := defaultFunctions } with
    program := pausing, cursor := line }

/-- The pause is the same whatever the console holds. -/
theorem pauseHere_pausing (c : Console) :
    pauseHere.run.run { pausingAt 10 with console := c } =
      (.ok (some (.int 5)), { pausingAt 10 with console := c, delay := some (.int 5) }) := by
  have hcommand : commandHere.run.run { pausingAt 10 with console := c } =
      (.ok (some (.pause ⟨"5", .number "5"⟩)), { pausingAt 10 with console := c }) := rfl
  have hvalue : (evaluate ⟨"5", .number "5"⟩).run.run { pausingAt 10 with console := c } =
      (.ok (.int 5), { pausingAt 10 with console := c }) := by
    with_unfolding_all rfl
  have hfive : Decimal.writeInt? 5 = some "5" := by decide +kernel
  have hpause : (pauseFor (.int 5)).run.run { pausingAt 10 with console := c } =
      (.ok (), { pausingAt 10 with console := c, delay := some (.int 5) }) := by
    unfold pauseFor
    simp only [run_bind, run_get, run_liftM, plainText_int _ hfive]
    rfl
  simp only [pauseHere, run_bind, hcommand, hvalue, hpause, run_pure]

theorem duePause_console (c : Console) :
    duePause? { pausingAt 10 with console := c } = some (.int 5) := by
  simp only [duePause?, pauseHere_pausing]
  rfl

theorem unbrokenCycle_console (c : Console) :
    unbrokenCycle.run.run { pausingAt 10 with console := c } =
      (.ok .goesOn, { pausingAt 20 with console := c }) := by
  obtain ⟨_, _, _, _, _, hstep⟩ := pauseHere_some rfl (pauseHere_pausing c)
  simp only [unbrokenCycle, run_cycleWith, advance, moveOn, run_bind, hstep]
  rfl

theorem duePause_pausing : duePause? (pausingAt 10) = some (.int 5) :=
  duePause_console (.buffer {})

theorem unbrokenCycle_pausing :
    unbrokenCycle.run.run (pausingAt 10) = (.ok .goesOn, pausingAt 20) :=
  unbrokenCycle_console (.buffer {})

theorem unbrokenCycle_printing :
    unbrokenCycle.run.run (pausingAt 20) =
      (.ok .stops, { pausingAt 20 with console := .buffer { written := "A\n" }, phase := .ended,
                                       completion := .done {} }) := by
  with_unfolding_all rfl

theorem duePauses_pausing (n : Nat) : duePauses (n + 1) (pausingAt 10) = [.int 5] := by
  have hlast : duePause? (pausingAt 20) = none := by with_unfolding_all rfl
  rw [duePauses_of_due duePause_pausing unbrokenCycle_pausing]
  cases n with
  | zero => rfl
  | succ n => rw [duePauses_of_not_due hlast, unbrokenCycle_printing]

theorem start_pausing : (start "10 PAUSE 5\n20 PRINT \"A\"").run.run
    { constants := defaultConstants, functions := defaultFunctions } =
      (.ok .goesOn, pausingAt 10) := by
  unfold start
  rw [load_pausing]
  rfl

theorem cycle_pausing : ∃ s, seconds (.int 5) = .ok s ∧ ∀ c : Console,
    cycle.run.run { pausingAt 10 with console := c } =
      (.ok .stops, pausedFor s { pausingAt 20 with console := c }) := by
  have hratio : (Binary.ofRatio? false 5 1000).isSome = true := by decide +kernel
  obtain ⟨s, hs⟩ := Option.isSome_iff_exists.mp hratio
  have hseconds : seconds (.int 5) = .ok s := seconds_int hs
  refine ⟨s, hseconds, fun c => ?_⟩
  obtain ⟨m₁, hunbroken, hcycle⟩ := run_cycle_of_due (m := { pausingAt 10 with console := c })
    ⟨rfl, rfl, rfl, rfl, rfl, rfl⟩ (duePause_console c)
  rw [unbrokenCycle_console] at hunbroken
  cases hunbroken
  have hpause := hcycle {}
  rw [run_suspend hseconds] at hpause
  exact hpause

/-- The program with a pause runs up to its pause. -/
theorem handle_run_pausing : ∃ s, seconds (.int 5) = .ok s ∧
    cycle.run.run (pausingAt 10) = (.ok .stops, pausedFor s (pausingAt 20)) ∧
    ∀ n, handle (n + 1) (.run "10 PAUSE 5\n20 PRINT \"A\"")
      { constants := defaultConstants, functions := defaultFunctions } =
        some (.ok .nothing, pausedFor s (pausingAt 20)) := by
  obtain ⟨s, hseconds, hcycle⟩ := cycle_pausing
  have hpause : cycle.run.run (pausingAt 10) = (.ok .stops, pausedFor s (pausingAt 20)) :=
    hcycle (.buffer {})
  refine ⟨s, hseconds, hpause, fun n => ?_⟩
  rw [handle, following, course_bind, followed_eq, start_pausing]
  dsimp only
  rw [follow_succ, hpause]
  rfl

/-- Suspension by pauses is transparent. On any machine without live timers, with any program whose
pauses can be told in seconds, the unbroken run comes to a result just when the run in pieces does,
and then to the same one: the machines differ in their timers only, the run has ended or waits for a
reply unless it was at fault, the delays asked for are the due pauses in seconds, in order, and each
of them was a timer that fired. -/
theorem runThrough_reassembles (source : String) (m : Machine) (hlive : m.timers.live = [])
    (hfits : ∀ n, ∀ v ∈ sourcePauses n source m, ∃ s, seconds v = .ok s) :
    ((∃ n x, unbrokenRun n source m = some x) ↔ ∃ c t y, runThrough c t source m = some y) ∧
      ∀ n x c t y, unbrokenRun n source m = some x → runThrough c t source m = some y →
        (x.1 = .ok () → x.2.phase = .ended ∨ x.2.phase = .waiting) ∧
          Reassembles (sourcePauses n source m) m.timers.asked x y := by
  simp only [unbrokenRun_eq, runThrough_eq, sourcePauses] at hfits ⊢
  rcases start_cases source m with ⟨fault, m₁, hstart, htimers⟩ | ⟨m₁, hstart, htimers, hphase⟩ |
    ⟨m₁, hstart, htimers, hunderway⟩
  · simp only [hstart]
    refine ⟨⟨fun _ => ⟨0, 0, _, rfl⟩, fun _ => ⟨0, _, rfl⟩⟩, ?_⟩
    rintro n _ c t _ ⟨⟩ ⟨⟩
    exact ⟨nofun, rfl, [], rfl, by rw [htimers, List.append_nil], rfl⟩
  · have hlive₁ : m₁.timers.live = [] := by rw [htimers]; exact hlive
    simp only [hstart]
    refine ⟨⟨fun _ => ⟨0, 1, _, tickAll_of_live hlive₁ 0 0⟩, fun _ => ⟨0, _, rfl⟩⟩, ?_⟩
    rintro n _ c t y ⟨⟩ hy
    cases t with
    | zero => cases hy
    | succ t =>
        rw [tickAll_of_live hlive₁] at hy
        cases hy
        exact ⟨fun _ => .inl hphase, rfl, [], rfl, by rw [List.append_nil, ← htimers], rfl⟩
  · have hlive₁ : m₁.timers.live = [] := by rw [htimers]; exact hlive
    simp only [hstart] at hfits ⊢
    refine ⟨⟨?_, ?_⟩, ?_⟩
    · rintro ⟨n, x, hx⟩
      obtain ⟨y, hy, -⟩ := followThrough_of_unbroken hunderway hlive₁ (hfits n) hx
        (Nat.le_refl n) (Nat.le_refl n) (Nat.lt_succ_self n)
      exact ⟨n, n + 1, y, hy⟩
    · rintro ⟨c, t, y, hy⟩
      exact unbroken_of_followThrough hunderway hlive₁ hfits hy
    · intro n x c t y hx hy
      obtain ⟨z, hz, hagree⟩ := followThrough_of_unbroken hunderway hlive₁ (hfits n) hx
        (Nat.le_max_left n c) (Nat.le_max_left n c) (Nat.lt_of_lt_of_le (Nat.lt_succ_self n)
          (Nat.le_max_left (n + 1) t))
      have hy' := followThrough_mono (Nat.le_max_right n c) (Nat.le_max_right n c)
        (Nat.le_max_right (n + 1) t) hy
      have hzy : z = y := Option.some.inj (hz.symm.trans hy')
      subst hzy
      rw [htimers] at hagree
      refine ⟨?_, hagree⟩
      rcases x with ⟨result, m₂⟩
      rintro rfl
      exact followWith_unbroken_phase hx

theorem runThrough_reassembles_pausing :
    ∃ c t y, runThrough c t "10 PAUSE 5\n20 PRINT \"A\""
        { constants := defaultConstants, functions := defaultFunctions } = some y ∧
      y.1 = .ok 1 ∧ y.2.console.written = "A\n" ∧
      [Value.int 5].mapM seconds = .ok y.2.timers.asked := by
  have hstart : (start "10 PAUSE 5\n20 PRINT \"A\"").run.run
      { constants := defaultConstants, functions := defaultFunctions } =
        (.ok .goesOn, pausingAt 10) := by
    unfold start
    rw [load_pausing]
    rfl
  have hseconds : ∃ s, seconds (.int 5) = .ok s := by
    have hratio : (Binary.ofRatio? false 5 1000).isSome = true := by decide +kernel
    obtain ⟨s, hs⟩ := Option.isSome_iff_exists.mp hratio
    exact ⟨s, seconds_int hs⟩
  have hunbroken := unbrokenRun_eq 2 "10 PAUSE 5\n20 PRINT \"A\""
    { constants := defaultConstants, functions := defaultFunctions }
  rw [hstart] at hunbroken
  dsimp only at hunbroken
  rw [followWith_succ, unbrokenCycle_pausing] at hunbroken
  dsimp only at hunbroken
  rw [followWith_succ, unbrokenCycle_printing] at hunbroken
  obtain ⟨hiff, hsame⟩ := runThrough_reassembles "10 PAUSE 5\n20 PRINT \"A\""
    { constants := defaultConstants, functions := defaultFunctions } rfl (by
      intro n v hv
      simp only [sourcePauses, hstart] at hv
      cases n with
      | zero => cases hv
      | succ n =>
          rw [duePauses_pausing, List.mem_singleton] at hv
          rw [hv]
          exact hseconds)
  obtain ⟨c, t, y, hy⟩ := hiff.mp ⟨2, _, hunbroken⟩
  obtain ⟨-, hmachine, delays, hdelays, hasked, hcount⟩ := hsame 2 _ c t y hunbroken hy
  simp only [sourcePauses, hstart, duePauses_pausing] at hdelays
  refine ⟨c, t, y, hy, ?_, ?_, ?_⟩
  · obtain ⟨s, hs⟩ := hseconds
    have hone : [Value.int 5].mapM seconds = .ok [s] := by
      rw [List.mapM_cons, hs]
      rfl
    rw [hone] at hdelays
    cases hdelays
    exact hcount
  · rw [hmachine]
    rfl
  · rw [hasked]
    exact hdelays

end Machine

end LineBasic

import LineBasic.Proofs.Machine.Anchoring
import LineBasic.Proofs.Machine.Calling
import LineBasic.Proofs.Machine.Ended
import LineBasic.Proofs.Machine.Recording
import LineBasic.Proofs.Machine.Releasing
import LineBasic.Proofs.Program.Forward

/-!
# Runs that only go forward

In a program that leads forward every cycle that lets the run go on puts the cursor above where it
was: the run moves on to the next line or jumps to a target further on. Requests leave the run where
it is. `Past` says that control is above all statements that the run has come to so far, so the run
performs lines of the program in ascending order, each at most once.
-/

namespace LineBasic

variable {p : Program} {C C₁ : Control} {c : Option Command}

/-- A command that does not go back and has its targets above the cursor leaves the cursor where it
is or jumps to a place above it. -/
theorem Turn.forward (h : Turn C c C₁) (hback : ∀ d, c = some d → d.goesBack = false)
    (htargets : ∀ d, c = some d → ∀ target ∈ d.targets, C.cursor < target) :
    C₁.jumped = C.jumped ∧ C₁.cursor = C.cursor ∨ C₁.jumped = true ∧ C.cursor < C₁.cursor := by
  cases h with
  | jump target => exact .inr ⟨rfl, htargets _ rfl target (List.mem_singleton_self _)⟩
  | call target => exact .inr ⟨rfl, htargets _ rfl target (List.mem_singleton_self _)⟩
  | comeBack _ => cases hback _ rfl
  | comeBackLost _ _ => cases hback _ rfl
  | next _ _ => cases hback _ rfl
  | nextBack _ _ => cases hback _ rfl
  | _ => exact .inl ⟨rfl, rfl⟩

namespace Machine

variable {α : Type} {k m m₁ : Machine} {ks : List Machine}

/-! ## One cycle -/

/-- A step of a program that leads forward stays where it is or jumps further on. -/
theorem step_forward (hp : k.program.Forward) (hjumped : k.jumped = false)
    (h : m = (step.run.run k).2) :
    m.program = k.program ∧
      (m.jumped = false ∧ m.cursor = k.cursor ∨ m.jumped = true ∧ k.cursor < m.cursor) := by
  have hturn : ∃ c, Turn k.control c m.control ∧ ∀ d, c = some d →
      d.goesBack = false ∧ ∀ target ∈ d.targets, k.cursor < (target : Int) := by
    subst h
    rcases hhere : commandHere.run.run k with ⟨e | c, k'⟩
    · refine ⟨none, ?_, nofun⟩
      rw [(turn_step hhere).2 e rfl]
      exact .stay nofun
    · refine ⟨c, (turn_step hhere).1 c rfl, ?_⟩
      rintro d rfl
      obtain ⟨line, hline, hd⟩ := commandHere_mem hhere
      obtain ⟨hmem, hnumber⟩ := Program.find?_eq_some.mp hline
      obtain ⟨hback, htargets⟩ := hp line hmem
      refine ⟨hback d hd, fun target htarget => ?_⟩
      have hlt := htargets target (Instruction.mem_targets hd htarget)
      omega
  obtain ⟨c, hturn, hc⟩ := hturn
  refine ⟨hturn.program, ?_⟩
  rw [← hjumped]
  exact hturn.forward (fun d hd => (hc d hd).1) fun d hd => (hc d hd).2

/-- A run goes on from a line of its program to a place above it. -/
theorem advance_forward (hp : k.program.Forward) (hjumped : k.jumped = false)
    (hadvance : advance.run.run k = (.ok .goesOn, m)) :
    m.program = k.program ∧ m.jumped = false ∧ k.cursor < m.cursor ∧
      ∃ line, k.program.find? k.cursor = some line := by
  obtain ⟨reaction, m₁, hstep, hphase, hmove⟩ := advance_goesOn hadvance
  have hfound : ∃ line, k.program.find? k.cursor = some line := by
    cases hline : k.program.find? k.cursor with
    | some line => exact ⟨line, rfl⟩
    | none =>
        rw [run_step_missing hline, missing] at hstep
        split at hstep
        · rw [run_bind, run_throw] at hstep
          cases hstep
        · exact absurd (finish_then_phase hstep) hphase
  obtain ⟨hprogram, hcursor⟩ := step_forward hp hjumped (m := m₁) (by rw [hstep])
  rcases hmove with ⟨hjump, rfl⟩ | ⟨hjump, line, hnext, rfl⟩
  · rcases hcursor with ⟨hstays, -⟩ | ⟨-, hlt⟩
    · rw [hjump] at hstays
      cases hstays
    · exact ⟨hprogram, rfl, hlt, hfound⟩
  · rcases hcursor with ⟨-, hsame⟩ | ⟨hjumps, -⟩
    · have hlt := (Program.next?_eq_some.mp hnext).2.1
      rw [hsame] at hlt
      exact ⟨hprogram, hjump, hlt, hfound⟩
    · rw [hjump] at hjumps
      cases hjumps

/-- An action that leaves control alone leaves the cursor on a number that can be written. -/
theorem upholds_writable {a : Action α} (ha : ∀ C, Neutral C a) :
    Upholds (fun _ => True) (fun m => (Decimal.writeInt? m.cursor).isSome = true) a := by
  intro m h
  have hsame : (a.run.run m).2.cursor = m.cursor := congrArg Control.cursor ((ha _).keeps rfl)
  have hwritable : (Decimal.writeInt? (a.run.run m).2.cursor).isSome = true := by
    rw [hsame]
    exact h
  exact ⟨hwritable, fun _ _ => trivial⟩

/-- The number of the cursor can be written after a step if it could be before. -/
theorem enduring_writable :
    Enduring (fun _ => True) fun m => (Decimal.writeInt? m.cursor).isSome = true where
  primitive _ _ := trivial
  run _ := trivial
  display _ _ h := h
  dice _ _ h := h
  log _ _ h := h
  vars _ _ h := h
  heap _ _ h := h
  loops _ _ h := h
  stack _ _ h := h
  jump _ _ hline _ := hline
  halt _ h := h
  delay _ _ h := h
  waiting _ _ h := h
  console _ _ h := h
  stop := upholds_writable fun _ => neutral_stop
  finish fault _ := upholds_writable fun _ => neutral_finish fault

/-- A run that comes from a line whose number can be written goes on to another such line. -/
theorem advance_writable (hp : k.program.Writable)
    (hcursor : (Decimal.writeInt? k.cursor).isSome = true)
    (hadvance : advance.run.run k = (.ok .goesOn, m)) :
    (Decimal.writeInt? m.cursor).isSome = true := by
  obtain ⟨reaction, m₁, hstep, -, hmove⟩ := advance_goesOn hadvance
  have hstepped : (Decimal.writeInt? m₁.cursor).isSome = true := by
    have hendures := enduring_writable.step (fun _ _ _ _ _ _ _ _ _ _ => trivial)
      (fun _ _ => enduring_writable.finish _ fun _ _ => trivial) hcursor
    rw [hstep] at hendures
    exact hendures.1
  obtain ⟨c, hturn, -⟩ := exists_turn k
  rw [hstep] at hturn
  have hprogram : m₁.program = k.program := hturn.program
  rcases hmove with ⟨-, rfl⟩ | ⟨-, line, hnext, rfl⟩
  · exact hstepped
  · rw [hprogram] at hnext
    exact hp.next? hnext

/-- A run that does not go on from a line whose number can be written has ended. -/
theorem advance_ended (hcursor : (Decimal.writeInt? k.cursor).isSome = true)
    {x : Except Fault Progress} (hadvance : advance.run.run k = (x, m)) (hx : x ≠ .ok .goesOn) :
    m.phase = .ended := by
  cases x with
  | ok progress =>
      cases progress with
      | goesOn => exact absurd rfl hx
      | stops => exact advance_stops hadvance
  | error e =>
      rw [advance, run_bind] at hadvance
      rcases hstep : step.run.run k with ⟨e' | reaction, m₁⟩
      · rw [hstep] at hadvance
        cases hadvance
        exact step_error_phase hcursor hstep
      · rw [hstep] at hadvance
        exact moveOn_error_phase hadvance

/-! ## The statements of a run -/

/-- Control is above all statements performed so far, on a number that can be written. -/
structure Past (p : Program) (ks : List Machine) (C : Control) : Prop where
  program : C.program = p
  jumped : C.jumped = false
  writable : (Decimal.writeInt? C.cursor).isSome = true
  above : ∀ k ∈ ks, k.cursor < C.cursor

/-- Between requests the run has ended, or is past all statements performed so far. -/
def Passed (p : Program) (ks : List Machine) (m : Machine) : Prop :=
  m.phase = .ended ∨ Past p ks m.control

/-- The statements performed so far are of one program, each above those before it. -/
structure Ascends (p : Program) (ks : List Machine) : Prop where
  program : ∀ k ∈ ks, k.program = p
  cursors : ks.Pairwise fun j k => j.cursor < k.cursor

theorem Past.stands (h : Past p ks m.control) (hstands : StandsWith m m₁) :
    Past p ks m₁.control := by
  obtain ⟨waiting, hcontrol⟩ := hstands
  rw [hcontrol]
  exact ⟨h.program, h.jumped, h.writable, h.above⟩

theorem matched_past {x : Except Fault Progress × Machine} (h : Past p ks x.2.control) :
    Matched (Below fun m => Past p ks m.control) (Below (Passed p ks)) (fun _ => True) x x :=
  matched_below (fun _ => h) (fun _ => .inr h) fun _ _ => ⟨trivial, .inr h⟩

/-- A cycle leaves the run past the statement that it performs. -/
theorem Past.cycle (hp : p.Forward) (hwritable : p.Writable) (h : Past p ks k.control) :
    Turns (fun ks m => Past p ks m.control) (Passed p) (ks ++ [k]) (cycle.run.run k) := by
  have hprogram : k.program = p := h.program
  rw [cycle_eq_cycleWith, run_cycleWith]
  rcases hadvance : advance.run.run k with ⟨e | progress, m⟩
  · exact .inl (advance_ended h.writable hadvance nofun)
  · cases progress with
    | stops => exact .inl (advance_ended h.writable hadvance nofun)
    | goesOn =>
        rw [← hprogram] at hp hwritable
        obtain ⟨hsame, hjumped, hlt, -⟩ := advance_forward hp h.jumped hadvance
        have hpast : Past p (ks ++ [k]) m.control := by
          refine ⟨hsame.trans hprogram, hjumped, advance_writable hwritable h.writable hadvance, ?_⟩
          intro j hj
          rcases List.mem_append.mp hj with hj | hj
          · exact Int.lt_trans (h.above j hj) hlt
          · rw [List.mem_singleton.mp hj]
            exact hlt
        have hcleared : Past p (ks ++ [k]) { m.control with delay := none } :=
          ⟨hpast.program, hpast.jumped, hpast.writable, hpast.above⟩
        exact (matched_past (steers_boundary hpast hcleared rfl)).turns

theorem run_wake_of_unpaused (h : m.phase ≠ .paused) :
    wake.run.run m = (.ok .stops, { m with timer := none }) := by
  unfold wake
  simp only [run_bind, run_modify, run_get, if_neg h, run_pure]

/-- Requests leave a run where it is. -/
theorem receptive_past (p : Program) (ks : List Machine) :
    Receptive Request.Continues (Below fun m => Past p ks m.control) (Below (Passed p ks))
      (fun _ => True) where
  drives _ h := h.1
  start _ _ source h := absurd rfl (h.2 source)
  feed := by
    rintro m _ reply - ⟨rfl, hended | hpast⟩
    · rw [run_feed_of_ended hended]
      exact .stops ⟨rfl, .inl hended⟩
    · exact matched_past (hpast.stands (standsWith_feed reply m))
  resume := by
    rintro m _ ⟨rfl, hended | hpast⟩
    · rw [run_resume_of_ended hended]
      exact .stops ⟨rfl, .inl hended⟩
    · exact matched_past (hpast.stands (standsWith_resume m))
  fires := by
    rintro m _ ⟨rfl, -⟩
    rfl
  wake := by
    rintro m _ ⟨rfl, hended | hpast⟩ -
    · rw [run_wake_of_unpaused (by simp [hended])]
      exact .stops ⟨rfl, .inl hended⟩
    · have hpopped : StandsWith m { m with timers := m.timers.pop.2 } := ⟨m.waiting, rfl⟩
      exact matched_past ((hpast.stands hpopped).stands neutral_wake.standsWith)
  drain := by
    rintro m _ ⟨rfl, hended | hpast⟩ -
    · exact ⟨rfl, .inl hended⟩
    · exact ⟨rfl, .inr hpast⟩
  press := by
    rintro m _ key ⟨rfl, h⟩
    refine agrees_below ?_ fun _ _ => trivial
    unfold press
    rw [run_bind, run_get]
    dsimp only
    split
    · exact h
    · exact h
  stop := by
    rintro m _ ⟨rfl, h⟩
    refine agrees_below ?_ fun _ _ => trivial
    rcases h with hended | hpast
    · rw [run_stop_of_ended hended]
      exact .inl hended
    · exact .inr (hpast.stands neutral_stop.standsWith)
  stopElsewhere := by
    rintro m _ ⟨rfl, h⟩
    refine agrees_below ?_ fun _ _ => trivial
    rcases h with hended | hpast
    · rw [run_stopElsewhere_of_ended hended]
      exact .inl hended
    · exact .inr (hpast.stands neutral_stopElsewhere.standsWith)
  finish := by
    rintro m _ fault - ⟨rfl, h⟩
    exact agrees_below (.inl (finish_phase fault m)) fun _ _ => trivial

/-- What a run has performed between its start and any time after is in ascending order. -/
theorem recorded_past (hp : p.Forward) (hwritable : p.Writable) :
    Recorded passed Request.Continues (fun ks m => Past p ks m.control ∧ Ascends p ks)
      fun ks m => Passed p ks m ∧ Ascends p ks := by
  have hrecorded : Recorded passed Request.Continues (fun ks m => Past p ks m.control) (Passed p) :=
    Receptive.recorded (receptive_past p) (fun _ _ _ => rfl) (fun _ _ _ => rfl)
      (fun _ _ h => h.cycle hp hwritable) []
  refine hrecorded.and (fun _ _ _ h => h) (fun _ _ _ h => h) fun ks k h hks => ⟨?_, ?_⟩
  · intro j hj
    rcases List.mem_append.mp hj with hj | hj
    · exact hks.program j hj
    · rw [List.mem_singleton.mp hj]
      exact h.program
  · refine List.pairwise_append.mpr ⟨hks.cursors, List.pairwise_singleton _ _, fun j hj i hi => ?_⟩
    rw [List.mem_singleton.mp hi]
    exact h.above j hj

/-- What holds of the record wherever a course may be holds after it. -/
theorem Lasts.holds {H : Type} {W R : H → Machine → Prop} {h : H} {x : Option (α × Machine)}
    (hx : Lasts W R h x) {G : Prop} (hW : ∀ m, W h m → G) (hR : ∀ m, R h m → G) : G := by
  cases x with
  | none =>
      obtain ⟨m, hm | hm⟩ := hx
      · exact hW m hm
      · exact hR m hm
  | some x => exact hR x.2 hx

/-- A run that starts is past nothing. -/
theorem past_startProgram (hwritable : p.Writable) (m : Machine) :
    Turns (fun ks m => Past p ks m.control) (Passed p) [] ((startProgram p).run.run m) := by
  unfold startProgram
  rw [run_bind, run_modify]
  dsimp only
  cases hfirst : p.first? with
  | none => exact turns_finish (.inl (finish_phase none _))
  | some line =>
      have hline := hwritable line (List.mem_of_head? hfirst)
      have hstarts : Past p [] (control { reset m with
          program := p, cursor := (line.number : Int) }) := ⟨rfl, rfl, hline, by simp⟩
      exact Matched.turns (E := fun _ => True) (.goesOn ⟨rfl, hstarts⟩)

/-- The statements of a run of a program that leads forward are in ascending order, whatever is
asked of the machine meanwhile. -/
theorem ascends_trail (hp : p.Forward) {source : String} (hload : Program.load source = .ok p)
    (hfree : m.phase = .idle ∨ m.phase = .ended) (n : Nat) {requests : List Request}
    (hrequests : ∀ request ∈ requests, request.Continues) :
    Ascends p (trail n (.run source :: requests) m) := by
  have hwritable := Program.writable_of_load hload
  have T := recorded_past hp hwritable
  have hnone : Ascends p [] := ⟨by simp, .nil⟩
  have hstart := (past_startProgram hwritable m).and hnone
  rw [← run_start_of_load hload hfree] at hstart
  have hrun : Lasts (fun ks m => Past p ks m.control ∧ Ascends p ks)
      (fun ks m => Passed p ks m ∧ Ascends p ks)
      (passed.read ((Request.run source).moments n m) []) (handle n (.run source) m) :=
    (T.followed n hstart).map fun _ => Value.nothing
  rw [read_passed, List.nil_append] at hrun
  rw [trail]
  cases hhandle : handle n (.run source) m with
  | none =>
      rw [List.append_nil]
      exact hrun.holds (fun _ h => h.2) fun _ h => h.2
  | some x =>
      rw [hhandle] at hrun
      have hrest := T.attend n hrequests hrun
      rw [record_passed] at hrest
      exact hrest.holds (fun _ h => h.2) fun _ h => h.2

/-- The lines that are performed from the given machines. -/
def performed (ks : List Machine) : List Line := ks.filterMap fun k => k.program.find? k.cursor

/-- Statements in ascending order are lines of the program as they stand there. -/
theorem Ascends.sublist (h : Ascends p ks) : (performed ks).Sublist p.lines := by
  refine Program.sublist_of_ascending ?_ fun line hline => ?_
  · refine List.pairwise_filterMap.mpr (h.cursors.imp ?_)
    intro j k hlt a ha b hb
    have hj := (Program.find?_eq_some.mp ha).2
    have hk := (Program.find?_eq_some.mp hb).2
    omega
  · obtain ⟨k, hk, hfound⟩ := List.mem_filterMap.mp hline
    rw [h.program k hk] at hfound
    exact (Program.find?_eq_some.mp hfound).1

end Machine

end LineBasic

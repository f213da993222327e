import LineBasic.Proofs.Machine.Pausing
import LineBasic.Proofs.Machine.Renumbering
import LineBasic.Proofs.Machine.Threading
import LineBasic.Proofs.Program

/-!
# Control stays within the program

The cursor may be sent to a line that is not there, but everything that the machine keeps to go back
to is a line of its program: the start of a loop, the line after a call, and the place where a run
is suspended. Only a call on the last line comes back to a number behind it. `Control.Anchored`
says so of loops and calls, `Poised` of a machine before a statement and `Moored` of one at rest;
commands, cycles and requests keep it.
-/

namespace LineBasic

/-- Loops and calls point into the program. -/
structure Control.Anchored (C : Control) : Prop where
  stack : ∀ n ∈ C.stack, (C.program.find? n).isSome = true ∨
    ∃ last, C.program.lines.getLast? = some last ∧ n = (last.number : Int) + 1
  loops : ∀ name loop, C.loops.get? name = some loop → loop.name = name ∧
    loop.increment.IsNonzero ∧ (C.program.find? loop.line).isSome = true

namespace Program

variable {p : Program} {line : Line}

theorem isSome_find? (h : line ∈ p.lines) : (p.find? line.number).isSome = true :=
  List.find?_isSome.mpr ⟨line, h, by simp⟩

theorem isSome_find?_of_next? {n : Int} (h : p.next? n = some line) :
    (p.find? line.number).isSome = true :=
  isSome_find? (List.mem_of_find?_eq_some h)

end Program

namespace Control.Anchored

variable {C : Control}

/-- A call from a line of the program comes back to a line of it, or to the number behind it. -/
theorem push (h : C.Anchored) (hhere : (C.program.find? C.cursor).isSome = true) :
    C.push.Anchored where
  loops := h.loops
  stack n hn := by
    rcases List.mem_cons.mp hn with rfl | hn
    · change (C.program.find? C.back).isSome = true ∨
        ∃ last, C.program.lines.getLast? = some last ∧ C.back = (last.number : Int) + 1
      unfold back
      cases hnext : C.program.next? C.cursor with
      | some line => exact .inl (Program.isSome_find?_of_next? hnext)
      | none =>
          obtain ⟨line, hline⟩ := Option.isSome_iff_exists.mp hhere
          have hnumber : (line.number : Int) = C.cursor := by simpa using List.find?_some hline
          refine .inr ⟨line, Program.getLast?_of_next? hline hnext, ?_⟩
          rw [hnumber]
    · exact h.stack n hn

theorem enter (h : C.Anchored) {name : String} {loop : Loop} (hname : loop.name = name)
    (hstep : loop.increment.IsNonzero) (hline : (C.program.find? loop.line).isSome = true) :
    (C.enter name loop).Anchored where
  stack := h.stack
  loops name' loop' hloop := by
    have hget : (C.loops.insert name loop).get? name' = some loop' := hloop
    rw [Table.get?_insert] at hget
    split at hget
    · next hsame =>
      cases hget
      exact ⟨hname.trans (by simpa using hsame), hstep, hline⟩
    · exact h.loops name' loop' hget

theorem of_eq {C₁ : Control} (h : C.Anchored) (hprogram : C₁.program = C.program)
    (hstack : C₁.stack = C.stack) (hloops : C₁.loops = C.loops) : C₁.Anchored where
  stack := by
    rw [hprogram, hstack]
    exact h.stack
  loops := by
    rw [hprogram, hloops]
    exact h.loops

end Control.Anchored

namespace Turn

variable {C C₁ : Control} {c : Option Command}

/-- Commands keep loops and calls within the program. -/
theorem anchored (h : Turn C c C₁) (hC : C.Anchored)
    (hhere : c ≠ none → (C.program.find? C.cursor).isSome = true) : C₁.Anchored := by
  cases h with
  | stay _ => exact hC
  | jump _ => exact hC.of_eq rfl rfl rfl
  | call _ => exact (hC.push (hhere nofun)).of_eq rfl rfl rfl
  | callLost _ _ => exact hC.push (hhere nofun)
  | comeBack htop =>
      exact ⟨fun n hn => hC.stack n (by rw [htop]; exact List.mem_cons_of_mem _ hn), hC.loops⟩
  | comeBackLost htop _ =>
      exact ⟨fun n hn => hC.stack n (by rw [htop]; exact List.mem_cons_of_mem _ hn), hC.loops⟩
  | loop hnext hstep => exact hC.enter rfl hstep (Program.isSome_find?_of_next? hnext)
  | next hloop value =>
      obtain ⟨hname, hstep, hline⟩ := hC.loops _ _ hloop
      exact hC.enter hname hstep hline
  | nextBack hloop value =>
      obtain ⟨hname, hstep, hline⟩ := hC.loops _ _ hloop
      have hentered : (C.enter _ { (_ : Loop) with value := value }).Anchored :=
        hC.enter hname hstep hline
      exact hentered.of_eq rfl rfl rfl
  | pause _ _ => exact hC.of_eq rfl rfl rfl
  | input _ _ _ => exact hC.of_eq rfl rfl rfl

/-- A command asks for at most one thing: a jump, a reply or a pause. -/
theorem single (h : Turn C c C₁) (hjumped : C.jumped = false) (hwaiting : C.waiting = false)
    (hdelay : C.delay = none) :
    (C₁.jumped = true → C₁.waiting = false ∧ C₁.delay = none) ∧
      (C₁.delay ≠ none → C₁.waiting = false) := by
  cases h with
  | stay _ => simp [hjumped, hwaiting]
  | jump _ => simp [Control.go, hwaiting, hdelay]
  | call _ => simp [Control.go, Control.push, hwaiting, hdelay]
  | callLost _ _ => simp [Control.push, hwaiting, hdelay]
  | comeBack _ => simp [Control.go, hwaiting, hdelay]
  | comeBackLost _ _ => simp [hwaiting, hdelay]
  | loop _ _ => simp [Control.enter, hwaiting, hdelay]
  | next _ _ => simp [Control.enter, hwaiting, hdelay]
  | nextBack _ _ => simp [Control.go, Control.enter, hwaiting, hdelay]
  | pause _ _ => simp [hjumped, hwaiting]
  | input _ _ _ => simp [hjumped, hdelay]

/-- `NEXT` stays on a line of the program or goes back to one. -/
theorem next_found {name : String} (h : Turn C (some (.next name)) C₁) (hC : C.Anchored)
    (hhere : (C.program.find? C.cursor).isSome = true) :
    (C₁.program.find? C₁.cursor).isSome = true := by
  cases h with
  | stay _ => exact hhere
  | next _ _ => exact hhere
  | nextBack hloop _ => exact (hC.loops _ _ hloop).2.2

end Turn

namespace Machine

variable {k m : Machine}

theorem find?_of_commandHere {c : Command} {k' : Machine}
    (h : commandHere.run.run k = (.ok (some c), k')) :
    (k.program.find? k.cursor).isSome = true := by
  obtain ⟨line, hline, -⟩ := commandHere_mem h
  rw [hline]
  rfl

/-- A step is a turn by some command, which is on a line of the program if there is one. -/
theorem exists_turn (k : Machine) : ∃ c, Turn k.control c (step.run.run k).2.control ∧
    (c ≠ none → (k.program.find? k.cursor).isSome = true) := by
  rcases hhere : commandHere.run.run k with ⟨e | c, k'⟩
  · refine ⟨none, ?_, fun hc => absurd rfl hc⟩
    rw [(turn_step hhere).2 e rfl]
    exact .stay nofun
  · refine ⟨c, (turn_step hhere).1 c rfl, fun hc => ?_⟩
    obtain ⟨c, rfl⟩ := Option.ne_none_iff_exists'.mp hc
    exact find?_of_commandHere hhere

/-- A step keeps loops and calls within the program. -/
theorem anchored_step (h : k.control.Anchored) : (step.run.run k).2.control.Anchored := by
  obtain ⟨c, hturn, hhere⟩ := exists_turn k
  exact hturn.anchored h hhere

/-- So does a cycle. -/
theorem anchored_cycle (h : k.control.Anchored) : (cycle.run.run k).2.control.Anchored := by
  have hlands := lands_cycle k
  exact (anchored_step h).of_eq hlands.program hlands.stack hlands.loops

/-- After `NEXT` the run is on a line of the program. -/
theorem cycle_next_found (h : k.control.Anchored) {name : String} {k' : Machine}
    (hnext : commandHere.run.run k = (.ok (some (.next name)), k')) :
    ((cycle.run.run k).2.program.find? (cycle.run.run k).2.cursor).isSome = true := by
  have hlands := lands_cycle k
  have hstep := ((turn_step hnext).1 _ rfl).next_found h (find?_of_commandHere hnext)
  have hprogram : (cycle.run.run k).2.program = (step.run.run k).2.program := hlands.program
  rw [hprogram]
  rcases hlands.cursor with hcursor | ⟨-, line, hline, hcursor⟩
  · have hsame : (cycle.run.run k).2.cursor = (step.run.run k).2.cursor := hcursor
    rw [hsame]
    exact hstep
  · have hmoved : (cycle.run.run k).2.cursor = (line.number : Int) := hcursor
    rw [hmoved]
    exact Program.isSome_find?_of_next? hline

theorem StandsWith.anchored {m₁ : Machine} (h : StandsWith m m₁) (hm : m.control.Anchored) :
    m₁.control.Anchored := by
  obtain ⟨waiting, h⟩ := h
  rw [h]
  exact hm.of_eq rfl rfl rfl

/-- A machine before a statement. -/
structure Poised (m : Machine) : Prop where
  anchored : m.control.Anchored
  phase : m.phase = .running
  jumped : m.jumped = false
  halted : m.halted = false
  waiting : m.waiting = false
  delay : m.delay = none

/-- A machine at rest. A run that is suspended is taken up on a line of the program. -/
structure Moored (m : Machine) : Prop where
  anchored : m.control.Anchored
  suspended : m.phase = .paused ∨ m.phase = .waiting →
    (m.program.find? m.cursor).isSome = true ∧ m.jumped = false ∧ m.delay = none
  answered : m.phase = .paused → m.waiting = false

theorem moored_of_unsuspended (h : m.control.Anchored) (hpaused : m.phase ≠ .paused)
    (hwaiting : m.phase ≠ .waiting) : Moored m :=
  ⟨h, fun hphase => (hphase.elim hpaused hwaiting).elim, fun hphase => absurd hphase hpaused⟩

abbrev Moors (x : Except Fault Progress × Machine) : Prop :=
  Matched (Below Poised) (Below Moored) (fun _ => True) x x

theorem moored_finish (h : m.control.Anchored) (fault : Option Fault) :
    Moored ((finish fault).run.run m).2 := by
  have hphase := finish_phase fault m
  have hanchored := (neutral_finish fault (C := m.control)).standsWith.anchored h
  exact moored_of_unsuspended hanchored (by simp [hphase]) (by simp [hphase])

/-- Ending a run and stopping there. -/
theorem moors_finish (h : m.control.Anchored) (fault : Option Fault) :
    Moors ((do finish fault; return .stops : Action Progress).run.run m) :=
  matched_finish (moored_finish h fault) fun _ _ => trivial

/-- What a statement has asked for when the run has moved on from it. Where it has asked for a reply
or a pause it has not jumped, and the run is on a line of the program. -/
structure Landed (m : Machine) : Prop where
  anchored : m.control.Anchored
  phase : m.phase = .running
  jumped : m.jumped = false
  found : m.waiting = true ∨ m.delay ≠ none → (m.program.find? m.cursor).isSome = true
  single : m.delay ≠ none → m.waiting = false

theorem Poised.landed (h : Poised k) (hadvance : advance.run.run k = (.ok .goesOn, m)) :
    Landed m := by
  have hphase := (advance_goesOn_phase hadvance).trans h.phase
  obtain ⟨reaction, m₁, hstep, -, hmove⟩ := advance_goesOn hadvance
  have hanchored := anchored_step h.anchored
  rw [hstep] at hanchored
  obtain ⟨c, hturn, -⟩ := exists_turn k
  rw [hstep] at hturn
  have hsingle : (m₁.jumped = true → m₁.waiting = false ∧ m₁.delay = none) ∧
      (m₁.delay ≠ none → m₁.waiting = false) := hturn.single h.jumped h.waiting h.delay
  rcases hmove with ⟨hjumped, rfl⟩ | ⟨hjumped, line, hnext, rfl⟩
  · obtain ⟨hwaiting, hdelay⟩ := hsingle.1 hjumped
    refine ⟨hanchored.of_eq rfl rfl rfl, hphase, rfl, ?_, hsingle.2⟩
    simp [hwaiting, hdelay]
  · exact ⟨hanchored.of_eq rfl rfl rfl, hphase, hjumped,
      fun _ => Program.isSome_find?_of_next? hnext, hsingle.2⟩

theorem moors_awaitReply (h : Landed m) (hhalted : m.halted = false) (hdelay : m.delay = none) :
    Moors (awaitReply.run.run m) := by
  unfold awaitReply
  rw [run_bind, run_get]
  dsimp only
  split
  · next hwaiting =>
    exact .stops ⟨rfl, h.anchored.of_eq rfl rfl rfl,
      fun _ => ⟨h.found (.inl hwaiting), h.jumped, hdelay⟩, nofun⟩
  · next hwaiting =>
    exact .goesOn ⟨rfl, h.anchored, h.phase, h.jumped, hhalted, by simpa using hwaiting, hdelay⟩

theorem moors_boundary (h : Landed m) : Moors (boundary.run.run m) := by
  have hclear : Landed { m with delay := none } := by
    refine ⟨h.anchored.of_eq rfl rfl rfl, h.phase, h.jumped, fun hasked => ?_, nofun⟩
    exact h.found (.inl (by simpa using hasked))
  unfold boundary
  rw [run_bind, run_get]
  dsimp only
  split
  · exact moors_finish h.anchored none
  · next hnot =>
    have hhalted : m.halted = false := by simpa using hnot
    rw [run_bind, run_set]
    dsimp only
    cases hdelay : m.delay with
    | none => exact moors_awaitReply hclear hhalted rfl
    | some millis =>
        have hfound := h.found (.inr (by simp [hdelay]))
        have hanswered := h.single (by simp [hdelay])
        dsimp only
        split
        · cases hs : seconds millis with
          | ok s =>
              rw [run_suspend hs]
              exact .stops ⟨rfl, h.anchored.of_eq rfl rfl rfl, fun _ => ⟨hfound, h.jumped, rfl⟩,
                fun _ => hanswered⟩
          | error e =>
              rw [run_suspend_error hs]
              exact .error trivial ⟨rfl, h.anchored.of_eq rfl rfl rfl,
                fun _ => ⟨hfound, h.jumped, rfl⟩, fun _ => hanswered⟩
        · exact moors_awaitReply hclear hhalted rfl

theorem moors_cycle (h : Poised k) : Moors (cycle.run.run k) := by
  have hanchored := anchored_cycle h.anchored
  have hphase := advance_phase k
  rw [cycle_eq_cycleWith, run_cycleWith] at hanchored ⊢
  rcases hadvance : advance.run.run k with ⟨e | p, m₁⟩
  · rw [hadvance] at hanchored hphase
    dsimp only at hanchored hphase
    refine .error trivial ⟨rfl, moored_of_unsuspended hanchored ?_ ?_⟩
    · rcases hphase with hphase | hphase <;> simp [hphase, h.phase]
    · rcases hphase with hphase | hphase <;> simp [hphase, h.phase]
  · cases p with
    | stops =>
        have hended := advance_stops hadvance
        rw [hadvance] at hanchored
        exact .stops ⟨rfl, moored_of_unsuspended hanchored (by simp [hended]) (by simp [hended])⟩
    | goesOn => exact moors_boundary (h.landed hadvance)

/-! ## Requests -/

theorem Moored.released (h : Moored m) : Moored { m with waiting := false } :=
  ⟨h.anchored.of_eq rfl rfl rfl, h.suspended, fun _ => rfl⟩

/-- Taking up a run that is suspended, once no reply is due. -/
theorem moors_goOn (h : Moored m) (hphase : m.phase = .paused ∨ m.phase = .waiting)
    (hwaiting : m.waiting = false) : Moors (goOn.run.run m) := by
  obtain ⟨-, hjumped, hdelay⟩ := h.suspended hphase
  unfold goOn
  rw [run_bind, run_get]
  dsimp only
  split
  · exact moors_finish h.anchored none
  · next hhalted =>
    exact .goesOn ⟨rfl, h.anchored.of_eq rfl rfl rfl, rfl, hjumped, by simpa using hhalted,
      hwaiting, hdelay⟩

theorem moors_wake (h : Moored m) : Moors (wake.run.run m) := by
  have huntimed : Moored { m with timer := none } :=
    ⟨h.anchored.of_eq rfl rfl rfl, h.suspended, h.answered⟩
  unfold wake
  rw [run_bind, run_modify]
  dsimp only
  rw [run_bind, run_get]
  dsimp only
  split
  · next hphase => exact moors_goOn huntimed (.inl hphase) (h.answered hphase)
  · exact .stops ⟨rfl, huntimed⟩

theorem moors_resume (h : Moored m) : Moors (resume.run.run m) := by
  unfold resume
  rw [run_bind, run_get]
  dsimp only
  split
  · exact .stops ⟨rfl, h⟩
  · rw [run_bind, run_modify]
    dsimp only
    rw [run_bind, run_get]
    dsimp only
    split
    · next hphase => exact moors_goOn h.released (.inr hphase) rfl
    · exact .stops ⟨rfl, h.released⟩

theorem moors_feed (h : Moored m) (reply : Reply) : Moors ((feed reply).run.run m) := by
  have hfed : Moored { m with console := (m.console.feed reply).2 } :=
    ⟨h.anchored.of_eq rfl rfl rfl, h.suspended, h.answered⟩
  unfold feed
  rw [run_bind, run_get]
  dsimp only
  rw [run_bind, run_set]
  dsimp only
  split
  · next name _ =>
    rw [run_bind, receive, run_bind, run_get]
    dsimp only
    by_cases hended : m.phase = .ended
    · rw [if_pos hended]
      exact .stops ⟨rfl, hfed⟩
    · rw [if_neg hended]
      cases replyValue name reply with
      | error e =>
          have hmoored := moored_finish hfed.anchored (some e)
          dsimp only
          rw [run_bind]
          rcases hrun : (finish (some e)).run.run
            { m with console := (m.console.feed reply).2 } with ⟨e' | _, m₁⟩
          · rw [hrun] at hmoored
            exact .error trivial ⟨rfl, hmoored⟩
          · rw [hrun] at hmoored
            exact .stops ⟨rfl, hmoored⟩
      | ok value =>
          have hstored : Moored { m with
              console := (m.console.feed reply).2, vars := m.vars.insert name value,
              waiting := false } :=
            ⟨h.anchored.of_eq rfl rfl rfl, h.suspended, fun _ => rfl⟩
          change Moors ((react .replied).run.run { m with
            console := (m.console.feed reply).2, vars := m.vars.insert name value,
            waiting := false })
          unfold react
          rw [run_bind, run_get]
          dsimp only
          split
          · next hphase => exact moors_goOn hstored (.inr hphase.2) rfl
          · exact .stops ⟨rfl, hstored⟩
  · exact .stops ⟨rfl, hfed⟩

theorem anchored_reset (m : Machine) (p : Program) :
    (control { reset m with program := p }).Anchored :=
  ⟨by simp [control, reset], by simp [control, reset]⟩

/-- A run starts with no loops and no calls. -/
theorem moors_startProgram (m : Machine) (p : Program) :
    Moors ((startProgram p).run.run m) := by
  have hreset := anchored_reset m p
  unfold startProgram
  rw [run_bind, run_modify]
  dsimp only
  cases p.first? with
  | none => exact moors_finish hreset none
  | some line => exact .goesOn ⟨rfl, hreset.of_eq rfl rfl rfl, rfl, rfl, rfl, rfl, rfl⟩

theorem moors_start (h : Moored m) (source : String) : Moors ((start source).run.run m) := by
  rw [start_eq, run_bind, run_get]
  dsimp only
  split
  · exact .error trivial ⟨rfl, h⟩
  · unfold launch
    cases Program.load source with
    | error e =>
        have hreset := anchored_reset m .empty
        rw [run_bind, run_modify]
        dsimp only
        split
        · refine .error trivial ⟨rfl, moored_of_unsuspended hreset ?_ ?_⟩
          · simp [reset]
          · simp [reset]
        · exact moors_finish hreset _
    | ok p => exact moors_startProgram m p

theorem moored_stop (h : Moored m) : Moored (stop.run.run m).2 := by
  have hhalted : Moored { m with halted := true } :=
    ⟨h.anchored.of_eq rfl rfl rfl, h.suspended, h.answered⟩
  unfold stop
  rw [run_bind, run_get]
  dsimp only
  split
  · exact h
  · rw [run_bind, halt, run_modify]
    dsimp only
    rw [run_bind, run_get]
    dsimp only
    split
    · exact moored_finish hhalted.anchored none
    · exact hhalted

/-- Sessions keep the control of a machine within its program. -/
theorem attuned_moored : Attuned (fun request => request.drives = true) (fun _ => True)
    (Below Poised) (Below Moored) (fun _ => True) where
  drives _ h := h
  cycle := by
    rintro m _ ⟨rfl, h⟩ -
    exact moors_cycle h
  start := by
    rintro m _ source - ⟨rfl, h⟩
    exact moors_start h source
  feed := by
    rintro m _ reply - ⟨rfl, h⟩
    exact moors_feed h reply
  resume := by
    rintro m _ ⟨rfl, h⟩
    exact moors_resume h
  fires := by
    rintro m _ ⟨rfl, h⟩
    rfl
  wake := by
    rintro m _ ⟨rfl, h⟩ -
    exact moors_wake ⟨h.anchored.of_eq rfl rfl rfl, h.suspended, h.answered⟩
  drain := by
    rintro m _ ⟨rfl, h⟩ -
    exact ⟨rfl, h.anchored.of_eq rfl rfl rfl, h.suspended, h.answered⟩
  press := by
    rintro m _ key ⟨rfl, h⟩
    refine agrees_below ?_ fun _ _ => trivial
    unfold press
    rw [run_bind, run_get]
    dsimp only
    split
    · exact ⟨h.anchored.of_eq rfl rfl rfl, h.suspended, h.answered⟩
    · exact h
  stop := by
    rintro m _ ⟨rfl, h⟩
    exact agrees_below (moored_stop h) fun _ _ => trivial
  stopElsewhere := by
    rintro m _ ⟨rfl, h⟩
    refine agrees_below ?_ fun _ _ => trivial
    unfold stopElsewhere
    rw [run_bind, run_get]
    dsimp only
    split
    · exact h
    · exact ⟨h.anchored.of_eq rfl rfl rfl, h.suspended, h.answered⟩
  finish := by
    rintro m _ fault - ⟨rfl, h⟩
    exact agrees_below (moored_finish h.anchored fault) fun _ _ => trivial

theorem IsNew.moored (h : IsNew m) : Moored m := by
  have hanchored : m.control.Anchored := by
    rw [h]
    exact ⟨by simp [control], by simp [control]⟩
  have hphase : m.phase = .idle := by rw [h]
  exact moored_of_unsuspended hanchored (by simp [hphase]) (by simp [hphase])

/-- Control always points into the program. Whatever a new machine is asked, over one or several
runs: at rest and before every statement each call comes back to a line of the program or to the
number behind the last one, and each loop is registered under its own variable, has a step other
than zero and goes back to a line of the program. A run that is suspended stands on a line of the
program, has no jump to make and no pause to take. So the line is there when the run is taken up,
and after every `NEXT`. -/
theorem control_within_program {m₀ : Machine} (hnew : IsNew m₀) (n : Nat) {requests : List Request}
    (hdrives : ∀ request ∈ requests, request.drives = true) :
    (∀ answers m, attend n requests m₀ = some (answers, m) → m.control.Anchored ∧
      (m.phase = .paused ∨ m.phase = .waiting →
        (m.program.find? m.cursor).isSome = true ∧ m.jumped = false ∧ m.delay = none ∧
        ∀ request : Request, request.Continues → ∀ n' k, (request.moments n' m).head? = some k →
          (k.program.find? k.cursor).isSome = true)) ∧
    ∀ k ∈ trail n requests m₀, k.control.Anchored ∧
      ∀ name k', commandHere.run.run k = (.ok (some (.next name)), k') →
        ((cycle.run.run k).2.program.find? (cycle.run.run k).2.cursor).isSome = true := by
  refine ⟨fun answers m hattend => ?_, fun k hk => ?_⟩
  · have h := (attuned_moored.attend_below hdrives hnew.moored (by simp) hattend).1
    refine ⟨h.anchored, fun hphase => ?_⟩
    obtain ⟨hfound, hjumped, hdelay⟩ := h.suspended hphase
    refine ⟨hfound, hjumped, hdelay, fun request hrequest n' k hk => ?_⟩
    obtain ⟨m₁, hthreads, -⟩ := unwinds_handle n' hrequest m
    obtain ⟨waiting, hstands⟩ := hthreads.of_head? hk
    have hprogram : k.program = m.program := congrArg Control.program hstands
    have hcursor : k.cursor = m.cursor := congrArg Control.cursor hstands
    rw [hprogram, hcursor]
    exact hfound
  · have h := attuned_moored.trail_below hdrives hnew.moored (by simp) k hk
    refine ⟨h.anchored, fun name k' hnext => ?_⟩
    exact cycle_next_found h.anchored hnext

/-- A program that asks its question in a call from a loop. -/
def surveying : Program where
  lines := [⟨10, .command (.loop "I" ⟨"1", .number "1"⟩ ⟨"3", .number "3"⟩ ⟨"1", .number "1"⟩)⟩,
    ⟨20, .command (.call 40)⟩, ⟨30, .command (.next "I")⟩, ⟨40, .command (.input none "X$")⟩,
    ⟨50, .command .comeBack⟩]
  ascending := by decide

theorem load_surveying :
    Program.load "10 FOR I = 1 TO 3\n20 GOSUB 40\n30 NEXT I\n40 INPUT X$\n50 RETURN" =
      .ok surveying := by
  have hsplit : (Program.splitSource
      "10 FOR I = 1 TO 3\n20 GOSUB 40\n30 NEXT I\n40 INPUT X$\n50 RETURN").filter
      (!Program.isBlankLine ·) =
      ["10 FOR I = 1 TO 3", "20 GOSUB 40", "30 NEXT I", "40 INPUT X$", "50 RETURN"] := by
    decide +kernel
  have hlines : ["10 FOR I = 1 TO 3", "20 GOSUB 40", "30 NEXT I", "40 INPUT X$",
      "50 RETURN"].mapM parseLine = .ok surveying.lines := by
    with_unfolding_all rfl
  unfold Program.load
  rw [hsplit, hlines]
  exact Program.ofLines_of_ascending surveying.ascending

/-- The variable of the `NEXT` at the cursor. -/
def nextHere? (k : Machine) : Option String :=
  match (commandHere.run.run k).1 with
  | .ok (some (.next name)) => some name
  | _ => none

theorem commandHere_of_nextHere {k : Machine} {name : String} (h : nextHere? k = some name) :
    ∃ k', commandHere.run.run k = (.ok (some (.next name)), k') := by
  unfold nextHere? at h
  split at h
  · next hhere =>
    cases h
    exact ⟨_, Prod.ext hhere rfl⟩
  · cases h

/-- Asked twice, the program waits within its call, and its `NEXT` has gone back to the call. -/
theorem control_within_program_surveying :
    ∃ answers m, attend 4
        [.run "10 FOR I = 1 TO 3\n20 GOSUB 40\n30 NEXT I\n40 INPUT X$\n50 RETURN", .feed (some "A")]
        { constants := defaultConstants, functions := defaultFunctions } = some (answers, m) ∧
      m.phase = .waiting ∧ m.cursor = 50 ∧ m.stack = [30] ∧ m.loops.keys = ["I"] ∧
      m.control.Anchored ∧ (m.program.find? m.cursor).isSome = true ∧
      ∃ k ∈ trail 4
          [.run "10 FOR I = 1 TO 3\n20 GOSUB 40\n30 NEXT I\n40 INPUT X$\n50 RETURN",
            .feed (some "A")]
          { constants := defaultConstants, functions := defaultFunctions },
        k.cursor = 30 ∧
        ((cycle.run.run k).2.program.find? (cycle.run.run k).2.cursor).isSome = true := by
  let m₀ : Machine := { constants := defaultConstants, functions := defaultFunctions }
  let requests : List Request :=
    [.run "10 FOR I = 1 TO 3\n20 GOSUB 40\n30 NEXT I\n40 INPUT X$\n50 RETURN", .feed (some "A")]
  obtain ⟨hattend, htrail⟩ := attend_run_of_load load_surveying (m := m₀) (.inl rfl) 4
    [.feed (some "A")]
  have hend : (attend 4 requests m₀).map (fun x =>
      (x.2.phase, x.2.cursor, x.2.stack, x.2.loops.keys)) = some (.waiting, 50, [30], ["I"]) := by
    rw [hattend]
    decide +kernel
  have hpassed : (30, some "I") ∈ (trail 4 requests m₀).map fun k => (k.cursor, nextHere? k) := by
    rw [htrail]
    decide +kernel
  obtain ⟨hrests, hpasses⟩ := @control_within_program m₀ rfl 4 requests
    (by simp [requests, Request.drives])
  obtain ⟨⟨answers, m⟩, hm, hview⟩ := Option.map_eq_some_iff.mp hend
  simp only [Prod.mk.injEq] at hview
  obtain ⟨hphase, hcursor, hstack, hloops⟩ := hview
  obtain ⟨hanchored, hsuspended⟩ := hrests answers m hm
  obtain ⟨k, hk, hview⟩ := List.mem_map.mp hpassed
  simp only [Prod.mk.injEq] at hview
  obtain ⟨k', hnext⟩ := commandHere_of_nextHere hview.2
  exact ⟨answers, m, hm, hphase, hcursor, hstack, hloops, hanchored, (hsuspended (.inr hphase)).1,
    k, hk, hview.1, (hpasses k hk).2 _ k' hnext⟩

end Machine

end LineBasic

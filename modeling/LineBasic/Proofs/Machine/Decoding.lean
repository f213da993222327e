import LineBasic.Proofs.Grammar.Numbering
import LineBasic.Proofs.Grammar.Slicing
import LineBasic.Proofs.Machine.Driving
import LineBasic.Proofs.Machine.Failing
import LineBasic.Proofs.Program

/-!
# Syntax faults of a run

A program that loads has been read in full: the text of each expression is read as the expression
again, and the prompt of a question has been decoded. One thing is left for later. A string literal
in an expression is decoded each time it is evaluated, so an escape sequence that makes no sense
goes unnoticed until then, and the run ends with the fault of a text that could not be read.

This is the only way in which a run that has been started ends with a syntax fault. What is kept
along the run is that its program stays the one that was loaded, and that a syntax fault with which
it has ended is over a literal of that program.
-/

namespace LineBasic

/-- All string literals in the expressions of a program, as they are written. -/
def Program.literals (p : Program) : List String :=
  p.lines.flatMap fun line => line.instruction.formulas.flatMap fun f => f.tree.literals

/-- A syntax fault is over one of these literals, and the literal cannot be decoded. -/
def Fault.FromLiterals (literals : List String) (e : Fault) : Prop :=
  ∀ cause line, e = .parse cause line →
    ∃ quoted ∈ literals, cause = .badLiteral quoted ∧ Text.decodeLiteral? quoted = none

theorem Fault.FromLiterals.atLine {literals : List String} {e : Fault} (h : e.FromLiterals literals)
    (line : Option Int) : (e.atLine line).FromLiterals literals := by
  cases e with
  | parse cause own =>
      rintro cause' line' heq
      have hcause : cause' = cause := by
        cases own <;> cases heq <;> rfl
      rw [hcause]
      exact h cause own rfl
  | run cause own => cases own <;> rintro _ _ ⟨⟩
  | _ => rintro _ _ ⟨⟩

theorem Fault.fromLiterals_of_isPrimitive {literals : List String} {e : Fault}
    (h : e.isPrimitive = true) : e.FromLiterals literals := by
  rintro _ _ rfl
  cases h

theorem Fault.fromLiterals_run {literals : List String} {cause : RunCause} {line : Option Int} :
    (Fault.run cause line).FromLiterals literals := by
  rintro _ _ ⟨⟩

theorem primitive_describe (e : Fault) : Primitive (Machine.describe e) := by
  unfold Machine.describe
  split
  · simp
  · split <;> simp

theorem Program.decodes {p : Program} {line : Line} (hline : line ∈ p.lines) :
    Decodes (Fault.FromLiterals p.literals) line.instruction.formulas := by
  rintro f hf quoted hquoted e he cause line' rfl
  unfold decodeText at he
  split at he
  · cases he
  · next hnone =>
    cases he
    refine ⟨quoted, ?_, rfl, hnone⟩
    exact List.mem_flatMap.mpr ⟨line, hline, List.mem_flatMap.mpr ⟨f, hf, hquoted⟩⟩

namespace Machine

variable {E : Fault → Prop} {P : Machine → Prop}

/-- What endures statements and survives what happens between them as well. -/
structure Persistent (E : Fault → Prop) (P : Machine → Prop) : Prop extends Enduring E P where
  phase : ∀ ⦃m⦄ (p : Phase), P m → P { m with phase := p }
  land : ∀ ⦃m⦄, P m → P { m with jumped := false }
  move : ∀ ⦃m⦄ (n : Int), P m → P { m with cursor := n }
  timers : ∀ ⦃m⦄ (t : Timers) (id : Option Nat), P m → P { m with timers := t, timer := id }

namespace Persistent

theorem intervalFrame (L : Persistent E P) : IntervalFrame (Below P) where
  constants := by rintro m _ ⟨rfl, h⟩; rfl
  functions := by rintro m _ ⟨rfl, h⟩; rfl
  heap := by rintro m _ ⟨rfl, h⟩; rfl
  vars := by rintro m _ ⟨rfl, h⟩; rfl
  display := by rintro m _ ⟨rfl, h⟩; rfl
  dice := by rintro m _ ⟨rfl, h⟩; rfl
  setDisplay := by rintro m _ d ⟨rfl, h⟩; exact ⟨rfl, L.display d h⟩
  setDice := by rintro m _ d ⟨rfl, h⟩; exact ⟨rfl, L.dice d h⟩
  push := by rintro m _ r ⟨rfl, h⟩; exact ⟨rfl, L.log _ h⟩
  stop := fun _ _ _ _ _ => L.stop.simulates
  setVars := by rintro m _ v ⟨rfl, h⟩; exact ⟨rfl, L.vars v h⟩
  setHeap := by rintro m _ v ⟨rfl, h⟩; exact ⟨rfl, L.heap v h⟩
  write := by rintro m _ text ⟨rfl, h⟩; exact ⟨rfl, L.console _ h⟩
  phase := by rintro m _ ⟨rfl, h⟩; rfl
  halted := by rintro m _ ⟨rfl, h⟩; rfl
  waiting := by rintro m _ ⟨rfl, h⟩; rfl
  delay := by rintro m _ ⟨rfl, h⟩; rfl
  setPhase := by rintro m _ p ⟨rfl, h⟩; exact ⟨rfl, L.phase p h⟩
  halt := by rintro m _ ⟨rfl, h⟩; exact ⟨rfl, L.halt h⟩
  setWaiting := by rintro m _ b ⟨rfl, h⟩; exact ⟨rfl, L.waiting b h⟩
  setDelay := by rintro m _ d ⟨rfl, h⟩; exact ⟨rfl, L.delay d h⟩
  setTimer := by rintro m _ d ⟨rfl, h⟩; exact ⟨rfl, L.timers _ _ h⟩
  dropTimer := by rintro m _ ⟨rfl, h⟩; exact ⟨rfl, L.timers m.timers none h⟩
  fires := by rintro m _ ⟨rfl, h⟩; rfl
  pop := by rintro m _ ⟨rfl, h⟩; exact ⟨rfl, L.timers m.timers.pop.2 m.timer h⟩
  asked := by rintro m _ reply ⟨rfl, h⟩; rfl
  feed := by rintro m _ reply ⟨rfl, h⟩; exact ⟨rfl, L.console _ h⟩
  ends := (L.finish none nofun).simulates

theorem moveOn (L : Persistent E P) : Upholds E P moveOn := by
  refine .get fun m h => ?_
  split
  · exact .pure _
  · split
    · exact .bind (.set (L.land h)) fun _ => .pure _
    · split
      · exact .bind (L.finish none nofun) fun _ => .pure _
      · exact .bind (.set (L.move _ h)) fun _ => .pure _

/-- A cycle upholds what persists. -/
theorem cycle (L : Persistent E P) (hstep : Upholds E P step) :
    Simulates (Below P) Machine.cycle Machine.cycle := by
  rw [cycle_eq_afterStep]
  refine simulates_bind hstep.simulates fun _ => ?_
  refine simulates_bind L.moveOn.simulates fun progress => ?_
  cases progress with
  | goesOn => exact L.intervalFrame.boundary
  | stops => exact simulates_pure _

end Persistent

/-- The run is one of this program, and a syntax fault with which it has ended is over a literal of
the program. -/
structure Decoding (p : Program) (m : Machine) : Prop where
  program : m.program = p
  completion : ∀ outcome, m.completion = .done outcome →
    ∀ e ∈ outcome.fault, e.FromLiterals p.literals

variable {p : Program} {m m₁ : Machine}

theorem decoding_complete {outcome : Outcome} (h : ∀ e ∈ outcome.fault, e.FromLiterals p.literals) :
    Upholds (Fault.FromLiterals p.literals) (Decoding p) (complete outcome) := by
  refine .get fun m _ => ?_
  split
  · exact .pure _
  · refine .modify fun m hm => ⟨hm.program, ?_⟩
    rintro _ ⟨⟩
    exact h
  · exact .throw (by rintro _ _ ⟨⟩)

theorem decoding_trace (level : Int) (message : String) :
    Upholds (Fault.FromLiterals p.literals) (Decoding p) (trace level message) := by
  refine .get fun m _ => ?_
  split
  · exact .modify fun _ h => ⟨h.program, h.completion⟩
  · exact .pure _

/-- A run that is ended with a fault over a literal, or with no syntax fault at all. -/
theorem decoding_finish {fault : Option Fault} (hfault : ∀ e ∈ fault, e.FromLiterals p.literals) :
    Upholds (Fault.FromLiterals p.literals) (Decoding p) (finish fault) := by
  rw [finish_eq]
  refine .get fun m _ => ?_
  split
  · exact .pure _
  · refine .bind (.modify fun m h => ?_) fun _ => ?_
    · unfold cancelTimer
      split
      · exact ⟨h.program, h.completion⟩
      · exact ⟨h.program, h.completion⟩
    · cases fault with
      | none => exact .bind (decoding_trace _ _) fun _ => decoding_complete nofun
      | some e =>
          -- the fault is given its line here, and stays over the same literal
          have hplaced := (hfault e rfl).atLine
          refine .get fun m _ => .bind (.liftM ?_) fun _ => .bind (decoding_trace _ _) fun _ => ?_
          · exact (primitive_describe _).imp fun _ => Fault.fromLiterals_of_isPrimitive
          · refine decoding_complete ?_
            rintro _ ⟨⟩
            exact hplaced _

theorem decoding_halt : Upholds (Fault.FromLiterals p.literals) (Decoding p) halt :=
  .modify fun _ h => ⟨h.program, h.completion⟩

theorem decoding_stop : Upholds (Fault.FromLiterals p.literals) (Decoding p) stop := by
  refine .get fun m h => ?_
  split
  · exact .pure _
  · refine .bind decoding_halt fun _ => .get fun m h => ?_
    split
    · exact decoding_finish nofun
    · exact .pure _

theorem persistent_decoding : Persistent (Fault.FromLiterals p.literals) (Decoding p) where
  primitive _ := Fault.fromLiterals_of_isPrimitive
  run _ := Fault.fromLiterals_run
  display _ _ h := ⟨h.program, h.completion⟩
  dice _ _ h := ⟨h.program, h.completion⟩
  log _ _ h := ⟨h.program, h.completion⟩
  vars _ _ h := ⟨h.program, h.completion⟩
  heap _ _ h := ⟨h.program, h.completion⟩
  loops _ _ h := ⟨h.program, h.completion⟩
  stack _ _ h := ⟨h.program, h.completion⟩
  jump _ _ _ h := ⟨h.program, h.completion⟩
  halt _ h := ⟨h.program, h.completion⟩
  delay _ _ h := ⟨h.program, h.completion⟩
  waiting _ _ h := ⟨h.program, h.completion⟩
  console _ _ h := ⟨h.program, h.completion⟩
  phase _ _ h := ⟨h.program, h.completion⟩
  land _ h := ⟨h.program, h.completion⟩
  move _ _ h := ⟨h.program, h.completion⟩
  timers _ _ _ h := ⟨h.program, h.completion⟩
  stop := decoding_stop
  finish _ hfault := decoding_finish hfault

theorem decoding_step : Upholds (Fault.FromLiterals p.literals) (Decoding p) step := by
  refine persistent_decoding.step (fun m line h hline => ?_) fun m _ => decoding_finish ?_
  · rw [h.program] at hline
    exact Program.decodes (List.mem_of_find?_eq_some hline)
  · rintro _ ⟨⟩
    exact Fault.fromLiterals_run

/-- The requests with which the world takes part in a run that has been started. -/
def Request.attends : Request → Bool
  | .feed _ | .press _ | .tick | .tickAll | .stop | .stopElsewhere | .resume => true
  | _ => false

theorem attuned_decoding : Attuned (fun request => request.attends = true) (fun _ => True)
    (Below (Decoding p)) (Below (Decoding p)) (fun _ => True) where
  toReceptive := by
    refine persistent_decoding.intervalFrame.receptive ?_ nofun nofun ?_
    · intro request h
      cases request <;> simp_all [Request.attends, Request.drives]
    · refine fun _ => (decoding_finish ?_).simulates
      rintro _ ⟨⟩
      exact Fault.fromLiterals_of_isPrimitive rfl
  cycle _ _ h _ := (persistent_decoding.cycle decoding_step).matched h

/-- The start of a run whose program has been loaded. -/
theorem decoding_start (hfree : m.phase = .idle ∨ m.phase = .ended) {source : String}
    (hload : Program.load source = .ok p) :
    Matched (Below (Decoding p)) (Below (Decoding p)) (fun _ => True) ((start source).run.run m)
      ((start source).run.run m) := by
  have hloaded : Decoding p { reset m with program := p } := ⟨rfl, nofun⟩
  have hfinish : Upholds (Fault.FromLiterals p.literals) (Decoding p)
      (do finish none; return .stops : Action Progress) :=
    .bind (decoding_finish nofun) fun _ => .pure _
  rw [run_start_of_load hload hfree, startProgram, run_bind, run_modify]
  dsimp only
  split
  · exact hfinish.simulates.matched ⟨rfl, hloaded⟩
  · exact .goesOn ⟨rfl, rfl, nofun⟩

/-- A syntax fault can end a run only through a string literal of its program that cannot be
decoded. Everything else about the text of a program that loads is in order: its expressions are
what their texts are read as. -/
theorem run_syntax_fault {source : String} (hload : Program.load source = .ok p)
    (hfree : m.phase = .idle ∨ m.phase = .ended) {n : Nat} {after : List Request}
    (hafter : ∀ request ∈ after, request.attends = true) {answers : List (Except Fault Value)}
    (hattend : attend n (.run source :: after) m = some (answers, m₁)) :
    (∀ line ∈ p.lines, ∀ f ∈ line.instruction.formulas, parseExpression f.text = .ok f.tree) ∧
    ∀ outcome cause line, m₁.completion = .done outcome →
      outcome.fault = some (.parse cause line) →
      ∃ quoted ∈ p.literals, cause = .badLiteral quoted ∧ Text.decodeLiteral? quoted = none := by
  refine ⟨fun line hline => ?_, fun outcome cause line hdone hfault => ?_⟩
  · obtain ⟨text, htext⟩ := Program.parseLine_of_load hload hline
    exact parseLine_reparses htext
  obtain ⟨answer, more, m₂, hrun, hrest, rfl⟩ := attend_cons hattend
  have hagrees : Agrees (Below (Decoding p)) (fun _ => True) (handle n (.run source) m)
      (handle n (.run source) m) :=
    (attuned_decoding.followed (decoding_start hfree hload) (by simp)).1.bind fun _ _ _ h => .ok _ h
  have h₂ : Decoding p m₂ := by
    rw [hrun] at hagrees
    cases hagrees with
    | ok _ h₂ => exact h₂.2
    | error _ h₂ => exact h₂.2
  have h₁ := (attuned_decoding.attend_below hafter h₂ (by simp) hrest).1
  exact h₁.completion outcome hdone _ hfault cause line rfl

/-- A program that prints a text and then one that cannot be decoded. -/
def garbled : Program where
  lines := [
    { number := 10
      instruction := .command (.print [{ formula := { text := "\"A\"", tree := .literal "\"A\"" }
                                         separator := none }]) },
    { number := 20
      instruction := .command (.print [{ formula := { text := "\"\\x\""
                                                      tree := .literal "\"\\x\"" }
                                         separator := none }]) }]

theorem load_garbled : Program.load "10 PRINT \"A\"\n20 PRINT \"\\x\"" = .ok garbled := by
  have hsplit : (Program.splitSource "10 PRINT \"A\"\n20 PRINT \"\\x\"").filter
      (!Program.isBlankLine ·) = ["10 PRINT \"A\"", "20 PRINT \"\\x\""] := by decide
  have hlines : ["10 PRINT \"A\"", "20 PRINT \"\\x\""].mapM parseLine = .ok garbled.lines := by
    with_unfolding_all rfl
  unfold Program.load
  rw [hsplit, hlines]
  exact Program.ofLines_of_ascending garbled.ascending

/-- The run of the program prints the first text and ends at the second one. -/
theorem attend_garbled :
    ∃ answers m₁ outcome, attend 2 [.run "10 PRINT \"A\"\n20 PRINT \"\\x\""]
        { constants := defaultConstants, functions := defaultFunctions } = some (answers, m₁) ∧
      m₁.console.written = "A\n" ∧ m₁.completion = .done outcome ∧
      outcome.fault = some (.parse (.badLiteral "\"\\x\"") (some 20)) := by
  have hstart : (start "10 PRINT \"A\"\n20 PRINT \"\\x\"").run.run
      { constants := defaultConstants, functions := defaultFunctions } = (.ok .goesOn,
        { reset { constants := defaultConstants, functions := defaultFunctions } with
          program := garbled, cursor := 10 }) := by
    unfold start
    rw [load_garbled]
    rfl
  have hfollow : (follow 2 { reset { constants := defaultConstants,
                                     functions := defaultFunctions } with
      program := garbled, cursor := 10 }).map (fun x => (x.2.console.written, x.2.completion)) =
      some ("A\n", .done { fault := some (.parse (.badLiteral "\"\\x\"") (some 20))
                           line := some 20 }) := by
    decide +kernel
  obtain ⟨⟨x, m₁⟩, hx, hend⟩ := Option.map_eq_some_iff.mp hfollow
  obtain ⟨hwritten, hdone⟩ := Prod.mk.inj hend
  have hattend : ∃ answer, attend 2 [.run "10 PRINT \"A\"\n20 PRINT \"\\x\""]
      { constants := defaultConstants, functions := defaultFunctions } = some ([answer], m₁) := by
    rw [attend, handle, following, course_bind, followed_eq, hstart]
    dsimp only
    rw [hx]
    cases x with
    | error e => exact ⟨_, rfl⟩
    | ok _ => exact ⟨_, rfl⟩
  obtain ⟨answer, hattend⟩ := hattend
  exact ⟨_, m₁, _, hattend, hwritten, hdone, rfl⟩

/-- The fault of the run is over a literal of the program. -/
theorem run_syntax_fault_garbled :
    ∃ answers m₁ outcome, attend 2 [.run "10 PRINT \"A\"\n20 PRINT \"\\x\""]
        { constants := defaultConstants, functions := defaultFunctions } = some (answers, m₁) ∧
      m₁.completion = .done outcome ∧
      outcome.fault = some (.parse (.badLiteral "\"\\x\"") (some 20)) ∧
      "\"\\x\"" ∈ garbled.literals ∧ Text.decodeLiteral? "\"\\x\"" = none := by
  obtain ⟨answers, m₁, outcome, hattend, -, hdone, hfault⟩ := attend_garbled
  obtain ⟨quoted, hquoted, hcause, hnone⟩ :=
    (run_syntax_fault load_garbled (.inl rfl) (by simp) hattend).2 outcome _ _ hdone hfault
  cases hcause
  exact ⟨answers, m₁, outcome, hattend, hdone, hfault, hquoted, hnone⟩

/-- A program that loads is under way when it ends with a syntax fault. -/
theorem run_syntax_fault_late :
    Program.load "10 PRINT \"A\"\n20 PRINT \"\\x\"" = .ok garbled ∧
    ∃ answers m₁ outcome, attend 2 [.run "10 PRINT \"A\"\n20 PRINT \"\\x\""]
        { constants := defaultConstants, functions := defaultFunctions } = some (answers, m₁) ∧
      m₁.console.written = "A\n" ∧ m₁.completion = .done outcome ∧
      outcome.fault = some (.parse (.badLiteral "\"\\x\"") (some 20)) :=
  ⟨load_garbled, attend_garbled⟩

end Machine

end LineBasic

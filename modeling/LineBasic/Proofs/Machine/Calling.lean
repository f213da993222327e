import LineBasic.Proofs.Grammar.Numbering
import LineBasic.Proofs.Machine.Renumbering
import LineBasic.Proofs.Machine.Threading
import LineBasic.Proofs.Program

/-!
# Calls and returns

A call leaves the line to come back to on top of the calls that are open, and every command works on
the top of them only. So until the call has come back the calls that were open before it stay as
they are, whatever jumps, loops, calls, pauses and replies come in between, and when it comes back
it does so to the line after it.
-/

namespace LineBasic

theorem Turn.program {C C₁ : Control} {c : Option Command} (h : Turn C c C₁) :
    C₁.program = C.program := by
  cases h <;> rfl

/-- Above a line to come back to and the calls that were open before it, a command either keeps them
as they are or is the return to that line. -/
theorem Turn.above {C C₁ : Control} {c : Option Command} (h : Turn C c C₁) {upper : List Int}
    {back : Int} {callers : List Int} (hstack : C.stack = upper ++ back :: callers) :
    (∃ upper', C₁.stack = upper' ++ back :: callers) ∨
      c = some .comeBack ∧ C₁.stack = callers ∧
        (Decimal.writeInt? back ≠ none → C₁.cursor = back ∧ C₁.jumped = true) := by
  cases h with
  | stay _ => exact .inl ⟨upper, hstack⟩
  | jump _ => exact .inl ⟨upper, hstack⟩
  | call _ => exact .inl ⟨C.back :: upper, congrArg (C.back :: ·) hstack⟩
  | callLost _ _ => exact .inl ⟨C.back :: upper, congrArg (C.back :: ·) hstack⟩
  | comeBack htop =>
      rw [hstack] at htop
      cases upper with
      | nil =>
          cases htop
          exact .inr ⟨rfl, rfl, fun _ => ⟨rfl, rfl⟩⟩
      | cons top upper =>
          cases htop
          exact .inl ⟨upper, rfl⟩
  | comeBackLost htop hlost =>
      rw [hstack] at htop
      cases upper with
      | nil =>
          cases htop
          exact .inr ⟨rfl, rfl, fun hwritable => absurd hlost hwritable⟩
      | cons top upper =>
          cases htop
          exact .inl ⟨upper, rfl⟩
  | loop _ _ => exact .inl ⟨upper, hstack⟩
  | next _ _ => exact .inl ⟨upper, hstack⟩
  | nextBack _ _ => exact .inl ⟨upper, hstack⟩
  | pause _ _ => exact .inl ⟨upper, hstack⟩
  | input _ _ _ => exact .inl ⟨upper, hstack⟩

namespace Machine

variable {m : Machine}

theorem cycle_program (k : Machine) : (cycle.run.run k).2.program = k.program := by
  have hlands : (cycle.run.run k).2.program = (step.run.run k).2.program := (lands_cycle k).program
  rw [hlands]
  rcases hhere : commandHere.run.run k with ⟨e | c, k'⟩
  · exact congrArg Control.program ((turn_step hhere).2 e rfl)
  · exact ((turn_step hhere).1 c rfl).program

/-- One cycle above a line to come back to. -/
theorem cycle_above {k : Machine} {upper : List Int} {back : Int} {callers : List Int}
    (hstack : k.stack = upper ++ back :: callers) :
    (∃ upper', (cycle.run.run k).2.stack = upper' ++ back :: callers) ∨
      (∃ k', commandHere.run.run k = (.ok (some .comeBack), k')) ∧
        (cycle.run.run k).2.stack = callers ∧
        (Decimal.writeInt? back ≠ none → (cycle.run.run k).2.cursor = back) := by
  have hlands := lands_cycle k
  have hafter : (cycle.run.run k).2.stack = (step.run.run k).2.stack := hlands.stack
  rcases hhere : commandHere.run.run k with ⟨e | c, k'⟩
  · have hkeeps := (turn_step hhere).2 e rfl
    refine .inl ⟨upper, ?_⟩
    rw [hafter, ← hstack]
    exact congrArg Control.stack hkeeps
  · rcases ((turn_step hhere).1 c rfl).above hstack with ⟨upper', habove⟩ | ⟨rfl, hopen, hback⟩
    · exact .inl ⟨upper', hafter.trans habove⟩
    · refine .inr ⟨⟨k', rfl⟩, hafter.trans hopen, fun hwritable => ?_⟩
      obtain ⟨hcursor, hjumped⟩ := hback hwritable
      rcases hlands.cursor with hsame | ⟨hstays, -⟩
      · exact hsame.trans hcursor
      · rw [hjumped] at hstays
        cases hstays

namespace Threads

theorem program {m₁ : Machine} {ks : List Machine} (h : Threads m ks m₁) :
    ∀ k ∈ ks, k.program = m.program := by
  induction ks generalizing m with
  | nil => simp
  | cons j ks ih =>
      obtain ⟨⟨waiting, hstands⟩, hrest⟩ := h
      have hj : j.program = m.program := congrArg Control.program hstands
      intro k hk
      rcases List.mem_cons.mp hk with rfl | hk
      · exact hj
      · exact (ih hrest k hk).trans ((cycle_program j).trans hj)

/-- Until a call has come back, the calls that were open before it stay as they are. -/
theorem above {m₁ : Machine} {mid ks : List Machine} (h : Threads m (mid ++ ks) m₁)
    {back : Int} {callers : List Int} (hstack : ∃ upper, m.stack = upper ++ back :: callers)
    (hmid : ∀ j ∈ mid, (cycle.run.run j).2.stack.length ≠ callers.length) :
    ∃ m₂, Threads m₂ ks m₁ ∧ ∃ upper, m₂.stack = upper ++ back :: callers := by
  induction mid generalizing m with
  | nil => exact ⟨m, h, hstack⟩
  | cons j mid ih =>
      obtain ⟨⟨waiting, hstands⟩, hrest⟩ := h
      obtain ⟨upper, hstack⟩ := hstack
      have hj : j.stack = upper ++ back :: callers :=
        (congrArg Control.stack hstands : j.stack = m.stack).trans hstack
      rcases cycle_above hj with habove | ⟨-, hopen, -⟩
      · exact ih hrest habove fun i hi => hmid i (by simp [hi])
      · exact absurd (congrArg List.length hopen) (hmid j (by simp))

end Threads

theorem writable_start (source : String) (hfree : m.phase = .idle ∨ m.phase = .ended) :
    ((start source).run.run m).2.program.Writable := by
  have hnot : ¬ (m.phase = .running ∨ m.phase = .paused ∨ m.phase = .waiting) := by
    rcases hfree with h | h <;> simp [h]
  have hfinish : ∀ fault (m₁ : Machine), m₁.program.Writable →
      ((do finish fault; return .stops : Action Progress).run.run m₁).2.program.Writable := by
    intro fault m₁ hwritable
    have hkeeps := Simulates.keeps (P := fun m => m.control = m₁.control)
      (simulates_bind (neutral_finish fault) fun _ => simulates_pure Progress.stops) rfl
    have hprogram : ((do finish fault; return .stops : Action Progress).run.run m₁).2.program =
        m₁.program := congrArg Control.program hkeeps
    rw [hprogram]
    exact hwritable
  rw [start_eq, run_bind, run_get]
  dsimp only
  rw [if_neg hnot]
  unfold launch
  rw [run_bind, run_modify]
  dsimp only
  cases hload : Program.load source with
  | error e =>
      dsimp only
      split
      · exact Program.writable_empty
      · exact hfinish _ _ Program.writable_empty
  | ok p =>
      have hwritable := Program.writable_of_load hload
      dsimp only
      rw [run_bind, run_modify]
      dsimp only
      cases p.first? with
      | none => exact hfinish _ _ hwritable
      | some line => exact hwritable

/-- A call in the middle of a program leaves the next line to come back to. -/
theorem cycle_call {k k' : Machine} {target : Nat} {next : Line}
    (hcall : commandHere.run.run k = (.ok (some (.call target)), k'))
    (hnext : k.program.next? k.cursor = some next) :
    (cycle.run.run k).2.stack = (next.number : Int) :: k.stack := by
  have hback : k.control.back = (next.number : Int) := by
    have hplace : k.control.program.next? k.control.cursor = some next := hnext
    unfold Control.back
    rw [hplace]
  have hafter : (cycle.run.run k).2.stack = (step.run.run k).2.stack := (lands_cycle k).stack
  have hturn := (turn_step hcall).1 _ rfl
  rw [hafter, ← hback]
  generalize hstep : (step.run.run k).2.control = C at hturn
  have hstack : (step.run.run k).2.stack = C.stack := congrArg Control.stack hstep
  rw [hstack]
  cases hturn with
  | stay h => exact absurd rfl (h target)
  | call _ => rfl
  | callLost _ _ => rfl

/-- Calls and returns are well bracketed. Consider any moment of a run at which a line other than
the last one comes down to a call, with some calls open. As long as no cycle after it has brought
the number of open calls back to what it was, they stay as they are, below the line to come back to.
The first cycle that does so performs a return, and leaves exactly those calls open and the cursor
on the line after the call. -/
theorem call_comes_back (hfree : m.phase = .idle ∨ m.phase = .ended) (n : Nat) (source : String)
    {requests : List Request} (hrequests : ∀ request ∈ requests, request.Continues)
    {before after : List Machine} {k k' : Machine}
    (htrail : trail n (.run source :: requests) m = before ++ k :: after) {target : Nat}
    (hcall : commandHere.run.run k = (.ok (some (.call target)), k')) {next : Line}
    (hnext : k.program.next? k.cursor = some next) :
    (∀ mid r rest, after = mid ++ r :: rest →
      (∀ j ∈ mid, (cycle.run.run j).2.stack.length ≠ k.stack.length) →
      (∃ upper, r.stack = upper ++ (next.number : Int) :: k.stack) ∧
      ((cycle.run.run r).2.stack.length = k.stack.length →
        (∃ r', commandHere.run.run r = (.ok (some .comeBack), r')) ∧
        (cycle.run.run r).2.stack = k.stack ∧
        (cycle.run.run r).2.cursor = (next.number : Int))) ∧
    ∀ answers m₁, attend n (.run source :: requests) m = some (answers, m₁) →
      (∀ j ∈ after, (cycle.run.run j).2.stack.length ≠ k.stack.length) →
      ∃ upper, m₁.stack = upper ++ (next.number : Int) :: k.stack := by
  obtain ⟨m₂, hthreads, hend⟩ := unwinds_run n source hrequests m
  rw [htrail] at hthreads
  have hafter := hthreads.drop
  have hstack := cycle_call hcall hnext
  have hback : Decimal.writeInt? (next.number : Int) ≠ none := by
    have hprogram := hthreads.program k (by simp)
    have hwritable := writable_start source hfree
    rw [← hprogram] at hwritable
    exact Option.isSome_iff_ne_none.mp (hwritable.next? hnext)
  refine ⟨fun mid r rest hsplit hmid => ?_, fun answers m₁ hattend hall => ?_⟩
  · rw [hsplit] at hafter
    obtain ⟨m₃, ⟨⟨waiting, hstands⟩, -⟩, upper, habove⟩ := hafter.above ⟨[], hstack⟩ hmid
    have hr : r.stack = upper ++ (next.number : Int) :: k.stack :=
      (congrArg Control.stack hstands : r.stack = m₃.stack).trans habove
    refine ⟨⟨upper, hr⟩, fun hlength => ?_⟩
    rcases cycle_above hr with ⟨upper', hstill⟩ | ⟨hreturn, hcallers, hcursor⟩
    · rw [hstill, List.length_append, List.length_cons] at hlength
      omega
    · exact ⟨hreturn, hcallers, hcursor hback⟩
  · have hlast : m₂ = m₁ := hend _ hattend
    subst hlast
    rw [← List.append_nil after] at hafter
    obtain ⟨m₃, ⟨waiting, hstands⟩, upper, habove⟩ := hafter.above ⟨[], hstack⟩ hall
    exact ⟨upper, (congrArg Control.stack hstands : m₂.stack = m₃.stack).trans habove⟩

/-- A program with a call that asks a question before it comes back. -/
def visiting : Program where
  lines := [⟨10, .command (.call 30)⟩, ⟨20, .command .halt⟩, ⟨30, .command (.input none "X$")⟩,
    ⟨40, .command .comeBack⟩]

theorem load_visiting :
    Program.load "10 GOSUB 30\n20 END\n30 INPUT X$\n40 RETURN" = .ok visiting := by
  have hsplit : (Program.splitSource "10 GOSUB 30\n20 END\n30 INPUT X$\n40 RETURN").filter
      (!Program.isBlankLine ·) = ["10 GOSUB 30", "20 END", "30 INPUT X$", "40 RETURN"] := by
    decide +kernel
  have hlines : ["10 GOSUB 30", "20 END", "30 INPUT X$", "40 RETURN"].mapM parseLine =
      .ok visiting.lines := by
    with_unfolding_all rfl
  unfold Program.load
  rw [hsplit, hlines]
  exact Program.ofLines_of_ascending visiting.ascending

/-- The line that the statement at the cursor calls. -/
def called? (k : Machine) : Option Nat :=
  match (commandHere.run.run k).1 with
  | .ok (some (.call target)) => some target
  | _ => none

theorem commandHere_of_called {k : Machine} {target : Nat} (h : called? k = some target) :
    ∃ k', commandHere.run.run k = (.ok (some (.call target)), k') := by
  unfold called? at h
  split at h
  · next hhere =>
    cases h
    exact ⟨_, Prod.ext hhere rfl⟩
  · cases h

/-- The call is suspended by its question and taken up by the reply, and comes back to the line
after it. -/
theorem call_comes_back_visiting :
    ∃ k j r l, trail 3 [.run "10 GOSUB 30\n20 END\n30 INPUT X$\n40 RETURN", .feed (some "A")]
        { constants := defaultConstants, functions := defaultFunctions } = [k, j, r, l] ∧
      k.cursor = 10 ∧ j.cursor = 30 ∧ r.cursor = 40 ∧ l.cursor = 20 ∧
      (∃ upper, j.stack = upper ++ 20 :: k.stack) ∧
      (cycle.run.run r).2.stack = k.stack ∧ (cycle.run.run r).2.cursor = 20 := by
  let m : Machine := { constants := defaultConstants, functions := defaultFunctions }
  have hfree : m.phase = .idle ∨ m.phase = .ended := .inl rfl
  have hview : (trailProgram 3 visiting [.feed (some "A")] m).map (fun k =>
      (k.cursor, k.stack.length, (cycle.run.run k).2.stack.length, called? k,
        (k.program.next? k.cursor).map (·.number))) =
      [(10, 0, 1, some 30, some 20), (30, 1, 1, none, some 40), (40, 1, 0, none, none),
        (20, 0, 0, none, some 30)] := by decide +kernel
  rw [← (attend_run_of_load load_visiting hfree 3 [.feed (some "A")]).2] at hview
  obtain ⟨k, after, htrail, hk, hview⟩ := List.map_eq_cons_iff.mp hview
  obtain ⟨j, after, rfl, hj, hview⟩ := List.map_eq_cons_iff.mp hview
  obtain ⟨r, after, rfl, hr, hview⟩ := List.map_eq_cons_iff.mp hview
  obtain ⟨l, after, rfl, hl, hview⟩ := List.map_eq_cons_iff.mp hview
  obtain rfl := List.map_eq_nil_iff.mp hview
  simp only [Prod.mk.injEq] at hk hj hr hl
  obtain ⟨hk₁, hk₂, -, hk₃, hk₄⟩ := hk
  obtain ⟨k', hcall⟩ := commandHere_of_called hk₃
  obtain ⟨next, hnext, hnumber⟩ := Option.map_eq_some_iff.mp hk₄
  have hwhole : trail 3 [.run "10 GOSUB 30\n20 END\n30 INPUT X$\n40 RETURN", .feed (some "A")] m =
      [] ++ k :: [j, r, l] := htrail
  obtain ⟨hreturn, -⟩ := call_comes_back hfree 3 _ (by simp [Request.Continues, Request.drives])
    hwhole hcall hnext
  obtain ⟨hbelow, -⟩ := hreturn [] j [r, l] rfl (by simp)
  have hmid : ∀ i ∈ [j], (cycle.run.run i).2.stack.length ≠ k.stack.length := by
    intro i hi
    rw [List.mem_singleton.mp hi, hj.2.2.1, hk₂]
    decide
  obtain ⟨-, hback⟩ := hreturn [j] r [l] rfl hmid
  obtain ⟨-, hstack, hcursor⟩ := hback (by rw [hr.2.2.1, hk₂])
  rw [hnumber] at hbelow hcursor
  exact ⟨k, j, r, l, htrail, hk₁, hj.1, hr.1, hl.1, hbelow, hstack, hcursor⟩

end Machine

end LineBasic

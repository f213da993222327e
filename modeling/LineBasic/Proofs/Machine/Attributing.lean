import LineBasic.Proofs.Machine.Aborting
import LineBasic.Proofs.Machine.Following
import LineBasic.Proofs.Machine.Pointing
import LineBasic.Proofs.Machine.Releasing

/-!
# The line that a fault is put down to

A run that ends with a fault is put down to the line that the cursor is on when it ends. This is the
line of the statement that failed, because no statement fails once it has moved the cursor: `Stays`
says that a failed statement has left the phase, the cursor and the mark of a jump as they were, and
`Closes` what ending the run makes of the machine. What the statement had done before it failed
stays done, and nothing is done after it.

A run that could not be loaded is put down to no line, as long as the fault is one of the language.
A line number of too many digits is not, and a run of such a source is not ended at all.
-/

namespace LineBasic

namespace Machine

variable {α : Type} {b : Bool} {k m m₀ m₁ m₂ : Machine}

/-! ## Statements that fail stay on their line -/

/-- A machine that is still on the same line, in the same phase and with no further jump to make. -/
structure Stays (m m₁ : Machine) : Prop where
  phase : m₁.phase = m.phase
  cursor : m₁.cursor = m.cursor
  jumped : m₁.jumped = m.jumped

namespace Stays

theorem refl (m : Machine) : Stays m m := ⟨rfl, rfl, rfl⟩

theorem trans (h : Stays m m₁) (h' : Stays m₁ m₂) : Stays m m₂ :=
  ⟨h'.phase.trans h.phase, h'.cursor.trans h.cursor, h'.jumped.trans h.jumped⟩

end Stays

theorem Spent.stays (h : Spent m m₁) : Stays m m₁ := by
  obtain ⟨taken, thrown, log, rfl, -⟩ := h
  exact ⟨rfl, rfl, rfl⟩

/-- What only spends stays on its line. -/
theorem stays_of_spends {a : Action α} (ha : ∀ m, Spends m a) :
    Upholds (fun _ => True) (Stays m₀) a :=
  fun m h => ⟨h.trans (ha m (.refl m)).1.stays, fun _ _ => trivial⟩

theorem stays_trace (level : Int) (message : String) :
    Upholds (fun _ => True) (Stays m₀) (trace level message) :=
  stays_of_spends fun _ => spends_trace level message

theorem stays_modify {f : Machine → Machine} (hf : ∀ m, Stays m (f m)) :
    Upholds (fun _ => True) (Stays m₀) (modify f : Action Unit) :=
  .modify fun m h => h.trans (hf m)

/-- A call has written the stack when its jump fails. -/
theorem withholds_callLine_stays (line : Int) : Withholds (Stays m₀) (callLine line) :=
  .bind (stays_modify fun _ => ⟨rfl, rfl, rfl⟩) fun _ => withholds_jumpTo stays_trace line

theorem withholds_returnFromCall : Withholds (Stays m₀) returnFromCall := by
  refine .get fun m _ => ?_
  split
  · exact .throw _
  · exact .bind (stays_modify fun _ => ⟨rfl, rfl, rfl⟩) fun _ => withholds_jumpTo stays_trace _

/-- `NEXT` has written the loop and its variable when it fails. -/
theorem withholds_advanceLoop (name : String) : Withholds (Stays m₀) (advanceLoop name) := by
  refine .bind (stays_trace _ _) fun _ => .get fun m _ => ?_
  split
  · exact .throw _
  · refine .bind (stays_of_spends fun _ => spends_liftM _) fun value => ?_
    refine .bind (stays_modify fun _ => ⟨rfl, rfl, rfl⟩) fun _ => ?_
    refine .bind (stays_modify fun _ => ⟨rfl, rfl, rfl⟩) fun _ => ?_
    refine .bind (stays_of_spends fun _ => spends_liftM _) fun finished => ?_
    split
    · exact .of_ok fun _ _ => ⟨_, _, rfl⟩
    · exact withholds_jumpTo stays_trace _

theorem withholds_clearDisplay : Withholds (Stays m₀) clearDisplay :=
  .bind (stays_of_spends fun _ => spends_needDisplay) fun _ => .modify _

/-- A question is put without a fault: a reply that cannot be stored ends the run. -/
theorem run_ask_ok (h : Accounted b m) (name : String) :
    ∃ reaction m₁, (ask name).run.run m = (.ok reaction, m₁) := by
  rw [run_ask]
  split
  · next reply _ =>
    have hasked : Accounted b { m with waiting := true, console := (m.console.ask name).2 } :=
      ⟨h.begun, h.absent, h.ended, h.cursor, h.program⟩
    unfold receive
    rw [run_bind, run_get]
    dsimp only
    split
    · exact ⟨_, _, rfl⟩
    · split
      · next fault hfault =>
        have htellable : ∀ e ∈ some fault, e.Tellable := by
          rintro _ ⟨⟩
          exact Fault.tellable_of_isBare
            (Fault.isBare_of_isPrimitive (primitive_replyValue name reply fault hfault))
        obtain ⟨m₁, hrun⟩ := hasked.run_finish htellable
        rw [run_bind, hrun]
        exact ⟨_, _, rfl⟩
      · exact ⟨_, _, rfl⟩
  · exact ⟨_, _, rfl⟩

theorem run_input_ok (h : Accounted b m) (prompt : Option String) (name : String) :
    ∃ reaction m₁, (performCommand (.input prompt name)).run.run m = (.ok reaction, m₁) := by
  cases prompt with
  | none => exact run_ask_ok h name
  | some text =>
      have hwritten : Accounted b { m with console := m.console.write text } :=
        ⟨h.begun, h.absent, h.ended, h.cursor, h.program⟩
      exact run_ask_ok hwritten name

/-- A command that fails has not moved the cursor. -/
theorem performCommand_error_stays (hunstopped : Unstopped m) (h : Accounted b m) {c : Command}
    {e : Fault} (hrun : (performCommand c).run.run m = (.error e, m₁)) : Stays m m₁ := by
  have hspent (hlast : c.actsLast = true) (hcall : ∀ target, c ≠ .call target) : Stays m m₁ :=
    (withholds_performCommand hunstopped h (fun target hc => absurd hc (hcall target)) hlast
      (.refl m) e m₁ hrun).stays
  have hstays (hwithholds : Withholds (Stays m) (performCommand c)) : Stays m m₁ :=
    hwithholds (.refl m) e m₁ hrun
  cases c with
  | print | assign | loop | pause | array | plot | jump => exact hspent rfl nofun
  | call target => exact hstays (.followed (withholds_callLine_stays target))
  | comeBack => exact hstays (.followed withholds_returnFromCall)
  | next name => exact hstays (.followed (withholds_advanceLoop name))
  | input prompt name =>
      obtain ⟨reaction, m₂, hok⟩ := run_input_ok h prompt name
      cases hok.symm.trans hrun
  | clearAll =>
      exact hstays (.bind (stays_modify fun _ => ⟨rfl, rfl, rfl⟩) fun _ =>
        .followed withholds_clearDisplay)
  | clearDisplay => exact hstays (.followed withholds_clearDisplay)
  | remark | halt | clearConsole => exact hstays (.of_ok fun _ _ => ⟨_, _, rfl⟩)

/-- Neither has a branch: the condition only spends. -/
theorem performInstruction_error_stays (hunstopped : Unstopped m) (h : Accounted b m)
    {i : Instruction} {e : Fault} (hrun : (performInstruction i).run.run m = (.error e, m₁)) :
    Stays m m₁ := by
  cases i with
  | command c => exact performCommand_error_stays hunstopped h hrun
  | branch condition yes no =>
      have hspent := spent_evaluate hunstopped condition
      unfold performInstruction at hrun
      rw [run_bind] at hrun
      rcases hcondition : (evaluate condition).run.run m with ⟨e' | v, m₂⟩
      · rw [hcondition] at hrun hspent
        cases hrun
        exact hspent.stays
      · rw [hcondition] at hrun hspent
        have hunstopped₂ := hspent.unstopped hunstopped
        have haccounted₂ := hspent.accounted h
        dsimp only at hrun
        rw [run_bind, run_get] at hrun
        dsimp only at hrun
        split at hrun
        · exact hspent.stays.trans (performCommand_error_stays hunstopped₂ haccounted₂ hrun)
        · cases no with
          | none => cases hrun
          | some c =>
              exact hspent.stays.trans (performCommand_error_stays hunstopped₂ haccounted₂ hrun)

/-! ## How a run ends at a line -/

/-- A machine and what the end of its run with a fault makes of it. -/
def Closes (m : Machine) (fault : Fault) (line : Option Int) (m₁ : Machine) : Prop :=
  ∃ timers timer log, m₁ = { m with
    timers := timers
    timer := timer
    phase := .ended
    completion := .done { fault := some fault, line := line }
    log := log }

theorem closes_finish (h : Going b m) {fault : Fault} (hfault : fault.Tellable) :
    ∃ m₁, Closes m (fault.atLine m.currentLine) m.currentLine m₁ ∧
      (finish (some fault)).run.run m = (.ok (), m₁) := by
  have hended : m.phase ≠ .ended := by simp [h.phase]
  have hpending := h.accounted.pending (by simp [h.phase]) hended
  have htellable : ∀ e ∈ some fault, e.Tellable := by
    rintro _ ⟨⟩
    exact hfault
  obtain ⟨log, hrun⟩ := run_finish_of_pending hended hpending htellable h.accounted.cursor
  obtain ⟨timers, timer, hcancel⟩ := cancelTimer_eq m
  rw [hcancel] at hrun
  exact ⟨_, ⟨timers, timer, log, rfl⟩, hrun⟩

/-- A run that comes to a fault at its cursor ends there. -/
theorem follow_closes (h : Going b m) (hcursor : 0 ≤ m.cursor) {fault : Fault}
    (hfault : fault.Tellable)
    (hstep : step.run.run k =
      (do finish (some fault); return .quiet : Action Reaction).run.run m) :
    ∃ m₁, Closes m (fault.atLine (some m.cursor)) (some m.cursor) m₁ ∧
      ∀ n, follow (n + 1) k = some (.ok (), m₁) := by
  have hline : m.currentLine = some m.cursor := if_pos hcursor
  obtain ⟨m₁, hcloses, hfinish⟩ := closes_finish h hfault
  rw [hline] at hcloses
  have hended : m₁.phase = .ended := by
    obtain ⟨timers, timer, log, rfl⟩ := hcloses
    rfl
  have hquiet : step.run.run k = (.ok .quiet, m₁) := by
    rw [hstep, run_bind, hfinish]
    rfl
  refine ⟨m₁, hcloses, fun n => ?_⟩
  rw [follow_succ, run_cycle_stops hquiet (run_moveOn_ended hended)]

/-- A statement that fails ends the run on its line. -/
theorem follow_fault (hunstopped : Unstopped k) (h : Going b k) (hcursor : 0 ≤ k.cursor)
    {line : Line} (hline : k.program.find? k.cursor = some line) {e : Fault}
    (hrun : (performInstruction line.instruction).run.run (k.announced line) = (.error e, m)) :
    m.cursor = k.cursor ∧ m.jumped = k.jumped ∧ e.isBare = true ∧
      ∃ m₁, Closes m (e.atLine (some k.cursor)) (some k.cursor) m₁ ∧
        ∀ n, follow (n + 1) k = some (.ok (), m₁) := by
  have hstep := run_step_announced hline
  rw [hrun] at hstep
  obtain ⟨log, hannounced⟩ := announced_eq k line
  rw [hannounced] at hrun
  have hunstopped₁ : Unstopped { k with log := log } := hunstopped
  have haccounted₁ := lasting_accounted.log log h.accounted
  have hstays := performInstruction_error_stays hunstopped₁ haccounted₁ hrun
  obtain ⟨haccounted, hbare⟩ := lasting_accounted.performInstruction line.instruction haccounted₁
  rw [hrun] at haccounted hbare
  have hgoing : Going b m := ⟨haccounted, hstays.phase.trans h.phase⟩
  have hsame : m.cursor = k.cursor := hstays.cursor
  have he : e.isBare = true := hbare e rfl
  have hends := follow_closes hgoing (by omega) (Fault.tellable_of_isBare he) hstep
  rw [hsame] at hends
  exact ⟨hsame, hstays.jumped, he, hends⟩

/-- A line that is not there ends the run at its number. -/
theorem follow_missing (h : Going b k) (hcursor : 0 ≤ k.cursor)
    (hline : k.program.find? k.cursor = none) :
    ∃ m₁, Closes k (.run (.missingLine k.cursor) (some k.cursor)) (some k.cursor) m₁ ∧
      ∀ n, follow (n + 1) k = some (.ok (), m₁) := by
  have htellable : (Fault.run (.missingLine k.cursor) (some k.cursor)).Tellable := by
    intro n hn
    cases hn
    exact h.accounted.cursor
  refine follow_closes h hcursor htellable ?_
  rw [run_step_missing hline, missing_of_writable h.accounted.cursor]

/-! ## Runs that cannot be loaded -/

/-- A source that cannot be loaded ends its run at once, without a line. -/
theorem handle_run_load_error (hfree : m.phase = .idle ∨ m.phase = .ended) {source : String}
    {e : Fault} (hload : Program.load source = .error e) (hlanguage : e.ofLanguage = true) :
    ∃ m₁, Closes (reset m) e none m₁ ∧ ∀ n, handle n (.run source) m = some (.ok .nothing, m₁) := by
  have hminus : (Decimal.writeInt? (-1)).isSome = true := by decide +kernel
  have hgoing : Going true (reset m) :=
    ⟨⟨nofun, nofun, fun _ => ⟨nofun, nofun⟩, hminus, Program.writable_empty⟩, rfl⟩
  obtain ⟨m₁, hcloses, hfinish⟩ := closes_finish hgoing (Program.orderly_of_load hload).1
  have hline : (reset m).currentLine = none := rfl
  rw [hline, Fault.atLine_none] at hcloses
  have hstart : (start source).run.run m = (.ok .stops, m₁) := by
    rw [run_start_of_free hfree, launch, run_bind, run_modify, hload]
    simp only [hlanguage, Bool.not_true, Bool.false_eq_true, if_false]
    rw [run_bind, hfinish]
    rfl
  refine ⟨m₁, hcloses, fun n => ?_⟩
  rw [handle, following, course_bind, followed_eq, hstart]
  rfl

/-- Unless the fault is not one of the language: then it escapes, and the run is not ended. -/
theorem handle_run_load_foreign (hfree : m.phase = .idle ∨ m.phase = .ended) {source : String}
    {e : Fault} (hload : Program.load source = .error e) (hforeign : e.ofLanguage = false) (n : Nat) :
    handle n (.run source) m = some (.error e, reset m) := by
  have hstart : (start source).run.run m = (.error e, reset m) := by
    rw [run_start_of_free hfree, launch, run_bind, run_modify, hload]
    simp only [hforeign, Bool.not_false, if_true]
    rfl
  rw [handle, following, course_bind, followed_eq, hstart]

/-! ## Sessions -/

/-- Faults are put down to the line that failed. Take a new machine whose functions do not stop it,
whatever it is asked, before any statement of a run. If the line at the cursor fails, the cursor has
not been moved, and the run ends with this fault on this line, which the wording of a fault of the
language names; but for its end the machine is as the failed statement has left it. If there is no
line at the cursor, the run ends with the fault that this line is missing. A source that cannot be
loaded ends its run without a line, unless the fault is not one of the language, which the run
raises without coming to an end. A line that starts with digits and is refused has a fault with the
number that the digits write. -/
theorem faults_attributed (hnew : IsNew m₀) (hunstopped : Unstopped m₀) (n : Nat)
    {requests : List Request} (hplain : ∀ request ∈ requests, request.Plain) :
    (∀ k ∈ trail n requests m₀,
      (∀ line e m, k.program.find? k.cursor = some line →
        (performInstruction line.instruction).run.run (k.announced line) = (.error e, m) →
        m.cursor = k.cursor ∧ m.jumped = k.jumped ∧
        (e.ofLanguage = true → ∃ kind text, (e.atLine (some k.cursor)).message =
          kind ++ " on line " ++ Decimal.intText k.cursor ++ ": " ++ text) ∧
        ∃ m₁, Closes m (e.atLine (some k.cursor)) (some k.cursor) m₁ ∧
          ∀ j, follow (j + 1) k = some (.ok (), m₁)) ∧
      (k.program.find? k.cursor = none →
        ∃ m₁, Closes k (.run (.missingLine k.cursor) (some k.cursor)) (some k.cursor) m₁ ∧
          ∀ j, follow (j + 1) k = some (.ok (), m₁))) ∧
    (∀ m source e, m.phase = .idle ∨ m.phase = .ended → Program.load source = .error e →
      (e.ofLanguage = true → ∃ m₁, Closes (reset m) e none m₁ ∧
        ∀ j, handle j (.run source) m = some (.ok .nothing, m₁)) ∧
      (e.ofLanguage = false → ∀ j, handle j (.run source) m = some (.error e, reset m))) ∧
    ∀ text e, '\n' ∉ text.toList.dropLast → leadingDigits text ≠ [] → parseLine text = .error e →
      e.ofLanguage = true → e.line? = some (Text.digitsValue (leadingDigits text) : Int) := by
  refine ⟨fun k hk => ?_, fun m source e hfree hload => ?_, fun text e hbreak hdigits hparse => ?_⟩
  · have hdrives : ∀ request ∈ requests, request.drives = true := fun r hr => (hplain r hr).1
    have hgoing := attuned_accounted.trail_below hplain hnew.accounted (by simp) k hk
    have hquiet := attuned_unstopped.trail_below hdrives hunstopped (by simp) k hk
    have hcursor := (attuned_pointed.trail_below hdrives hnew.moored (by simp) k hk).2
    refine ⟨fun line e m hline hrun => ?_, fun hline => follow_missing hgoing hcursor hline⟩
    obtain ⟨hsame, hjumped, hbare, hends⟩ := follow_fault hquiet hgoing hcursor hline hrun
    refine ⟨hsame, hjumped, fun hlanguage => ?_, hends⟩
    exact Fault.message_of_line (Fault.line?_atLine hbare hlanguage _)
  · exact ⟨handle_run_load_error hfree hload, handle_run_load_foreign hfree hload⟩
  · exact parseLine_error_line hbreak hdigits hparse

/-- The fault of the line at the cursor, if it fails. -/
def faultHere? (k : Machine) : Option Fault :=
  match k.program.find? k.cursor with
  | some line =>
    match ((performInstruction line.instruction).run.run (k.announced line)).1 with
    | .error e => some e
    | .ok _ => none
  | none => none

theorem exists_of_faultHere {e : Fault} (h : faultHere? k = some e) :
    ∃ line m, k.program.find? k.cursor = some line ∧
      (performInstruction line.instruction).run.run (k.announced line) = (.error e, m) := by
  unfold faultHere? at h
  split at h
  · next line hline =>
    split at h
    · next e' hrun =>
      cases h
      exact ⟨line, _, hline, Prod.ext hrun rfl⟩
    · cases h
  · cases h

/-- A run whose second line fails ends on it, and a source with a line that cannot be read ends its
run without a line, with a fault that carries the number. -/
theorem faults_attributed_garbled :
    (∃ k ∈ trail 2 [.run "10 PRINT \"A\"\n20 PRINT \"\\x\""]
        { constants := defaultConstants, functions := defaultFunctions },
      ∃ m₁, follow 1 k = some (.ok (), m₁) ∧ m₁.completion = .done
        { fault := some (.parse (.badLiteral "\"\\x\"") (some 20)), line := some 20 }) ∧
    ∃ e m₁, e.line? = some 20 ∧ m₁.completion = .done { fault := some e, line := none } ∧
      handle 1 (.run "20 )") { constants := defaultConstants, functions := defaultFunctions } =
        some (.ok .nothing, m₁) := by
  let m₀ : Machine := { constants := defaultConstants, functions := defaultFunctions }
  have hidle : m₀.phase = .idle := rfl
  have hnew : IsNew m₀ := rfl
  have hplain : ∀ request ∈ [Request.run "10 PRINT \"A\"\n20 PRINT \"\\x\""], request.Plain := by
    simp [Request.Plain, Request.drives]
  obtain ⟨hstatements, hloads, hlines⟩ :=
    faults_attributed hnew defaultFunctions_unstopped 2 hplain
  constructor
  · have hfails : ((20 : Int), some (Fault.parse (.badLiteral "\"\\x\"") none)) ∈
        (trail 2 [.run "10 PRINT \"A\"\n20 PRINT \"\\x\""] m₀).map fun k =>
          (k.cursor, faultHere? k) := by
      rw [(attend_run_of_load load_garbled (.inl hidle) 2 []).2]
      decide +kernel
    obtain ⟨k, hk, hview⟩ := List.mem_map.mp hfails
    obtain ⟨hcursor, hfault⟩ := Prod.mk.inj hview
    obtain ⟨line, m, hline, hrun⟩ := exists_of_faultHere hfault
    obtain ⟨-, -, -, _, ⟨_, _, _, rfl⟩, hfollow⟩ := (hstatements k hk).1 line _ m hline hrun
    exact ⟨k, hk, _, hfollow 0, by rw [hcursor]; rfl⟩
  · have hparse : parseLine "20 )" = .error (.parse (.unexpected ")" 0) (some 20)) := by
      with_unfolding_all rfl
    have hsource : (Program.splitSource "20 )").filter (!Program.isBlankLine ·) = ["20 )"] := by
      decide
    have hload : Program.load "20 )" = .error (.parse (.unexpected ")" 0) (some 20)) := by
      unfold Program.load
      rw [hsource, List.mapM_cons, hparse]
      rfl
    obtain ⟨_, ⟨_, _, _, rfl⟩, hhandle⟩ := (hloads m₀ _ _ (.inl hidle) hload).1 rfl
    exact ⟨_, _, hlines _ _ (by decide) (by decide) hparse rfl, rfl, hhandle 1⟩

/-- A line number of too many digits: the source cannot be loaded, but the run does not end. -/
theorem overlong_load_unattributed :
    ∃ m₁, Program.load (String.ofList (List.replicate 4301 '1')) = .error .badValue ∧
      handle 1 (.run (String.ofList (List.replicate 4301 '1')))
        { constants := defaultConstants, functions := defaultFunctions } =
          some (.error .badValue, m₁) ∧
      ∀ outcome, m₁.completion ≠ .done outcome := by
  have hload : Program.load (String.ofList (List.replicate 4301 '1')) = .error .badValue := by
    apply Program.load_overlong
    · intro c hc
      rw [List.eq_of_mem_replicate hc]
      decide
    · rw [List.length_replicate]
      decide
  exact ⟨_, hload, handle_run_load_foreign (.inl rfl) hload rfl 1, nofun⟩

end Machine

end LineBasic

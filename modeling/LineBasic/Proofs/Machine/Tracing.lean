import LineBasic.Proofs.Machine.Completion
import LineBasic.Proofs.Machine.Decoding
import LineBasic.Proofs.Machine.Renumbering

/-!
# Runs that are traced

The trace level of a machine decides which of its messages are logged, and nothing else. `Quieter`
says of two machines that the first has the lower level: they agree on everything but their level
and their log, and what the first has logged the second has logged too, in the same order and with
further records in between. Statements, the boundaries between them and requests all keep this
(`quieter_driveFrame`), so whole sessions stay in step at any two levels.
-/

namespace LineBasic

namespace Machine

variable {m m' : Machine}

/-- A machine next to one that is the same but for a trace level at least as high: its log is what
is left of the other log when some records are taken out. -/
structure Quieter (m m' : Machine) : Prop where
  rest : ∃ level log, m = { m' with traceLevel := level, log := log }
  level : m.traceLevel ≤ m'.traceLevel
  log : m.log.toList.Sublist m'.log.toList

theorem Quieter.push (h : Quieter m m') (r : LogRecord) :
    Quieter { m with log := m.log.push r } { m' with log := m'.log.push r } := by
  obtain ⟨⟨_, _, rfl⟩, hlevel, hlog⟩ := h
  refine ⟨⟨_, _, rfl⟩, hlevel, ?_⟩
  simpa only [Array.toList_push] using hlog.append_right [r]

/-- A record that only the machine with the higher level makes. -/
theorem Quieter.pushRight (h : Quieter m m') (r : LogRecord) :
    Quieter m { m' with log := m'.log.push r } := by
  obtain ⟨⟨_, _, rfl⟩, hlevel, hlog⟩ := h
  refine ⟨⟨_, _, rfl⟩, hlevel, ?_⟩
  simpa only [Array.toList_push] using hlog.trans (List.sublist_append_left _ [r])

/-- A message is logged on both machines, on the one with the higher level alone, or on neither. -/
theorem quieter_trace (level : Int) (message : String) :
    Simulates Quieter (trace level message) (trace level message) := by
  refine simulates_get fun m m' h => ?_
  have hcursor : m.cursor = m'.cursor := by
    obtain ⟨⟨_, _, rfl⟩, _⟩ := h
    rfl
  rw [hcursor]
  by_cases hlow : level ≤ m.traceLevel
  · have hhigh : level ≤ m'.traceLevel := Int.le_trans hlow h.level
    simp only [if_pos hlow, if_pos hhigh]
    exact simulates_modify fun _ _ h => h.push _
  · rw [if_neg hlow]
    split
    · exact fun _ _ h => ⟨rfl, h.pushRight _⟩
    · exact simulates_pure _

theorem cancelTimer_traced (m : Machine) (level : Int) (log : Array LogRecord) :
    cancelTimer { m with traceLevel := level, log := log } =
      { cancelTimer m with traceLevel := level, log := log } := by
  unfold cancelTimer
  dsimp only
  split <;> rfl

theorem Quieter.ending (h : Quieter m m') :
    Quieter { cancelTimer m with phase := .ended } { cancelTimer m' with phase := .ended } := by
  obtain ⟨⟨level, log, rfl⟩, hlevel, hlog⟩ := h
  obtain ⟨timers, timer, hcancel⟩ := cancelTimer_eq m'
  rw [cancelTimer_traced, hcancel]
  exact ⟨⟨_, _, rfl⟩, hlevel, hlog⟩

theorem quieter_finish (fault : Option Fault) :
    Simulates Quieter (finish fault) (finish fault) := by
  refine simulates_finish quieter_trace ?_ ?_ ?_ (fun _ _ h => h.ending) ?_ fault
  · rintro _ m ⟨⟨_, _, rfl⟩, _⟩; rfl
  · rintro _ m ⟨⟨_, _, rfl⟩, _⟩; rfl
  · rintro _ m ⟨⟨_, _, rfl⟩, _⟩; rfl
  · rintro _ m c ⟨⟨_, _, rfl⟩, hlevel, hlog⟩; exact ⟨⟨_, _, rfl⟩, hlevel, hlog⟩

/-- Whatever statements and requests do, they do it alike at a lower trace level. -/
theorem quieter_driveFrame : DriveFrame Quieter where
  constants := by rintro _ m ⟨⟨_, _, rfl⟩, _⟩; rfl
  functions := by rintro _ m ⟨⟨_, _, rfl⟩, _⟩; rfl
  heap := by rintro _ m ⟨⟨_, _, rfl⟩, _⟩; rfl
  vars := by rintro _ m ⟨⟨_, _, rfl⟩, _⟩; rfl
  display := by rintro _ m ⟨⟨_, _, rfl⟩, _⟩; rfl
  dice := by rintro _ m ⟨⟨_, _, rfl⟩, _⟩; rfl
  cursor := by rintro _ m ⟨⟨_, _, rfl⟩, _⟩; rfl
  program := by rintro _ m ⟨⟨_, _, rfl⟩, _⟩; rfl
  loops := by rintro _ m ⟨⟨_, _, rfl⟩, _⟩; rfl
  stack := by rintro _ m ⟨⟨_, _, rfl⟩, _⟩; rfl
  phase := by rintro _ m ⟨⟨_, _, rfl⟩, _⟩; rfl
  jumped := by rintro _ m ⟨⟨_, _, rfl⟩, _⟩; rfl
  halted := by rintro _ m ⟨⟨_, _, rfl⟩, _⟩; rfl
  waiting := by rintro _ m ⟨⟨_, _, rfl⟩, _⟩; rfl
  delay := by rintro _ m ⟨⟨_, _, rfl⟩, _⟩; rfl
  asked := by rintro _ m reply ⟨⟨_, _, rfl⟩, _⟩; rfl
  fires := by rintro _ m ⟨⟨_, _, rfl⟩, _⟩; rfl
  setDisplay := by rintro _ m d ⟨⟨_, _, rfl⟩, hlevel, hlog⟩; exact ⟨⟨_, _, rfl⟩, hlevel, hlog⟩
  setDice := by rintro _ m d ⟨⟨_, _, rfl⟩, hlevel, hlog⟩; exact ⟨⟨_, _, rfl⟩, hlevel, hlog⟩
  setVars := by rintro _ m v ⟨⟨_, _, rfl⟩, hlevel, hlog⟩; exact ⟨⟨_, _, rfl⟩, hlevel, hlog⟩
  setHeap := by rintro _ m h ⟨⟨_, _, rfl⟩, hlevel, hlog⟩; exact ⟨⟨_, _, rfl⟩, hlevel, hlog⟩
  setLoops := by rintro _ m l ⟨⟨_, _, rfl⟩, hlevel, hlog⟩; exact ⟨⟨_, _, rfl⟩, hlevel, hlog⟩
  setStack := by rintro _ m s ⟨⟨_, _, rfl⟩, hlevel, hlog⟩; exact ⟨⟨_, _, rfl⟩, hlevel, hlog⟩
  jump := by rintro _ m n ⟨⟨_, _, rfl⟩, hlevel, hlog⟩; exact ⟨⟨_, _, rfl⟩, hlevel, hlog⟩
  halt := by rintro _ m ⟨⟨_, _, rfl⟩, hlevel, hlog⟩; exact ⟨⟨_, _, rfl⟩, hlevel, hlog⟩
  setPhase := by rintro _ m p ⟨⟨_, _, rfl⟩, hlevel, hlog⟩; exact ⟨⟨_, _, rfl⟩, hlevel, hlog⟩
  land := by rintro _ m ⟨⟨_, _, rfl⟩, hlevel, hlog⟩; exact ⟨⟨_, _, rfl⟩, hlevel, hlog⟩
  move := by rintro _ m n ⟨⟨_, _, rfl⟩, hlevel, hlog⟩; exact ⟨⟨_, _, rfl⟩, hlevel, hlog⟩
  setWaiting := by rintro _ m b ⟨⟨_, _, rfl⟩, hlevel, hlog⟩; exact ⟨⟨_, _, rfl⟩, hlevel, hlog⟩
  setDelay := by rintro _ m d ⟨⟨_, _, rfl⟩, hlevel, hlog⟩; exact ⟨⟨_, _, rfl⟩, hlevel, hlog⟩
  setTimer := by rintro _ m d ⟨⟨_, _, rfl⟩, hlevel, hlog⟩; exact ⟨⟨_, _, rfl⟩, hlevel, hlog⟩
  dropTimer := by rintro _ m ⟨⟨_, _, rfl⟩, hlevel, hlog⟩; exact ⟨⟨_, _, rfl⟩, hlevel, hlog⟩
  pop := by rintro _ m ⟨⟨_, _, rfl⟩, hlevel, hlog⟩; exact ⟨⟨_, _, rfl⟩, hlevel, hlog⟩
  feed := by rintro _ m reply ⟨⟨_, _, rfl⟩, hlevel, hlog⟩; exact ⟨⟨_, _, rfl⟩, hlevel, hlog⟩
  reset := by rintro _ m p ⟨⟨_, _, rfl⟩, hlevel, hlog⟩; exact ⟨⟨_, _, rfl⟩, hlevel, hlog⟩
  write := by rintro _ m text ⟨⟨_, _, rfl⟩, hlevel, hlog⟩; exact ⟨⟨_, _, rfl⟩, hlevel, hlog⟩
  clear := by rintro _ m ⟨⟨_, _, rfl⟩, hlevel, hlog⟩; exact ⟨⟨_, _, rfl⟩, hlevel, hlog⟩
  push _ _ r h := h.push r
  trace := quieter_trace
  finish := quieter_finish
  ends := quieter_finish none
  stop := by
    intro m m' name _ _
    refine simulates_stop (quieter_finish none) ?_ ?_
    · rintro _ m ⟨⟨_, _, rfl⟩, _⟩; rfl
    · rintro _ m ⟨⟨_, _, rfl⟩, hlevel, hlog⟩; exact ⟨⟨_, _, rfl⟩, hlevel, hlog⟩

/-- A question is put alike at a lower trace level. -/
theorem quieter_ask (name : String) : Simulates Quieter (ask name) (ask name) := by
  refine quieter_driveFrame.asking (fun e => quieter_finish (some e)) name ?_ ?_
  · rintro _ m ⟨⟨_, _, rfl⟩, _⟩; rfl
  · rintro _ m ⟨⟨_, _, rfl⟩, hlevel, hlog⟩; exact ⟨⟨_, _, rfl⟩, hlevel, hlog⟩

/-- Sessions go the same way at a lower trace level. -/
theorem attuned_quieter :
    Attuned (fun request => request.drives = true) (fun _ => True) Quieter Quieter (fun _ => True) :=
  quieter_driveFrame.attuned fun _ _ h _ => (quieter_driveFrame.cycle quieter_ask).matched h

/-- The trace level does not change what a machine does. Take any machine at two trace levels and ask
it the same: it gives the same answers at both, or has no result at both. Before every statement and
at the end the two agree on everything, how the run came out included, apart from the level itself
and the log; and the log at the lower level is the one at the higher level with records left out. -/
theorem trace_level_irrelevant (m : Machine) {level level' : Int} (hlevel : level ≤ level') (n : Nat)
    {requests : List Request} (hdrives : ∀ request ∈ requests, request.drives = true) :
    InConcert Quieter (fun _ => True) (attend n requests { m with traceLevel := level })
        (attend n requests { m with traceLevel := level' }) ∧
      List.Forall₂ Quieter (trail n requests { m with traceLevel := level })
        (trail n requests { m with traceLevel := level' }) := by
  have hquieter : Quieter { m with traceLevel := level } { m with traceLevel := level' } :=
    ⟨⟨level, m.log, rfl⟩, hlevel, List.Sublist.refl _⟩
  exact attuned_quieter.attend hdrives hquieter (by simp)

/-- A program whose second line is at fault leaves one record untraced and six at level two. -/
theorem trace_level_irrelevant_garbled :
    ∃ answers m m', attend 2 [.run "10 PRINT \"A\"\n20 PRINT \"\\x\""]
        { constants := defaultConstants, functions := defaultFunctions, traceLevel := 0 } =
          some (answers, m) ∧
      attend 2 [.run "10 PRINT \"A\"\n20 PRINT \"\\x\""]
        { constants := defaultConstants, functions := defaultFunctions, traceLevel := 2 } =
          some (answers, m') ∧
      m.log.size = 1 ∧ m'.log.size = 6 ∧ Quieter m m' := by
  let m₀ : Machine := { constants := defaultConstants, functions := defaultFunctions }
  have hattend (level : Int) := (attend_run_of_load load_garbled
    (m := { m₀ with traceLevel := level }) (.inl rfl) 2 []).1
  have hlow : (attend 2 [.run "10 PRINT \"A\"\n20 PRINT \"\\x\""] { m₀ with traceLevel := 0 }).map
      (·.2.log.size) = some 1 := by
    rw [hattend]
    decide +kernel
  have hhigh : (attend 2 [.run "10 PRINT \"A\"\n20 PRINT \"\\x\""] { m₀ with traceLevel := 2 }).map
      (·.2.log.size) = some 6 := by
    rw [hattend]
    decide +kernel
  obtain ⟨⟨answers, m⟩, hm, hsize⟩ := Option.map_eq_some_iff.mp hlow
  obtain ⟨⟨answers', m'⟩, hm', hsize'⟩ := Option.map_eq_some_iff.mp hhigh
  have hlevel : (0 : Int) ≤ 2 := by decide
  have hdrives : ∀ request ∈ [Request.run "10 PRINT \"A\"\n20 PRINT \"\\x\""],
      request.drives = true := by
    simp [Request.drives]
  have hconcert := (trace_level_irrelevant m₀ hlevel 2 hdrives).1
  rw [hm] at hconcert
  obtain ⟨m₂, hm₂, hquieter⟩ := hconcert.result
  obtain ⟨rfl, rfl⟩ := Prod.mk.inj (Option.some.inj (hm'.symm.trans hm₂))
  exact ⟨answers', m, m', hm, hm', hsize, hsize', hquieter⟩

end Machine

end LineBasic

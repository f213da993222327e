import LineBasic.Proofs.Machine.Resting

/-!
# Runs that follow other runs

A run does not depend on the runs before it. A machine that is not in the middle of a run is
compared with one that is made anew: the same constants, functions and display, and the same replies
in the queue. The first has timers in its queue that were cancelled, text on its console, and
whatever the last run has left in its flags. `Continues` says what it looks like next to the other
one when both are asked to run the same program: they differ in what the first had before. Every
cycle and every request keeps this (`continues_driveFrame`).
-/

namespace LineBasic

/-! ## Consoles and timers with a past -/

/-- A buffer that started out as `old` with all that another one has seen since: the same replies
and the same question, further clears, and further text since the last of them. -/
structure Buffer.Appends (old b b' : Buffer) : Prop where
  replies : b.replies = b'.replies
  asking : b.asking = b'.asking
  clears : b.clears = old.clears + b'.clears
  written : b.written = if b'.clears = 0 then old.written ++ b'.written else b'.written

/-- The console as it is made, with the replies that are in the queue. -/
def Console.fresh : Console → Console
  | .buffer b => .buffer { replies := b.replies }
  | .stream s => .stream s

/-- The console of a machine with a past next to that of a machine without. -/
inductive Console.Appends (old : Buffer) : Console → Console → Prop
  | buffer {b b' : Buffer} (h : old.Appends b b') : Appends old (.buffer b) (.buffer b')

namespace Console.Appends

variable {old : Buffer} {c c' : Console}

theorem write (h : Appends old c c') (text : String) :
    Appends old (c.write text) (c'.write text) := by
  obtain ⟨h⟩ := h
  refine .buffer ⟨h.replies, h.asking, h.clears, ?_⟩
  dsimp only
  rw [h.written]
  split
  · exact String.append_assoc ..
  · rfl

theorem clear (h : Appends old c c') : Appends old c.clear c'.clear := by
  obtain ⟨h⟩ := h
  refine .buffer ⟨h.replies, h.asking, ?_, ?_⟩
  · simp [h.clears, Nat.add_assoc]
  · simp

/-- Both find the same reply in the queue, or hold the same question. -/
theorem ask (h : Appends old c c') (name : String) :
    (c.ask name).1 = (c'.ask name).1 ∧ Appends old (c.ask name).2 (c'.ask name).2 := by
  obtain @⟨b, b', h⟩ := h
  cases hreplies : b'.replies with
  | nil =>
      simp only [Console.ask, h.replies, hreplies, true_and]
      exact .buffer ⟨rfl, rfl, h.clears, h.written⟩
  | cons reply rest =>
      simp only [Console.ask, h.replies, hreplies, true_and]
      exact .buffer ⟨rfl, h.asking, h.clears, h.written⟩

theorem feed (h : Appends old c c') (reply : Reply) :
    (c.feed reply).1 = (c'.feed reply).1 ∧ Appends old (c.feed reply).2 (c'.feed reply).2 := by
  obtain @⟨b, b', h⟩ := h
  cases hasking : b'.asking with
  | none =>
      simp only [Console.feed, h.asking, hasking, true_and]
      exact .buffer ⟨by simp [h.replies], rfl, h.clears, h.written⟩
  | some name =>
      simp only [Console.feed, h.asking, hasking, true_and]
      exact .buffer ⟨h.replies, rfl, h.clears, h.written⟩

end Console.Appends

/-- A timer whose id counts further delays that were asked for before. -/
def Timer.later (k : Nat) (timer : Timer) : Timer := { timer with id := k + timer.id }

/-- Timers that started out as `old` with all that were set since: cancelled ones may stand in front
of them, and ids count on. -/
structure Timers.Appends (old t t' : Timers) : Prop where
  asked : t.asked = old.asked ++ t'.asked
  queue : ∃ dead, (∀ timer ∈ dead, timer.cancelled = true) ∧
    t.queue = dead ++ t'.queue.map (Timer.later old.asked.length)

namespace Timers.Appends

variable {old t t' : Timers}

theorem set (h : Appends old t t') (delay : Float) :
    (t.set delay).1 = old.asked.length + (t'.set delay).1 ∧
      Appends old (t.set delay).2 (t'.set delay).2 := by
  obtain ⟨dead, hdead, hqueue⟩ := h.queue
  refine ⟨by simp [Timers.set, h.asked], by simp [Timers.set, h.asked], dead, hdead, ?_⟩
  simp [Timers.set, hqueue, h.asked, Timer.later]

theorem cancel (h : Appends old t t') (id : Nat) :
    Appends old (t.cancel (old.asked.length + id)) (t'.cancel id) := by
  obtain ⟨dead, hdead, hqueue⟩ := h.queue
  refine ⟨h.asked, dead.map fun timer =>
    if timer.id == old.asked.length + id then { timer with cancelled := true } else timer, ?_, ?_⟩
  · intro timer htimer
    obtain ⟨former, hformer, rfl⟩ := List.mem_map.mp htimer
    split
    · rfl
    · exact hdead former hformer
  · simp only [Timers.cancel, hqueue, List.map_append, List.map_map, List.append_cancel_left_eq]
    apply List.map_congr_left
    intro timer _
    by_cases hid : timer.id = id
    · simp [Timer.later, hid]
    · simp [Timer.later, hid]

theorem pop (h : Appends old t t') :
    t.pop.1 = t'.pop.1 ∧ Appends old t.pop.2 t'.pop.2 := by
  obtain ⟨dead, hdead, hqueue⟩ := h.queue
  have hdrop : t.queue.dropWhile (·.cancelled) =
      (t'.queue.dropWhile (·.cancelled)).map (Timer.later old.asked.length) := by
    rw [hqueue, List.dropWhile_append_of_pos hdead, List.dropWhile_map]
    rfl
  unfold Timers.pop
  rw [hdrop]
  cases t'.queue.dropWhile (·.cancelled) with
  | nil => exact ⟨rfl, h.asked, [], by simp, rfl⟩
  | cons timer rest => exact ⟨rfl, h.asked, [], by simp, rfl⟩

end Timers.Appends

namespace Machine

variable {before m m' : Machine} {old : Buffer}

/-- A machine that was `before`, with `old` as its console, next to one that was made anew: since
then both have done the same. They agree on all that their programs can see and on how their runs
came out, and differ in what the first had on its console, in its timers and in its log before. -/
structure Continues (before : Machine) (old : Buffer) (m m' : Machine) : Prop where
  rest : ∃ console timers timer log,
    m = { m' with console := console, timers := timers, timer := timer, log := log }
  console : Console.Appends old m.console m'.console
  timers : Timers.Appends before.timers m.timers m'.timers
  timer : m.timer = m'.timer.map (before.timers.asked.length + ·)
  log : m.log = before.log ++ m'.log

theorem Continues.push (h : Continues before old m m') (r : LogRecord) :
    Continues before old { m with log := m.log.push r } { m' with log := m'.log.push r } := by
  obtain ⟨⟨_, _, _, _, rfl⟩, hc, ht, hid, hl⟩ := h
  refine ⟨⟨_, _, _, _, rfl⟩, hc, ht, hid, ?_⟩
  dsimp only at hl ⊢
  rw [hl, Array.push_append]

/-- The timer that is cancelled is the same one on both sides. -/
theorem Continues.ending (h : Continues before old m m') :
    Continues before old { cancelTimer m with phase := .ended }
      { cancelTimer m' with phase := .ended } := by
  obtain ⟨⟨console, timers, timer, log, rfl⟩, hc, ht, hid, hl⟩ := h
  cases htimer : m'.timer with
  | none =>
      have hnone : timer = none := by simpa [htimer] using hid
      rw [cancelTimer_none htimer, cancelTimer_none hnone]
      exact ⟨⟨_, _, _, _, rfl⟩, hc, ht, hid, hl⟩
  | some id =>
      rw [htimer] at hid
      rw [cancelTimer_some htimer, cancelTimer_some hid]
      exact ⟨⟨_, _, _, _, rfl⟩, hc, ht.cancel id, rfl, hl⟩

theorem continues_trace (level : Int) (message : String) :
    Simulates (Continues before old) (trace level message) (trace level message) := by
  refine simulates_trace ?_ ?_ ?_ level message
  · rintro _ m ⟨⟨_, _, _, _, rfl⟩, _⟩; rfl
  · rintro _ m ⟨⟨_, _, _, _, rfl⟩, _⟩; rfl
  · intro m m' r h; exact h.push r

theorem continues_finish (fault : Option Fault) :
    Simulates (Continues before old) (finish fault) (finish fault) := by
  refine simulates_finish continues_trace ?_ ?_ ?_ ?_ ?_ fault
  · rintro _ m ⟨⟨_, _, _, _, rfl⟩, _⟩; rfl
  · rintro _ m ⟨⟨_, _, _, _, rfl⟩, _⟩; rfl
  · rintro _ m ⟨⟨_, _, _, _, rfl⟩, _⟩; rfl
  · intro m m' h; exact h.ending
  · rintro _ m c ⟨⟨_, _, _, _, rfl⟩, hc, ht, hid, hl⟩; exact ⟨⟨_, _, _, _, rfl⟩, hc, ht, hid, hl⟩

/-- Whatever statements and requests do, they do it alike on a machine with a past. -/
theorem continues_driveFrame (before : Machine) (old : Buffer) :
    DriveFrame (Continues before old) where
  constants := by rintro _ m ⟨⟨_, _, _, _, rfl⟩, _⟩; rfl
  functions := by rintro _ m ⟨⟨_, _, _, _, rfl⟩, _⟩; rfl
  heap := by rintro _ m ⟨⟨_, _, _, _, rfl⟩, _⟩; rfl
  vars := by rintro _ m ⟨⟨_, _, _, _, rfl⟩, _⟩; rfl
  display := by rintro _ m ⟨⟨_, _, _, _, rfl⟩, _⟩; rfl
  dice := by rintro _ m ⟨⟨_, _, _, _, rfl⟩, _⟩; rfl
  cursor := by rintro _ m ⟨⟨_, _, _, _, rfl⟩, _⟩; rfl
  program := by rintro _ m ⟨⟨_, _, _, _, rfl⟩, _⟩; rfl
  loops := by rintro _ m ⟨⟨_, _, _, _, rfl⟩, _⟩; rfl
  stack := by rintro _ m ⟨⟨_, _, _, _, rfl⟩, _⟩; rfl
  phase := by rintro _ m ⟨⟨_, _, _, _, rfl⟩, _⟩; rfl
  jumped := by rintro _ m ⟨⟨_, _, _, _, rfl⟩, _⟩; rfl
  halted := by rintro _ m ⟨⟨_, _, _, _, rfl⟩, _⟩; rfl
  waiting := by rintro _ m ⟨⟨_, _, _, _, rfl⟩, _⟩; rfl
  delay := by rintro _ m ⟨⟨_, _, _, _, rfl⟩, _⟩; rfl
  setDisplay := by rintro _ m d ⟨⟨_, _, _, _, rfl⟩, hc, ht, hid, hl⟩; exact ⟨⟨_, _, _, _, rfl⟩, hc, ht, hid, hl⟩
  setDice := by rintro _ m d ⟨⟨_, _, _, _, rfl⟩, hc, ht, hid, hl⟩; exact ⟨⟨_, _, _, _, rfl⟩, hc, ht, hid, hl⟩
  setVars := by rintro _ m v ⟨⟨_, _, _, _, rfl⟩, hc, ht, hid, hl⟩; exact ⟨⟨_, _, _, _, rfl⟩, hc, ht, hid, hl⟩
  setHeap := by rintro _ m h ⟨⟨_, _, _, _, rfl⟩, hc, ht, hid, hl⟩; exact ⟨⟨_, _, _, _, rfl⟩, hc, ht, hid, hl⟩
  setLoops := by rintro _ m l ⟨⟨_, _, _, _, rfl⟩, hc, ht, hid, hl⟩; exact ⟨⟨_, _, _, _, rfl⟩, hc, ht, hid, hl⟩
  setStack := by rintro _ m s ⟨⟨_, _, _, _, rfl⟩, hc, ht, hid, hl⟩; exact ⟨⟨_, _, _, _, rfl⟩, hc, ht, hid, hl⟩
  jump := by rintro _ m n ⟨⟨_, _, _, _, rfl⟩, hc, ht, hid, hl⟩; exact ⟨⟨_, _, _, _, rfl⟩, hc, ht, hid, hl⟩
  halt := by rintro _ m ⟨⟨_, _, _, _, rfl⟩, hc, ht, hid, hl⟩; exact ⟨⟨_, _, _, _, rfl⟩, hc, ht, hid, hl⟩
  setPhase := by rintro _ m p ⟨⟨_, _, _, _, rfl⟩, hc, ht, hid, hl⟩; exact ⟨⟨_, _, _, _, rfl⟩, hc, ht, hid, hl⟩
  land := by rintro _ m ⟨⟨_, _, _, _, rfl⟩, hc, ht, hid, hl⟩; exact ⟨⟨_, _, _, _, rfl⟩, hc, ht, hid, hl⟩
  move := by rintro _ m n ⟨⟨_, _, _, _, rfl⟩, hc, ht, hid, hl⟩; exact ⟨⟨_, _, _, _, rfl⟩, hc, ht, hid, hl⟩
  setWaiting := by rintro _ m b ⟨⟨_, _, _, _, rfl⟩, hc, ht, hid, hl⟩; exact ⟨⟨_, _, _, _, rfl⟩, hc, ht, hid, hl⟩
  setDelay := by rintro _ m d ⟨⟨_, _, _, _, rfl⟩, hc, ht, hid, hl⟩; exact ⟨⟨_, _, _, _, rfl⟩, hc, ht, hid, hl⟩
  reset := by rintro _ m p ⟨⟨_, _, _, _, rfl⟩, hc, ht, hid, hl⟩; exact ⟨⟨_, _, _, _, rfl⟩, hc, ht, rfl, hl⟩
  push _ _ r h := h.push r
  write := by rintro _ m text ⟨⟨_, _, _, _, rfl⟩, hc, ht, hid, hl⟩; exact ⟨⟨_, _, _, _, rfl⟩, hc.write text, ht, hid, hl⟩
  clear := by rintro _ m ⟨⟨_, _, _, _, rfl⟩, hc, ht, hid, hl⟩; exact ⟨⟨_, _, _, _, rfl⟩, hc.clear, ht, hid, hl⟩
  asked := by rintro _ m reply ⟨⟨_, _, _, _, rfl⟩, hc, ht, hid, hl⟩; exact (hc.feed reply).1
  feed := by
    rintro _ m reply ⟨⟨_, _, _, _, rfl⟩, hc, ht, hid, hl⟩
    exact ⟨⟨_, _, _, _, rfl⟩, (hc.feed reply).2, ht, hid, hl⟩
  setTimer := by
    rintro _ m d ⟨⟨_, _, _, _, rfl⟩, hc, ht, hid, hl⟩
    exact ⟨⟨_, _, _, _, rfl⟩, hc, (ht.set d).2, congrArg some (ht.set d).1, hl⟩
  dropTimer := by rintro _ m ⟨⟨_, _, _, _, rfl⟩, hc, ht, hid, hl⟩; exact ⟨⟨_, _, _, _, rfl⟩, hc, ht, rfl, hl⟩
  fires := by rintro _ m ⟨⟨_, _, _, _, rfl⟩, hc, ht, hid, hl⟩; exact ht.pop.1
  pop := by rintro _ m ⟨⟨_, _, _, _, rfl⟩, hc, ht, hid, hl⟩; exact ⟨⟨_, _, _, _, rfl⟩, hc, ht.pop.2, hid, hl⟩
  trace := continues_trace
  finish := continues_finish
  ends := continues_finish none
  stop := by
    intro m m' name _ _
    refine simulates_stop (continues_finish none) ?_ ?_
    · rintro _ m ⟨⟨_, _, _, _, rfl⟩, _⟩; rfl
    · rintro _ m ⟨⟨_, _, _, _, rfl⟩, hc, ht, hid, hl⟩; exact ⟨⟨_, _, _, _, rfl⟩, hc, ht, hid, hl⟩

/-- A question finds the same reply, or is held on both sides. -/
theorem continues_ask (name : String) :
    Simulates (Continues before old) (ask name) (ask name) := by
  refine (continues_driveFrame before old).asking (fun e => continues_finish (some e)) name ?_ ?_
  · intro m m' h; exact (h.console.ask name).1
  · rintro _ m ⟨⟨_, _, _, _, rfl⟩, hc, ht, hid, hl⟩
    exact ⟨⟨_, _, _, _, rfl⟩, (hc.ask name).2, ht, hid, hl⟩

/-- Sessions go the same way on a machine with a past. -/
theorem attuned_continues (before : Machine) (old : Buffer) :
    Attuned (fun request => request.drives = true) (fun _ => True) (Continues before old)
      (Continues before old) (fun _ => True) := by
  have F := continues_driveFrame before old
  exact F.attuned fun m m' h _ => (F.cycle continues_ask).matched h

/-! ## Runs after runs -/

/-- A machine made anew like the given one, with the same replies in the queue and the same display.
The dice and the store of arrays are not a machine's own: what a former run has left in the store is
out of reach, but constants may refer to it. -/
def anew (m : Machine) : Machine :=
  { constants := m.constants, functions := m.functions, traceLevel := m.traceLevel,
    console := m.console.fresh, display := m.display, dice := m.dice, heap := m.heap }

/-- The machine with all of its former run gone that does not outlast the start of the next one. -/
def ready (m : Machine) : Machine := { reset m with phase := .idle }

theorem start_ready (h : m.phase = .idle ∨ m.phase = .ended) (source : String) :
    (start source).run.run m = (start source).run.run (ready m) := by
  have hfree : ¬ (m.phase = .running ∨ m.phase = .paused ∨ m.phase = .waiting) := by
    rcases h with h | h <;> simp [h]
  have hready : ¬ ((ready m).phase = .running ∨ (ready m).phase = .paused ∨
      (ready m).phase = .waiting) := by simp [ready]
  rw [start_eq, run_bind, run_bind, run_get, run_get]
  dsimp only
  rw [if_neg hfree, if_neg hready, launch, run_bind, run_bind, run_modify, run_modify]
  rfl

/-- A session that starts with a run does not see what that run resets. -/
theorem attend_run_ready (h : m.phase = .idle ∨ m.phase = .ended) (n : Nat) (source : String)
    (later : List Request) :
    attend n (.run source :: later) m = attend n (.run source :: later) (ready m) ∧
      trail n (.run source :: later) m = trail n (.run source :: later) (ready m) := by
  have hstart := start_ready h source
  have hhandle : handle n (.run source) m = handle n (.run source) (ready m) := by
    simp only [handle, following, course_bind, followed_eq, hstart]
  constructor
  · simp only [attend, hhandle]
  · simp only [trail, hhandle, Request.moments, momentsAfter, hstart]

/-- At the start of a run, a machine with a past and one without differ in that past only. -/
theorem Calm.continues {b : Buffer} (h : Calm m) (hconsole : m.console = .buffer b)
    (hasking : b.asking = none) : Continues m b (ready m) (ready (anew m)) where
  rest := ⟨m.console, m.timers, none, m.log, rfl⟩
  console := by
    change Console.Appends b m.console m.console.fresh
    rw [hconsole]
    exact .buffer ⟨rfl, hasking, rfl, by simp⟩
  timers := by
    refine ⟨(List.append_nil _).symm, m.timers.queue, fun timer htimer => ?_, ?_⟩
    · simpa using List.filter_eq_nil_iff.mp h.live timer htimer
    · exact (List.append_nil _).symm
  timer := rfl
  log := Array.append_empty.symm

/-- A run does not depend on the runs before it. Take any machine that was made new and has answered
any requests, that is not in the middle of a run now, and whose console holds no question. Asked to
run a program, and then anything else, it gives the same answers as a machine made anew, and before
every statement and at the end it is the same in all but its past: the text and the clears of its
console, the delays asked for and the log are what they were before, followed by those of the
machine made anew. -/
theorem run_independent_of_history {m₀ : Machine} (hnew : IsNew { m₀ with heap := {} })
    {history : List Request} (hhistory : ∀ request ∈ history, request.drives = true) {n : Nat}
    {answers : List (Except Fault Value)} (hattend : attend n history m₀ = some (answers, m))
    (hphase : m.phase = .idle ∨ m.phase = .ended) {b : Buffer} (hconsole : m.console = .buffer b)
    (hasking : b.asking = none) (source : String) {later : List Request}
    (hlater : ∀ request ∈ later, request.drives = true) (n' : Nat) :
    InConcert (Continues m b) (fun _ => True) (attend n' (.run source :: later) m)
        (attend n' (.run source :: later) (anew m)) ∧
      List.Forall₂ (Continues m b) (trail n' (.run source :: later) m)
        (trail n' (.run source :: later) (anew m)) := by
  have hnew' : Resting m₀ := by
    have htimers : m₀.timers = {} := congrArg Machine.timers hnew
    refine .inl ⟨?_, congrArg Machine.timer hnew⟩
    simp [htimers, Timers.live]
  have hresting := (attuned_resting.attend_below hhistory hnew' (by simp) hattend).1
  have hcalm := hresting.calm (by rcases hphase with h | h <;> simp [h])
  have hcontinues := hcalm.continues hconsole hasking
  obtain ⟨hrun, htrail⟩ := attend_run_ready hphase n' source later
  obtain ⟨hrun', htrail'⟩ := attend_run_ready (m := anew m) (.inl rfl) n' source later
  rw [hrun, hrun', htrail, htrail']
  refine (attuned_continues m b).attend ?_ hcontinues (by simp)
  intro request hrequest
  rcases List.mem_cons.mp hrequest with rfl | hmem
  · rfl
  · exact hlater request hmem

/-- A run is stopped while it pauses. Its timer is still in the queue, and the machine is still
asked to stop; the same program then runs as on a machine made anew. -/
theorem run_independent_of_stopped_pause :
    ∃ m, attend 1 [.run "10 PAUSE 5\n20 PRINT \"A\"", .stop]
        { constants := defaultConstants, functions := defaultFunctions } =
          some ([.ok .nothing, .ok .nothing], m) ∧
      m.halted = true ∧ m.timers.queue.map (·.cancelled) = [true] ∧
      InConcert (Continues m {}) (fun _ => True)
        (attend 2 [.run "10 PAUSE 5\n20 PRINT \"A\"", .tick] m)
        (attend 2 [.run "10 PAUSE 5\n20 PRINT \"A\"", .tick] (anew m)) := by
  obtain ⟨s, -, -, hpaused⟩ := handle_run_pausing
  have hstopped : attend 1 [.run "10 PAUSE 5\n20 PRINT \"A\"", .stop]
      { constants := defaultConstants, functions := defaultFunctions } =
        some ([.ok .nothing, .ok .nothing], (stop.run.run (pausedFor s (pausingAt 20))).2) := by
    rw [attend, hpaused 0]
    rfl
  have hlater : ∀ request ∈ [Request.tick], request.drives = true := by simp [Request.drives]
  refine ⟨_, hstopped, rfl, rfl, ?_⟩
  have hruns := run_independent_of_history (by rfl) (by simp [Request.drives]) hstopped (.inr rfl)
    rfl rfl "10 PAUSE 5\n20 PRINT \"A\"" hlater 2
  exact hruns.1

end Machine

end LineBasic

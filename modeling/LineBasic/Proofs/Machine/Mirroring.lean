import LineBasic.Proofs.Machine.Answering
import LineBasic.Proofs.Machine.Recording

/-!
# A stream and a buffer with the same replies

A buffer takes replies from a queue, and a stream reads a line of its input for every question. Two
machines, one with a stream and one with a buffer, mirror each other when the lines that the stream
has still to read are the next replies in the queue of the buffer, what they have shown is the same,
and they agree in everything else.

Whatever statements and requests do, they do it alike on machines that mirror each other, except for
two things. A buffer forgets what it has shown when it is cleared, so programs must not clear the
console; and a stream at its end gives an empty reply where a buffer holds the question, so there
must be a line left for every question. The second condition is counted: every question takes one
line, so as many replies as there are questions suffice (`line_for_each_question`).
-/

namespace LineBasic

/-- No line of the program clears the console. -/
def Program.KeepsConsole (p : Program) : Prop :=
  ∀ line ∈ p.lines, ∀ c ∈ line.instruction.commands, c.clears = false

/-- A text that is read back from a stream as one line: it has no line break in it and no carriage
return behind. -/
def IsReply (text : String) : Prop :=
  '\n' ∉ text.toList ∧ text.toList.getLast? ≠ some '\r'

/-- The input of a stream that holds the given texts, each on a line of its own. -/
def inputOf (texts : List String) : List Char := texts.flatMap fun text => text.toList ++ ['\n']

theorem inputOf_cons (text : String) (texts : List String) :
    inputOf (text :: texts) = text.toList ++ '\n' :: inputOf texts := by
  simp [inputOf]

theorem count_inputOf {texts : List String} (htexts : ∀ text ∈ texts, IsReply text) :
    (inputOf texts).count '\n' = texts.length := by
  induction texts with
  | nil => rfl
  | cons text texts ih =>
      have htext : text.toList.count '\n' = 0 := List.count_eq_zero.mpr (htexts text (by simp)).1
      rw [inputOf_cons, List.count_append, List.count_cons_self, htext,
        ih fun text hmem => htexts text (by simp [hmem]), List.length_cons, Nat.zero_add]

namespace Stream

/-- A stream reads the texts of its input one by one. -/
theorem readLine_inputOf {s : Stream} {text : String} {texts : List String}
    (hunread : s.unread = inputOf (text :: texts)) (htext : IsReply text) :
    s.readLine = (text, { s with unread := inputOf texts }) := by
  have hline : s.unread.takeWhile (· != '\n') = text.toList := by
    have hchars : ∀ c ∈ text.toList, (c != '\n') = true := by
      intro c hc
      simpa using ne_of_mem_of_not_mem hc htext.1
    rw [hunread, inputOf_cons, List.takeWhile_append_of_pos hchars]
    simp
  have hrest : s.unread.drop (text.toList.length + 1) = inputOf texts := by
    rw [hunread, inputOf_cons, List.drop_append]
    simp
  have hnonempty : s.unread.isEmpty = false := by
    rw [hunread, inputOf_cons]
    simp
  have htrim : (text.toList.reverse.dropWhile (· == '\r')).reverse = text.toList := by
    have hlast := htext.2
    rw [← List.head?_reverse] at hlast
    cases hreverse : text.toList.reverse with
    | nil => simpa using hreverse
    | cons c rest =>
        rw [hreverse] at hlast
        have hc : c ≠ '\r' := by simpa using hlast
        rw [List.dropWhile_cons_of_neg (by simpa using hc), ← hreverse, List.reverse_reverse]
  unfold readLine
  simp only [hline, hrest, hnonempty, htrim, Bool.or_false, String.ofList_toList]

end Stream

/-- A stream that has still to read the given texts, and a buffer with these texts next in its queue
and no question held. What was shown on both is the same. -/
def Console.Mirrors (texts : List String) (c c' : Console) : Prop :=
  ∃ s b more, c = .stream s ∧ c' = .buffer b ∧ s.written = b.written ∧
    s.unread = inputOf texts ∧ b.replies = texts.map some ++ more ∧ b.asking = none

namespace Console.Mirrors

variable {texts : List String} {c c' : Console}

theorem written (h : Mirrors texts c c') : c.written = c'.written := by
  obtain ⟨s, b, more, rfl, rfl, hwritten, -⟩ := h
  exact hwritten

theorem write (h : Mirrors texts c c') (text : String) :
    Mirrors texts (c.write text) (c'.write text) := by
  obtain ⟨s, b, more, rfl, rfl, hwritten, hunread, hreplies, hasking⟩ := h
  exact ⟨_, _, more, rfl, rfl, congrArg (· ++ text) hwritten, hunread, hreplies, hasking⟩

theorem feed (h : Mirrors texts c c') (reply : Reply) :
    (c.feed reply).1 = (c'.feed reply).1 ∧
      Mirrors texts (c.feed reply).2 (c'.feed reply).2 := by
  obtain ⟨s, b, more, rfl, rfl, hwritten, hunread, hreplies, hasking⟩ := h
  have hkept : (Console.buffer b).feed reply =
      (none, .buffer { b with replies := b.replies ++ [reply] }) := by
    unfold Console.feed
    dsimp only
    rw [hasking]
  rw [hkept]
  refine ⟨rfl, s, _, more ++ [reply], rfl, rfl, hwritten, hunread, ?_, hasking⟩
  rw [hreplies, List.append_assoc]

/-- A question takes the next text on both sides. -/
theorem ask {text : String} (h : Mirrors (text :: texts) c c') (htext : IsReply text)
    (name : String) :
    (c.ask name).1 = some (some text) ∧ (c'.ask name).1 = some (some text) ∧
      Mirrors texts (c.ask name).2 (c'.ask name).2 := by
  obtain ⟨s, b, more, rfl, rfl, hwritten, hunread, hreplies, hasking⟩ := h
  have hstream : (Console.stream s).ask name =
      (some (some text), .stream { s with unread := inputOf texts }) := by
    unfold Console.ask
    dsimp only
    rw [Stream.readLine_inputOf hunread htext]
  have hbuffer : (Console.buffer b).ask name =
      (some (some text), .buffer { b with replies := texts.map some ++ more }) := by
    unfold Console.ask
    dsimp only
    rw [hreplies]
    rfl
  rw [hstream, hbuffer]
  exact ⟨rfl, rfl, _, _, more, rfl, rfl, hwritten, rfl, rfl, hasking⟩

end Console.Mirrors

namespace Machine

variable {R R' : Machine → Machine → Prop} {P : List String → Prop} {m m' : Machine}

/-! ## Cycles that ask and cycles that do not -/

theorem asksHere?_eq_some {name : String} (h : asksHere? m = some name) :
    ∃ prompt m₀, commandHere.run.run m = (.ok (some (.input prompt name)), m₀) := by
  unfold asksHere? at h
  split at h
  · next c m₀ hc =>
    unfold askedName? at h
    split at h
    · next prompt _ =>
      cases h
      exact ⟨prompt, m₀, hc⟩
    · cases h
  · cases h

/-- A cycle keeps machines related where a step does. -/
theorem RunFrame.cycle_of_step (F : RunFrame R)
    (hstep : (step.run.run m).1 = (step.run.run m').1 ∧
      R (step.run.run m).2 (step.run.run m').2) :
    Matched R R (fun _ => True) (cycle.run.run m) (cycle.run.run m') := by
  obtain ⟨hres, hrel⟩ := hstep
  rw [cycle_eq_afterStep, run_bind, run_bind]
  rcases hs : step.run.run m with ⟨x, m₁⟩
  rcases hs' : step.run.run m' with ⟨x', m₁'⟩
  rw [hs, hs'] at hres hrel
  cases hres
  cases x with
  | error e => exact .error trivial hrel
  | ok reaction => exact F.afterStep.matched hrel

/-- A cycle without a question keeps machines related, if its command does not clear the console or
clearing it keeps them related. -/
theorem RunFrame.cycle_quiet (F : RunFrame R) (h : R m m') (hquiet : asksHere? m = none)
    (hclear : ∀ c m₀, commandHere.run.run m = (.ok (some c), m₀) → c.clears = true →
      Simulates R clearConsole clearConsole) :
    Matched R R (fun _ => True) (cycle.run.run m) (cycle.run.run m') := by
  apply F.cycle_of_step
  refine F.step_at F.toMoveFrame h (fun c m₀ hc => ?_) fun _ _ _ h => h
  refine F.performCommand c (fun _ _ => F.pauseFor) ?_ (hclear c m₀ hc)
  rintro prompt name rfl
  rw [asksHere?, hc] at hquiet
  cases hquiet

/-- A cycle with a question leads over from one relation to another one where the question does. -/
theorem RunFrame.cycle_asking (F : RunFrame R) (F' : RunFrame R') (h : R m m') {name : String}
    (hasks : asksHere? m = some name) (hask : Transfers R R' (ask name) (ask name)) :
    Matched R' R' (fun _ => True) (cycle.run.run m) (cycle.run.run m') := by
  obtain ⟨prompt, m₀, hinput⟩ := asksHere?_eq_some hasks
  apply F'.cycle_of_step
  refine F.step_at F'.toMoveFrame h (fun c m₁ hc => ?_) fun hnone => absurd hinput (hnone _ _)
  cases hinput.symm.trans hc
  cases prompt with
  | none => exact hask
  | some text => exact fun k k' hk => hask (F.write text hk)

/-! ## Machines that mirror each other -/

/-- Two machines that agree in everything but their consoles, which mirror each other, with texts
still to come of which `P` holds. Their program does not clear the console. -/
structure Mirrors (P : List String → Prop) (m m' : Machine) : Prop where
  rest : ∃ console, m' = { m with console := console }
  console : ∃ texts, P texts ∧ (∀ text ∈ texts, IsReply text) ∧
    Console.Mirrors texts m.console m'.console
  program : m.program.KeepsConsole

theorem Mirrors.ending (h : Mirrors P m m') :
    Mirrors P { cancelTimer m with phase := .ended } { cancelTimer m' with phase := .ended } := by
  obtain ⟨⟨console, hrest⟩, hc, hp⟩ := h
  have htimer : m'.timer = m.timer := by rw [hrest]
  cases hm : m.timer with
  | none =>
      rw [cancelTimer_none hm, cancelTimer_none (htimer.trans hm)]
      subst hrest
      exact ⟨⟨_, rfl⟩, hc, hp⟩
  | some id =>
      rw [cancelTimer_some hm, cancelTimer_some (htimer.trans hm)]
      subst hrest
      exact ⟨⟨_, rfl⟩, hc, hp⟩

theorem mirrors_trace (level : Int) (message : String) :
    Simulates (Mirrors P) (trace level message) (trace level message) := by
  refine simulates_trace ?_ ?_ ?_ level message
  · rintro m _ ⟨⟨_, rfl⟩, _⟩; rfl
  · rintro m _ ⟨⟨_, rfl⟩, _⟩; rfl
  · rintro m _ r ⟨⟨_, rfl⟩, hc, hp⟩; exact ⟨⟨_, rfl⟩, hc, hp⟩

theorem mirrors_finish (fault : Option Fault) :
    Simulates (Mirrors P) (finish fault) (finish fault) := by
  refine simulates_finish mirrors_trace ?_ ?_ ?_ ?_ ?_ fault
  · rintro m _ ⟨⟨_, rfl⟩, _⟩; rfl
  · rintro m _ ⟨⟨_, rfl⟩, _⟩; rfl
  · rintro m _ ⟨⟨_, rfl⟩, _⟩; rfl
  · intro m m' h; exact h.ending
  · rintro m _ c ⟨⟨_, rfl⟩, hc, hp⟩; exact ⟨⟨_, rfl⟩, hc, hp⟩

/-- Statements and requests do the same on machines that mirror each other, as long as the console
is not cleared. -/
theorem mirrors_runFrame (P : List String → Prop) : RunFrame (Mirrors P) where
  constants := by rintro m _ ⟨⟨_, rfl⟩, _⟩; rfl
  functions := by rintro m _ ⟨⟨_, rfl⟩, _⟩; rfl
  heap := by rintro m _ ⟨⟨_, rfl⟩, _⟩; rfl
  vars := by rintro m _ ⟨⟨_, rfl⟩, _⟩; rfl
  display := by rintro m _ ⟨⟨_, rfl⟩, _⟩; rfl
  dice := by rintro m _ ⟨⟨_, rfl⟩, _⟩; rfl
  cursor := by rintro m _ ⟨⟨_, rfl⟩, _⟩; rfl
  program := by rintro m _ ⟨⟨_, rfl⟩, _⟩; rfl
  loops := by rintro m _ ⟨⟨_, rfl⟩, _⟩; rfl
  stack := by rintro m _ ⟨⟨_, rfl⟩, _⟩; rfl
  phase := by rintro m _ ⟨⟨_, rfl⟩, _⟩; rfl
  jumped := by rintro m _ ⟨⟨_, rfl⟩, _⟩; rfl
  halted := by rintro m _ ⟨⟨_, rfl⟩, _⟩; rfl
  waiting := by rintro m _ ⟨⟨_, rfl⟩, _⟩; rfl
  delay := by rintro m _ ⟨⟨_, rfl⟩, _⟩; rfl
  fires := by rintro m _ ⟨⟨_, rfl⟩, _⟩; rfl
  setDisplay := by rintro m _ d ⟨⟨_, rfl⟩, hc, hp⟩; exact ⟨⟨_, rfl⟩, hc, hp⟩
  setDice := by rintro m _ d ⟨⟨_, rfl⟩, hc, hp⟩; exact ⟨⟨_, rfl⟩, hc, hp⟩
  push := by rintro m _ r ⟨⟨_, rfl⟩, hc, hp⟩; exact ⟨⟨_, rfl⟩, hc, hp⟩
  setVars := by rintro m _ v ⟨⟨_, rfl⟩, hc, hp⟩; exact ⟨⟨_, rfl⟩, hc, hp⟩
  setHeap := by rintro m _ h ⟨⟨_, rfl⟩, hc, hp⟩; exact ⟨⟨_, rfl⟩, hc, hp⟩
  setLoops := by rintro m _ l ⟨⟨_, rfl⟩, hc, hp⟩; exact ⟨⟨_, rfl⟩, hc, hp⟩
  setStack := by rintro m _ s ⟨⟨_, rfl⟩, hc, hp⟩; exact ⟨⟨_, rfl⟩, hc, hp⟩
  jump := by rintro m _ n ⟨⟨_, rfl⟩, hc, hp⟩; exact ⟨⟨_, rfl⟩, hc, hp⟩
  halt := by rintro m _ ⟨⟨_, rfl⟩, hc, hp⟩; exact ⟨⟨_, rfl⟩, hc, hp⟩
  setPhase := by rintro m _ p ⟨⟨_, rfl⟩, hc, hp⟩; exact ⟨⟨_, rfl⟩, hc, hp⟩
  land := by rintro m _ ⟨⟨_, rfl⟩, hc, hp⟩; exact ⟨⟨_, rfl⟩, hc, hp⟩
  move := by rintro m _ n ⟨⟨_, rfl⟩, hc, hp⟩; exact ⟨⟨_, rfl⟩, hc, hp⟩
  setWaiting := by rintro m _ b ⟨⟨_, rfl⟩, hc, hp⟩; exact ⟨⟨_, rfl⟩, hc, hp⟩
  setDelay := by rintro m _ d ⟨⟨_, rfl⟩, hc, hp⟩; exact ⟨⟨_, rfl⟩, hc, hp⟩
  setTimer := by rintro m _ d ⟨⟨_, rfl⟩, hc, hp⟩; exact ⟨⟨_, rfl⟩, hc, hp⟩
  dropTimer := by rintro m _ ⟨⟨_, rfl⟩, hc, hp⟩; exact ⟨⟨_, rfl⟩, hc, hp⟩
  pop := by rintro m _ ⟨⟨_, rfl⟩, hc, hp⟩; exact ⟨⟨_, rfl⟩, hc, hp⟩
  write := by
    rintro m _ text ⟨⟨_, rfl⟩, ⟨texts, hP, htexts, hc⟩, hp⟩
    exact ⟨⟨_, rfl⟩, ⟨texts, hP, htexts, hc.write text⟩, hp⟩
  asked := by
    rintro m _ reply ⟨⟨_, rfl⟩, ⟨texts, hP, htexts, hc⟩, hp⟩
    exact (hc.feed reply).1
  feed := by
    rintro m _ reply ⟨⟨_, rfl⟩, ⟨texts, hP, htexts, hc⟩, hp⟩
    exact ⟨⟨_, rfl⟩, ⟨texts, hP, htexts, (hc.feed reply).2⟩, hp⟩
  trace := mirrors_trace
  finish := mirrors_finish
  ends := mirrors_finish none
  stop := by
    intro m m' name _ _
    refine simulates_stop (mirrors_finish none) ?_ ?_
    · rintro m _ ⟨⟨_, rfl⟩, _⟩; rfl
    · rintro m _ ⟨⟨_, rfl⟩, hc, hp⟩; exact ⟨⟨_, rfl⟩, hc, hp⟩

/-- A question is answered by the same text on both sides, as long as there is one. -/
theorem mirrors_ask (name : String) :
    Transfers (Mirrors (· ≠ [])) (Mirrors fun _ => True) (ask name) (ask name) := by
  rintro m _ ⟨⟨console, rfl⟩, ⟨texts, hne, htexts, hc⟩, hp⟩
  obtain ⟨text, texts, rfl⟩ := List.exists_cons_of_ne_nil hne
  obtain ⟨hstream, hbuffer, hmirrors⟩ := hc.ask (htexts text (by simp)) name
  have F := mirrors_runFrame fun _ => True
  have hreceive : Simulates (Mirrors fun _ => True) (receive name (some text))
      (receive name (some text)) :=
    F.toIntervalFrame.receive name fun e _ => mirrors_finish (some e)
  have hrest : ∀ text ∈ texts, IsReply text := fun text hmem => htexts text (by simp [hmem])
  rw [ask_eq, run_bind, run_bind, run_modify, run_modify]
  dsimp only
  rw [run_bind, run_bind, run_get, run_get]
  dsimp only
  rw [run_bind, run_bind, run_set, run_set]
  dsimp only at hstream hbuffer ⊢
  rw [hstream, hbuffer]
  exact hreceive ⟨⟨_, rfl⟩, ⟨texts, trivial, hrest, hmirrors⟩, hp⟩

/-- Requests that drive runs, of programs that do not clear the console. -/
def Request.KeepsConsole (request : Request) : Prop :=
  request.drives = true ∧
    ∀ source p, request = .run source → Program.load source = .ok p → p.KeepsConsole

theorem mirrors_receptive :
    Receptive Request.KeepsConsole (Mirrors P) (Mirrors P) (fun _ => True) := by
  have F := mirrors_runFrame P
  refine F.receptive (fun _ h => h.1) (fun source h => F.start source fun p hp => ?_)
    (fun fault _ => mirrors_finish fault) fun _ => mirrors_finish _
  have hkeeps : p.KeepsConsole := by
    rcases hp with rfl | hload
    · intro line hline
      cases hline
    · exact h.2 source p rfl hload
  rintro m _ ⟨⟨_, rfl⟩, hc, _⟩
  exact ⟨⟨_, rfl⟩, hc, hkeeps⟩

def HasLine (m : Machine) : Prop := ∃ s, m.console = .stream s ∧ s.unread ≠ []

/-- A statement that asks finds a line left. -/
def Provided (m : Machine) : Prop := (asksHere? m).isSome = true → HasLine m

theorem Mirrors.provided {name : String} (h : Mirrors (fun _ => True) m m')
    (hprovided : Provided m) (hasks : asksHere? m = some name) : Mirrors (· ≠ []) m m' := by
  obtain ⟨s, hs, hunread⟩ := hprovided (by rw [hasks]; rfl)
  obtain ⟨hrest, ⟨texts, -, htexts, hc⟩, hp⟩ := h
  refine ⟨hrest, ⟨texts, ?_, htexts, hc⟩, hp⟩
  rintro rfl
  obtain ⟨s', -, -, hs', -, -, hempty, -⟩ := hc
  cases hs.symm.trans hs'
  exact hunread hempty

/-- Machines that mirror each other do so for whole sessions, as long as there is a line for every
question. -/
theorem attuned_mirrors :
    Attuned Request.KeepsConsole Provided (Mirrors fun _ => True) (Mirrors fun _ => True)
      (fun _ => True) where
  toReceptive := mirrors_receptive
  cycle m m' h hprovided := by
    have F := mirrors_runFrame fun _ => True
    cases hasks : asksHere? m with
    | none =>
        refine F.cycle_quiet h hasks fun c m₀ hc hclears => ?_
        obtain ⟨line, hline, hmem⟩ := commandHere_mem hc
        rw [h.program line (List.mem_of_find?_eq_some hline) c hmem] at hclears
        cases hclears
    | some name =>
        exact (mirrors_runFrame (· ≠ [])).cycle_asking F (h.provided hprovided hasks) hasks
          (mirrors_ask name)

/-! ## A line for every question -/

def LinesLeft (n : Nat) (m : Machine) : Prop :=
  ∃ s, m.console = .stream s ∧ s.unread.count '\n' = n

theorem LinesLeft.hasLine {n : Nat} (h : LinesLeft n m) (hn : n ≠ 0) : HasLine m := by
  obtain ⟨s, hs, hcount⟩ := h
  refine ⟨s, hs, fun hempty => hn ?_⟩
  rw [← hcount, hempty]
  rfl

theorem unimpeded_linesLeft (n : Nat) : Unimpeded (LinesLeft n) where
  display _ _ h := h
  dice _ _ h := h
  log _ _ h := h
  vars _ _ h := h
  heap _ _ h := h
  loops _ _ h := h
  stack _ _ h := h
  jump _ _ h := h
  halt _ h := h
  write m text h := by
    obtain ⟨s, hs, hcount⟩ := h
    exact ⟨s.write text, by rw [hs]; rfl, hcount⟩
  clear m h := by
    obtain ⟨s, hs, hcount⟩ := h
    refine ⟨s.clear, by rw [hs]; rfl, ?_⟩
    unfold Stream.clear
    split <;> exact hcount
  ending m h := by
    unfold cancelTimer
    split <;> exact h
  completion _ _ h := h
  phase _ _ h := h
  land _ h := h
  move _ _ h := h
  waiting _ _ h := h
  delay _ _ h := h
  timers _ _ _ h := h
  feed m reply h := by
    obtain ⟨s, hs, hcount⟩ := h
    exact ⟨s, by rw [hs]; rfl, hcount⟩
  reset _ _ h := h

/-- Behind its first line, a text has one line break less. -/
theorem count_drop_line (cs : List Char) :
    (cs.drop ((cs.takeWhile (· != '\n')).length + 1)).count '\n' = cs.count '\n' - 1 := by
  induction cs with
  | nil => rfl
  | cons c cs ih =>
      by_cases hc : c = '\n'
      · subst hc
        simp
      · have htake : (c :: cs).takeWhile (· != '\n') = c :: cs.takeWhile (· != '\n') :=
          List.takeWhile_cons_of_pos (by simpa using hc)
        rw [htake, List.length_cons, List.drop_succ_cons, ih, List.count_cons_of_ne hc]

/-- A question takes one line. -/
theorem linesLeft_ask (n : Nat) (name : String) :
    Transfers (Below (LinesLeft n)) (Below (LinesLeft (n - 1))) (ask name) (ask name) := by
  rintro m _ ⟨rfl, s, hs, hcount⟩
  have F := (unimpeded_linesLeft (n - 1)).driveFrame
  have hreceive : Simulates (Below (LinesLeft (n - 1))) (receive name (some s.readLine.1))
      (receive name (some s.readLine.1)) :=
    F.toIntervalFrame.receive name fun e _ => F.finish (some e)
  have hread : LinesLeft (n - 1)
      { m with waiting := true, console := .stream s.readLine.2 } := by
    refine ⟨s.readLine.2, rfl, ?_⟩
    rw [← hcount]
    exact count_drop_line s.unread
  rw [ask_eq, run_bind, run_modify]
  dsimp only
  rw [run_bind, run_get]
  dsimp only
  rw [run_bind, run_set, hs]
  exact hreceive ⟨rfl, hread⟩

/-- Every question takes a line, and every other statement leaves the lines alone. -/
theorem recorded_linesLeft (total : Nat) :
    Recorded passed (fun request => request.drives = true)
      (fun ks m => LinesLeft (total - ks.countP fun k => (asksHere? k).isSome) m)
      (fun ks m => LinesLeft (total - ks.countP fun k => (asksHere? k).isSome) m) := by
  refine Receptive.recorded (fun ks => (unimpeded_linesLeft _).driveFrame.requests)
    (fun _ _ _ => rfl) (fun _ _ _ => rfl) (fun ks m h => ?_) []
  have F := (unimpeded_linesLeft
    (total - ks.countP fun k => (asksHere? k).isSome)).driveFrame
  have hm : Below (LinesLeft (total - ks.countP fun k => (asksHere? k).isSome)) m m := ⟨rfl, h⟩
  cases hasks : asksHere? m with
  | none =>
      have hcount : (ks ++ [m]).countP (fun k => (asksHere? k).isSome) =
          ks.countP fun k => (asksHere? k).isSome := by
        rw [List.countP_append, List.countP_cons, hasks]
        rfl
      have hcycle := F.toRunFrame.cycle_quiet hm hasks fun _ _ _ _ => F.clearConsole
      rw [← hcount] at hcycle
      exact hcycle.turns
  | some name =>
      have hcount : total - (ks ++ [m]).countP (fun k => (asksHere? k).isSome) =
          total - (ks.countP fun k => (asksHere? k).isSome) - 1 := by
        rw [List.countP_append, List.countP_cons, hasks, Nat.sub_sub]
        rfl
      have hcycle := F.toRunFrame.cycle_asking
        (unimpeded_linesLeft _).driveFrame.toRunFrame hm hasks (linesLeft_ask _ name)
      rw [← hcount] at hcycle
      exact hcycle.turns

/-- There is a line for every question, as long as there are at first as many lines as questions in
all. -/
theorem line_for_each_question {total n : Nat} {requests : List Request}
    (hrequests : ∀ request ∈ requests, request.drives = true) (hm : LinesLeft total m)
    (hcount : (trail n requests m).countP (fun k => (asksHere? k).isSome) ≤ total) :
    ∀ k ∈ trail n requests m, Provided k := by
  -- what is said of the record: all its questions were provided for, unless there were too many
  let good (ks : List Machine) : Prop :=
    ks.countP (fun k => (asksHere? k).isSome) ≤ total → ∀ k ∈ ks, Provided k
  have T := (recorded_linesLeft total).and (G := good) (fun _ _ _ h => h) (fun _ _ _ h => h) ?_
  · have hgood₀ : good [] := fun _ k hk => by cases hk
    have hm₀ : LinesLeft (total - [].countP fun k => (asksHere? k).isSome) m := by
      rw [List.countP_nil, Nat.sub_zero]
      exact hm
    have hlasts := T.attend n hrequests ⟨hm₀, hgood₀⟩
    rw [record_passed, List.nil_append] at hlasts
    have hgood : good (trail n requests m) := by
      unfold Lasts at hlasts
      split at hlasts
      · exact hlasts.2
      · obtain ⟨_, h | h⟩ := hlasts
        · exact h.2
        · exact h.2
    exact hgood hcount
  · intro ks k hleft hks hall j hj
    have happend : (ks ++ [k]).countP (fun k => (asksHere? k).isSome) =
        ks.countP (fun k => (asksHere? k).isSome) + if (asksHere? k).isSome then 1 else 0 := by
      rw [List.countP_append, List.countP_cons, List.countP_nil, Nat.zero_add]
    change (ks ++ [k]).countP (fun k => (asksHere? k).isSome) ≤ total at hall
    rw [happend] at hall
    rcases List.mem_append.mp hj with hj | hj
    · exact hks (by omega) j hj
    · cases List.mem_singleton.mp hj
      intro hasks
      rw [if_pos hasks] at hall
      exact hleft.hasLine (by omega)

/-! ## Whole sessions -/

/-- The machine with a stream that has the given texts to read, each on a line of its own. -/
def withStream (terminal : Bool) (texts : List String) (m : Machine) : Machine :=
  { m with console := .stream { terminal := terminal, unread := inputOf texts } }

/-- The machine with a buffer that has the given texts in its queue. -/
def withBuffer (texts : List String) (m : Machine) : Machine :=
  { m with console := .buffer { replies := texts.map some } }

/-- Two machines have shown the same text and agree in everything but their consoles: in variables
and arrays, in the delays asked for, in the phase and in how the run came out. -/
def Alike (m m' : Machine) : Prop :=
  m' = { m with console := m'.console } ∧ m.console.written = m'.console.written

theorem Mirrors.alike (h : Mirrors P m m') : Alike m m' := by
  obtain ⟨⟨console, rfl⟩, ⟨texts, -, -, hc⟩, -⟩ := h
  exact ⟨rfl, hc.written⟩

theorem mirrors_start (terminal : Bool) {texts : List String}
    (htexts : ∀ text ∈ texts, IsReply text) (hprogram : m.program.KeepsConsole) :
    Mirrors (fun _ => True) (withStream terminal texts m) (withBuffer texts m) where
  rest := ⟨.buffer { replies := texts.map some }, rfl⟩
  console := ⟨texts, trivial, htexts, _, _, [], rfl, rfl, rfl, rfl, (List.append_nil _).symm, rfl⟩
  program := hprogram

/-- A stream and a buffer with the same replies are as good as each other. Take any machine, any
requests that drive runs of programs which do not clear the console, and at least as many replies as
there are questions on the way. With a stream that has the replies to read, and with a buffer that
has them in its queue, the session gives the same answers, or has no result on both sides; and
before every statement and at the end the two machines have shown the same text and agree in
everything but their consoles. -/
theorem stream_buffer_agree (terminal : Bool) {texts : List String}
    (htexts : ∀ text ∈ texts, IsReply text) (hprogram : m.program.KeepsConsole)
    {requests : List Request} (hrequests : ∀ request ∈ requests, request.KeepsConsole) {n : Nat}
    (hcount : (trail n requests (withStream terminal texts m)).countP
      (fun k => (asksHere? k).isSome) ≤ texts.length) :
    InConcert Alike (fun _ => True) (attend n requests (withStream terminal texts m))
        (attend n requests (withBuffer texts m)) ∧
      List.Forall₂ Alike (trail n requests (withStream terminal texts m))
        (trail n requests (withBuffer texts m)) := by
  have hlines : LinesLeft texts.length (withStream terminal texts m) :=
    ⟨_, rfl, count_inputOf htexts⟩
  have hprovided :=
    line_for_each_question (fun request hmem => (hrequests request hmem).1) hlines hcount
  obtain ⟨hsession, htrail⟩ :=
    attuned_mirrors.attend hrequests (mirrors_start terminal htexts hprogram) hprovided
  exact ⟨hsession.imp fun _ _ h => h.alike, htrail.imp fun _ _ h => h.alike⟩

/-- The program that asks for a text reads it from a stream, and shows the same as with a buffer. -/
theorem stream_buffer_agree_greeting :
    ∃ m₁ m₂, attend 3 [.run "10 INPUT X$\n20 PRINT X$"] (withStream false ["A"]
        { constants := defaultConstants, functions := defaultFunctions }) =
          some ([.ok .nothing], m₁) ∧
      attend 3 [.run "10 INPUT X$\n20 PRINT X$"] (withBuffer ["A"]
        { constants := defaultConstants, functions := defaultFunctions }) =
          some ([.ok .nothing], m₂) ∧
      m₁.console.written = "A\n" ∧ Alike m₁ m₂ := by
  have hstart : (start "10 INPUT X$\n20 PRINT X$").run.run (withStream false ["A"]
      { constants := defaultConstants, functions := defaultFunctions }) =
        (.ok .goesOn, withStream false ["A"] (greetingWith [])) := by
    unfold start
    rw [load_greeting]
    rfl
  have hfollow : follow 3 (withStream false ["A"] (greetingWith [])) =
      some (.ok (), { greeted with console := .stream { written := "A\n" } }) := by
    with_unfolding_all rfl
  have hcount : (trail 3 [.run "10 INPUT X$\n20 PRINT X$"] (withStream false ["A"]
      { constants := defaultConstants, functions := defaultFunctions })).countP
        (fun k => (asksHere? k).isSome) = 1 := by
    have hasked : (moments 3 (withStream false ["A"] (greetingWith []))).countP
        (fun k => (asksHere? k).isSome) = 1 := by
      with_unfolding_all rfl
    rw [trail, handle, following, course_bind, followed_eq, Request.moments, momentsAfter, hstart]
    dsimp only
    rw [hfollow, List.countP_append, hasked]
    rfl
  have hattend : attend 3 [.run "10 INPUT X$\n20 PRINT X$"] (withStream false ["A"]
      { constants := defaultConstants, functions := defaultFunctions }) =
        some ([.ok .nothing], { greeted with console := .stream { written := "A\n" } }) := by
    rw [attend, handle, following, course_bind, followed_eq, hstart]
    dsimp only
    rw [hfollow]
    rfl
  have hkeeps : greeting.KeepsConsole := by
    intro line hline c hc
    simp only [greeting, List.mem_cons, List.not_mem_nil, or_false] at hline
    rcases hline with rfl | rfl
    · cases List.mem_singleton.mp hc
      rfl
    · cases List.mem_singleton.mp hc
      rfl
  have hrequests : ∀ request ∈ [Request.run "10 INPUT X$\n20 PRINT X$"], request.KeepsConsole := by
    intro request hrequest
    cases List.mem_singleton.mp hrequest
    refine ⟨rfl, fun source p hsource hload => ?_⟩
    cases hsource
    cases load_greeting.symm.trans hload
    exact hkeeps
  have htexts : ∀ text ∈ ["A"], IsReply text := by simp [IsReply]
  have hprogram : Program.empty.KeepsConsole := by
    intro line hline
    cases hline
  have hagree := (stream_buffer_agree false htexts hprogram hrequests hcount.le).1
  rw [hattend] at hagree
  obtain ⟨m₂, hbuffer, halike⟩ := hagree.result
  exact ⟨_, m₂, hattend, hbuffer, rfl, halike⟩

end Machine

end LineBasic

import LineBasic.Proofs.Machine.Session
import LineBasic.Proofs.Machine.Stepping

/-!
# Simulation of requests

`IntervalFrame R` extends `DataFrame R` by what happens between statements: the flags and the phase
of the run, the delay and its timer, and replies from outside. Every request that takes up a run or
leaves it alone then simulates itself, whatever the relation says of programs and lines
(`IntervalFrame.receptive`). `RunFrame R` puts this together with `MoveFrame R`.

`DriveFrame R` adds the start of the next run and a console that may be cleared, so that machines
related by `R` stay so over whole sessions (`DriveFrame.attuned`). Only the cycle is left open,
since a question that a statement asks may be what the relation is about; where questions simulate
themselves, so does the cycle (`DriveFrame.cycle`).

A property of one machine is the case of a relation below equality. `Unimpeded P` lists what such a
property has to survive.
-/

namespace LineBasic

/-- A reply that cannot be stored is a missing one. -/
theorem replyValue_error {name : String} {reply : Reply} {e : Fault}
    (h : replyValue name reply = .error e) : reply = none ∧ e = .absent := by
  unfold replyValue at h
  split at h
  · cases h
  · cases h
  · cases h
    exact ⟨rfl, rfl⟩
  · split at h
    · cases h
    · cases h

namespace Machine

variable {R : Machine → Machine → Prop}

/-- What happens between statements needs of a relation between machines that they agree on the
flags of the run, and stay related when these change, when a timer is set or taken off the queue,
and when a reply comes. -/
structure IntervalFrame (R : Machine → Machine → Prop) : Prop extends DataFrame R where
  phase : ∀ ⦃m m'⦄, R m m' → m.phase = m'.phase
  halted : ∀ ⦃m m'⦄, R m m' → m.halted = m'.halted
  waiting : ∀ ⦃m m'⦄, R m m' → m.waiting = m'.waiting
  delay : ∀ ⦃m m'⦄, R m m' → m.delay = m'.delay
  setPhase : ∀ ⦃m m'⦄ (p : Phase), R m m' → R { m with phase := p } { m' with phase := p }
  halt : ∀ ⦃m m'⦄, R m m' → R { m with halted := true } { m' with halted := true }
  setWaiting : ∀ ⦃m m'⦄ (b : Bool), R m m' → R { m with waiting := b } { m' with waiting := b }
  setDelay : ∀ ⦃m m'⦄ (d : Option Value), R m m' → R { m with delay := d } { m' with delay := d }
  setTimer : ∀ ⦃m m'⦄ (d : Float), R m m' →
    R { m with timers := (m.timers.set d).2, timer := some (m.timers.set d).1 }
      { m' with timers := (m'.timers.set d).2, timer := some (m'.timers.set d).1 }
  dropTimer : ∀ ⦃m m'⦄, R m m' → R { m with timer := none } { m' with timer := none }
  fires : ∀ ⦃m m'⦄, R m m' → m.timers.pop.1 = m'.timers.pop.1
  pop : ∀ ⦃m m'⦄, R m m' →
    R { m with timers := m.timers.pop.2 } { m' with timers := m'.timers.pop.2 }
  asked : ∀ ⦃m m'⦄ (reply : Reply), R m m' →
    (m.console.feed reply).1 = (m'.console.feed reply).1
  feed : ∀ ⦃m m'⦄ (reply : Reply), R m m' →
    R { m with console := (m.console.feed reply).2 }
      { m' with console := (m'.console.feed reply).2 }
  ends : Simulates R (finish none) (finish none)

structure RequestFrame (R : Machine → Machine → Prop) : Prop extends PlainFrame R, IntervalFrame R

/-- What whole cycles need of a relation between machines, beyond what statements need. -/
structure RunFrame (R : Machine → Machine → Prop) : Prop extends MoveFrame R, IntervalFrame R where
  jumped : ∀ ⦃m m'⦄, R m m' → m.jumped = m'.jumped
  land : ∀ ⦃m m'⦄, R m m' → R { m with jumped := false } { m' with jumped := false }
  move : ∀ ⦃m m'⦄ (n : Int), R m m' → R { m with cursor := n } { m' with cursor := n }

/-- What runs and requests need of a relation between machines, with a console that may be cleared
and whatever program is started next. -/
structure DriveFrame (R : Machine → Machine → Prop) : Prop extends PerformFrame R, RunFrame R,
    RequestFrame R where
  reset : ∀ ⦃m m'⦄ (p : Program), R m m' →
    R { reset m with program := p } { reset m' with program := p }

/-- A question is put to the console, and a reply that is there at once is stored. -/
theorem ask_eq (name : String) :
    ask name = (do
      modify fun m => { m with waiting := true }
      let m ← get
      set { m with console := (m.console.ask name).2 }
      match (m.console.ask name).1 with
      | some reply => receive name reply
      | none => return .quiet) := rfl

/-- A reply is handed to the console, and what it answers is stored. -/
theorem feed_eq (reply : Reply) :
    feed reply = (do
      let m ← get
      set { m with console := (m.console.feed reply).2 }
      match (m.console.feed reply).1 with
      | some name => react (← receive name reply)
      | none => return .stops) := rfl

namespace IntervalFrame

/-- Ending a run and stopping there. -/
theorem finished (F : IntervalFrame R) :
    Simulates R (do Machine.finish none; return .stops : Action Progress)
      (do Machine.finish none; return .stops) :=
  simulates_bind F.ends fun _ => simulates_pure _

theorem suspend (F : IntervalFrame R) (millis : Value) :
    Simulates R (suspend millis) (suspend millis) := by
  refine simulates_bind (simulates_modify fun m m' h => F.setPhase .paused h) fun _ => ?_
  refine simulates_bind (simulates_liftM _) fun delay => ?_
  refine simulates_bind (simulates_modify fun m m' h => F.setTimer delay h) fun _ => ?_
  exact simulates_pure _

theorem awaitReply (F : IntervalFrame R) : Simulates R awaitReply awaitReply := by
  refine simulates_get fun m m' h => ?_
  rw [F.waiting h]
  split
  · refine simulates_bind (simulates_modify fun m m' h => F.setPhase .waiting h) fun _ => ?_
    exact simulates_pure _
  · exact simulates_pure _

theorem boundary (F : IntervalFrame R) : Simulates R boundary boundary := by
  refine simulates_get fun m m' h => ?_
  have hhalts : m.halted = true ↔ m'.halted = true := by rw [F.halted h]
  by_cases hhalted : m.halted = true
  · rw [if_pos hhalted, if_pos (hhalts.mp hhalted)]
    exact F.finished
  · rw [if_neg hhalted, if_neg (mt hhalts.mpr hhalted)]
    refine simulates_bind (simulates_set (F.setDelay none h)) fun _ => ?_
    rw [F.delay h, F.heap h]
    split
    · split
      · exact F.suspend _
      · exact F.awaitReply
    · exact F.awaitReply

theorem goOn (F : IntervalFrame R) : Simulates R goOn goOn := by
  refine simulates_get fun m m' h => ?_
  rw [F.halted h]
  split
  · exact F.finished
  · refine simulates_bind (simulates_modify fun m m' h => F.setPhase .running h) fun _ => ?_
    exact simulates_pure _

/-- Taking up the run if it is suspended in the given way. -/
theorem goOnFrom (F : IntervalFrame R) (p : Phase) : Simulates R
    (do if (← get).phase = p then Machine.goOn else return .stops : Action Progress)
    (do if (← get).phase = p then Machine.goOn else return .stops) := by
  refine simulates_get fun m m' h => ?_
  rw [F.phase h]
  split
  · exact F.goOn
  · exact simulates_pure _

theorem wake (F : IntervalFrame R) : Simulates R wake wake := by
  refine simulates_bind (simulates_modify fun m m' h => F.dropTimer h) fun _ => ?_
  exact F.goOnFrom .paused

theorem resume (F : IntervalFrame R) : Simulates R resume resume := by
  refine simulates_get fun m m' h => ?_
  rw [F.phase h]
  split
  · exact simulates_pure _
  · refine simulates_bind (simulates_modify fun m m' h => F.setWaiting false h) fun _ => ?_
    exact F.goOnFrom .waiting

theorem react (F : IntervalFrame R) (reaction : Reaction) :
    Simulates R (react reaction) (react reaction) := by
  refine simulates_get fun m m' h => ?_
  rw [F.phase h]
  split
  · exact F.goOn
  · exact simulates_pure _

/-- A reply is stored alike; where it ends the run, this is up to the relation. -/
theorem receive (F : IntervalFrame R) (name : String) {reply : Reply}
    (hfault : ∀ e, replyValue name reply = .error e →
      Simulates R (Machine.finish (some e)) (Machine.finish (some e))) :
    Simulates R (receive name reply) (receive name reply) := by
  refine simulates_get fun m m' h => ?_
  rw [F.phase h]
  split
  · exact simulates_pure _
  · cases hvalue : replyValue name reply with
    | error e => exact simulates_bind (hfault e hvalue) fun _ => simulates_pure _
    | ok value =>
        refine simulates_bind (F.setVariable name value) fun _ => ?_
        refine simulates_bind (simulates_modify fun m m' h => F.setWaiting false h) fun _ => ?_
        exact simulates_pure _

/-- A question simulates itself where both consoles give the same reply to it. -/
theorem asking (F : IntervalFrame R)
    (hfault : ∀ e, Simulates R (Machine.finish (some e)) (Machine.finish (some e))) (name : String)
    (hreply : ∀ ⦃m m'⦄, R m m' → (m.console.ask name).1 = (m'.console.ask name).1)
    (hask : ∀ ⦃m m'⦄, R m m' → R { m with console := (m.console.ask name).2 }
      { m' with console := (m'.console.ask name).2 }) :
    Simulates R (Machine.ask name) (Machine.ask name) := by
  rw [ask_eq]
  refine simulates_bind (simulates_modify fun m m' h => F.setWaiting true h) fun _ => ?_
  refine simulates_get fun m m' h => ?_
  refine simulates_bind (simulates_set (hask h)) fun _ => ?_
  rw [hreply h]
  split
  · exact F.receive name fun e _ => hfault e
  · exact simulates_pure _

theorem feeding (F : IntervalFrame R) {reply : Reply}
    (hfault : ∀ name e, replyValue name reply = .error e →
      Simulates R (Machine.finish (some e)) (Machine.finish (some e))) :
    Simulates R (Machine.feed reply) (Machine.feed reply) := by
  rw [feed_eq]
  refine simulates_get fun m m' h => ?_
  refine simulates_bind (simulates_set (F.feed reply h)) fun _ => ?_
  rw [F.asked reply h]
  split
  · next name _ => exact simulates_bind (F.receive name (hfault name)) F.react
  · exact simulates_pure _

theorem press (F : IntervalFrame R) (key : String) : Simulates R (press key) (press key) := by
  refine simulates_get fun m m' h => ?_
  rw [F.display h]
  split
  · exact simulates_modify fun m m' h => F.setDisplay _ h
  · exact simulates_throw _

theorem stopping (F : IntervalFrame R) : Simulates R Machine.stop Machine.stop :=
  simulates_stop F.ends F.phase F.halt

theorem stopElsewhere (F : IntervalFrame R) : Simulates R stopElsewhere stopElsewhere := by
  refine simulates_get fun m m' h => ?_
  rw [F.phase h]
  split
  · exact simulates_pure _
  · exact simulates_modify fun m m' h => F.halt h

/-- Requests keep machines related. For the start of a run and for a fault from outside, where they
are allowed, this is up to the relation, and so it is for a reply that cannot be stored. -/
theorem receptive (F : IntervalFrame R) {A : Request → Prop}
    (hdrives : ∀ ⦃request⦄, A request → request.drives = true)
    (hstart : ∀ source, A (.run source) →
      Simulates R (Machine.start source) (Machine.start source))
    (hfinish : ∀ fault, A (.finish fault) →
      Simulates R (Machine.finish fault) (Machine.finish fault))
    (hfeed : A (.feed none) → Simulates R (Machine.finish (some .absent))
      (Machine.finish (some .absent))) : Receptive A R R (fun _ => True) where
  drives := hdrives
  start _ _ source hsource h := (hstart source hsource).matched h
  feed _ _ reply hreply h := by
    refine (F.feeding fun name e he => ?_).matched h
    obtain ⟨rfl, rfl⟩ := replyValue_error he
    exact hfeed hreply
  resume _ _ h := F.resume.matched h
  fires := F.fires
  wake _ _ h _ := F.wake.matched (F.pop h)
  drain _ _ h _ := F.pop h
  press _ _ key h := (F.press key).agrees h
  stop _ _ h := F.stopping.agrees h
  stopElsewhere _ _ h := F.stopElsewhere.agrees h
  finish _ _ fault hfault h := (hfinish fault hfault).agrees h

end IntervalFrame

namespace RunFrame

theorem moveOn (F : RunFrame R) : Simulates R Machine.moveOn Machine.moveOn :=
  F.toMoveFrame.moveOn F.phase F.jumped F.land F.move

theorem afterStep (F : RunFrame R) : Simulates R afterStep afterStep := by
  refine simulates_bind F.moveOn fun progress => ?_
  cases progress with
  | goesOn => exact F.boundary
  | stops => exact simulates_pure _

theorem pauseFor (F : RunFrame R) (v : Value) : Simulates R (pauseFor v) (pauseFor v) :=
  simulates_pauseFor F.heap F.trace F.setDelay v

theorem startProgram (F : RunFrame R) {p : Program}
    (hreset : ∀ ⦃m m'⦄, R m m' → R { reset m with program := p } { reset m' with program := p }) :
    Simulates R (startProgram p) (startProgram p) := by
  refine simulates_bind (simulates_modify hreset) fun _ => ?_
  split
  · exact F.finished
  · refine simulates_bind (simulates_modify fun m m' h => F.move _ h) fun _ => ?_
    refine simulates_bind (simulates_modify fun m m' h => F.setPhase .running h) fun _ => ?_
    exact simulates_pure _

/-- The start of a run simulates itself where machines stay related with the program that is loaded,
or with none. -/
theorem start (F : RunFrame R) (source : String)
    (hreset : ∀ p, p = .empty ∨ Program.load source = .ok p → ∀ ⦃m m'⦄, R m m' →
      R { reset m with program := p } { reset m' with program := p }) :
    Simulates R (start source) (start source) := by
  rw [start_eq]
  refine simulates_get fun m m' h => ?_
  rw [F.phase h]
  have hfails (fault : Fault) : Simulates R
      (do Machine.finish (some fault); return .stops : Action Progress)
      (do Machine.finish (some fault); return .stops) :=
    simulates_bind (F.finish _) fun _ => simulates_pure _
  have hlaunch : Simulates R (launch source) (launch source) := by
    unfold launch
    cases hload : Program.load source with
    | error fault =>
        refine simulates_bind (simulates_modify (hreset .empty (.inl rfl))) fun _ => ?_
        dsimp only
        split
        · exact simulates_bind (simulates_throw _) fun _ => hfails fault
        · exact hfails fault
    | ok p => exact F.startProgram (hreset p (.inr hload))
  dsimp only
  split
  · exact simulates_bind (simulates_throw _) fun _ => hlaunch
  · exact hlaunch

end RunFrame

namespace DriveFrame

/-- A cycle simulates itself where questions do. -/
theorem cycle (F : DriveFrame R)
    (hask : ∀ name, Simulates R (Machine.ask name) (Machine.ask name)) :
    Simulates R cycle cycle := by
  rw [cycle_eq_afterStep]
  exact simulates_bind (F.step F.pauseFor hask) fun _ => F.afterStep

theorem start (F : DriveFrame R) (source : String) :
    Simulates R (start source) (start source) :=
  F.toRunFrame.start source fun p _ _ _ h => F.reset p h

theorem requests (F : DriveFrame R) :
    Receptive (fun request => request.drives = true) R R (fun _ => True) :=
  F.receptive (fun _ h => h) (fun source _ => F.start source) (fun fault _ => F.finish fault)
    fun _ => F.finish _

/-- Machines that stay related by every cycle stay so over whole sessions. -/
theorem attuned (F : DriveFrame R) {Q : Machine → Prop}
    (hcycle : ∀ ⦃m m'⦄, R m m' → Q m → Matched R R (fun _ => True) (Machine.cycle.run.run m)
      (Machine.cycle.run.run m')) :
    Attuned (fun request => request.drives = true) Q R R (fun _ => True) where
  toReceptive := F.requests
  cycle := hcycle

end DriveFrame

/-- A property of one machine that survives whatever a statement or a request writes, a question
apart. -/
structure Unimpeded (P : Machine → Prop) : Prop extends Unaffected P where
  phase : ∀ ⦃m⦄ (p : Phase), P m → P { m with phase := p }
  land : ∀ ⦃m⦄, P m → P { m with jumped := false }
  move : ∀ ⦃m⦄ (n : Int), P m → P { m with cursor := n }
  waiting : ∀ ⦃m⦄ (b : Bool), P m → P { m with waiting := b }
  delay : ∀ ⦃m⦄ (d : Option Value), P m → P { m with delay := d }
  timers : ∀ ⦃m⦄ (t : Timers) (id : Option Nat), P m → P { m with timers := t, timer := id }
  feed : ∀ ⦃m⦄ (reply : Reply), P m → P { m with console := (m.console.feed reply).2 }
  reset : ∀ ⦃m⦄ (p : Program), P m → P { Machine.reset m with program := p }

namespace Unimpeded

variable {P : Machine → Prop}

theorem driveFrame (U : Unimpeded P) : DriveFrame (Below P) where
  toPerformFrame := U.performFrame
  phase := by rintro m _ ⟨rfl, h⟩; rfl
  jumped := by rintro m _ ⟨rfl, h⟩; rfl
  halted := by rintro m _ ⟨rfl, h⟩; rfl
  waiting := by rintro m _ ⟨rfl, h⟩; rfl
  delay := by rintro m _ ⟨rfl, h⟩; rfl
  setPhase := by rintro m _ p ⟨rfl, h⟩; exact ⟨rfl, U.phase p h⟩
  land := by rintro m _ ⟨rfl, h⟩; exact ⟨rfl, U.land h⟩
  move := by rintro m _ n ⟨rfl, h⟩; exact ⟨rfl, U.move n h⟩
  setWaiting := by rintro m _ b ⟨rfl, h⟩; exact ⟨rfl, U.waiting b h⟩
  setDelay := by rintro m _ d ⟨rfl, h⟩; exact ⟨rfl, U.delay d h⟩
  setTimer := by rintro m _ d ⟨rfl, h⟩; exact ⟨rfl, U.timers _ _ h⟩
  dropTimer := by rintro m _ ⟨rfl, h⟩; exact ⟨rfl, U.timers m.timers none h⟩
  fires := by rintro m _ ⟨rfl, h⟩; rfl
  pop := by rintro m _ ⟨rfl, h⟩; exact ⟨rfl, U.timers m.timers.pop.2 m.timer h⟩
  asked := by rintro m _ reply ⟨rfl, h⟩; rfl
  feed := by rintro m _ reply ⟨rfl, h⟩; exact ⟨rfl, U.feed reply h⟩
  ends := U.finish none
  reset := by rintro m _ p ⟨rfl, h⟩; exact ⟨rfl, U.reset p h⟩

/-- A cycle keeps the property if the question of its statement does, in case it asks one. -/
theorem cycle (U : Unimpeded P) {m : Machine}
    (hask : ∀ prompt name m₀,
      Machine.commandHere.run.run m = (.ok (some (.input prompt name)), m₀) →
      Simulates (Below P) (Machine.ask name) (Machine.ask name))
    (h : P m) : P (Machine.cycle.run.run m).2 := by
  have hstep := U.toUnaffected.step U.driveFrame.pauseFor hask h
  rw [cycle_eq_afterStep, run_bind]
  rcases hrun : step.run.run m with ⟨e | r, m₁⟩
  · rw [hrun] at hstep
    exact hstep
  · rw [hrun] at hstep
    exact U.driveFrame.afterStep.keeps hstep

end Unimpeded

end Machine

end LineBasic

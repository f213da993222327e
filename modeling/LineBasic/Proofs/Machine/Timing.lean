import LineBasic.Proofs.Machine.Session
import LineBasic.Proofs.Machine.Suspension
import Mathlib.Data.List.Nodup

/-!
# Timers and pauses

A pause sets a timer, and the end of a paused run cancels it. Timers outlast the state that has set
them: cancelled ones stay in the queue, and a timer that fires may lead to another pause. `Timed`
says that between requests exactly one timer is live when the machine is paused, the one that the
machine holds and the latest that was asked for, and that otherwise none is live and none is held.
Every cycle and every request keeps this, over any number of runs.
-/

namespace LineBasic

namespace Timers

/-- Timers stand in the queue in the order of their ids, which count the delays asked for. -/
structure Ordered (t : Timers) : Prop where
  ascending : t.queue.Pairwise fun a b => a.id < b.id
  below : ∀ timer ∈ t.queue, timer.id < t.asked.length

theorem Ordered.sublist {t : Timers} (h : t.Ordered) {queue : List Timer}
    (hqueue : queue.Sublist t.queue) : Ordered { t with queue := queue } :=
  ⟨h.ascending.sublist hqueue, fun timer htimer => h.below timer (hqueue.subset htimer)⟩

theorem Ordered.set {t : Timers} (h : t.Ordered) (delay : Float) : (t.set delay).2.Ordered where
  ascending := by
    refine List.pairwise_append.mpr ⟨h.ascending, by simp, fun a ha b hb => ?_⟩
    simp only [List.mem_singleton] at hb
    simpa [hb] using h.below a ha
  below timer htimer := by
    simp only [Timers.set, List.mem_append, List.mem_singleton, List.length_append,
      List.length_singleton] at htimer ⊢
    rcases htimer with htimer | rfl
    · exact Nat.lt_succ_of_lt (h.below timer htimer)
    · simp

theorem Ordered.cancel {t : Timers} (h : t.Ordered) (id : Nat) : (t.cancel id).Ordered where
  ascending := by
    refine List.pairwise_map.mpr (h.ascending.imp fun hlt => ?_)
    split <;> split <;> exact hlt
  below timer htimer := by
    obtain ⟨a, ha, rfl⟩ := List.mem_map.mp htimer
    have hbelow := h.below a ha
    split <;> exact hbelow

theorem Ordered.pop {t : Timers} (h : t.Ordered) : t.pop.2.Ordered := by
  have hdrop : (t.queue.dropWhile (·.cancelled)).Sublist t.queue := List.dropWhile_sublist _
  unfold Timers.pop
  split
  · exact h.sublist (List.nil_sublist _)
  · next hqueue =>
    rw [hqueue] at hdrop
    exact h.sublist ((List.sublist_cons_self _ _).trans hdrop)

/-- A timer in the queue is known by its id. -/
theorem Ordered.eq_of_id {t : Timers} (h : t.Ordered) {a b : Timer} (ha : a ∈ t.queue)
    (hb : b ∈ t.queue) (hid : a.id = b.id) : a = b := by
  have hdistinct : (t.queue.map (·.id)).Nodup :=
    List.pairwise_map.mpr (h.ascending.imp fun hlt => Nat.ne_of_lt hlt)
  exact List.inj_on_of_nodup_map hdistinct ha hb hid

theorem live_set (t : Timers) (delay : Float) :
    (t.set delay).2.live = t.live ++ [{ id := t.asked.length, delay := delay }] := by
  simp [live, set]

theorem live_cancel (t : Timers) (id : Nat) :
    (t.cancel id).live = t.live.filter (·.id != id) := by
  unfold live cancel
  induction t.queue with
  | nil => rfl
  | cons a rest ih =>
      by_cases hid : a.id = id <;> by_cases hcancelled : a.cancelled <;>
        simp_all

/-- The oldest live timer fires, and those behind it stay. -/
theorem pop_of_cons {t : Timers} {timer : Timer} {rest : List Timer}
    (h : t.live = timer :: rest) : t.pop.1 = true ∧ t.pop.2.live = rest := by
  have hdrop : ∀ queue : List Timer, queue.filter (!·.cancelled) = timer :: rest →
      ∃ more, queue.dropWhile (·.cancelled) = timer :: more ∧
        more.filter (!·.cancelled) = rest := by
    intro queue hqueue
    induction queue with
    | nil => cases hqueue
    | cons a queue ih =>
        by_cases hcancelled : a.cancelled
        · simp_all
        · simp_all
  obtain ⟨more, hmore, hrest⟩ := hdrop t.queue h
  simp [pop, live, hmore, hrest]

end Timers

namespace Machine

variable {m : Machine}

/-- Between requests: a paused machine holds the only live timer, which is the latest that was asked
for; otherwise no timer is live and none is held. A suspended run is ready to be taken up. -/
structure Timed (m : Machine) : Prop where
  ordered : m.timers.Ordered
  paused : m.phase = .paused → ∃ timer, m.timers.live = [timer] ∧ m.timer = some timer.id ∧
    timer.id + 1 = m.timers.asked.length
  quiet : m.phase ≠ .paused → m.timers.live = [] ∧ m.timer = none
  ready : m.phase = .paused ∨ m.phase = .waiting → m.jumped = false ∧ m.delay = none
  answered : m.phase = .paused → m.waiting = false

/-- Before a statement: the run is under way and no timer is live. -/
structure Untroubled (m : Machine) : Prop where
  underway : Underway m
  ordered : m.timers.Ordered
  live : m.timers.live = []

/-- At the end of a run: no timer is live and none is held. -/
structure Stilled (m : Machine) : Prop where
  phase : m.phase = .ended
  ordered : m.timers.Ordered
  live : m.timers.live = []
  timer : m.timer = none

theorem Stilled.timed (h : Stilled m) : Timed m where
  ordered := h.ordered
  paused hphase := by simp [h.phase] at hphase
  quiet _ := ⟨h.live, h.timer⟩
  ready hphase := by simp [h.phase] at hphase
  answered hphase := by simp [h.phase] at hphase

/-- Ending a run stills the machine: the timer that it holds is cancelled. -/
theorem stilled_finish (hended : m.phase = .ended → Stilled m) (hordered : m.timers.Ordered)
    (hlive : (cancelTimer m).timers.live = []) (fault : Option Fault) :
    Stilled ((finish fault).run.run m).2 := by
  have htrace : ∀ level message, Simulates (Below Stilled) (trace level message)
      (trace level message) := by
    refine fun level message => simulates_trace ?_ ?_ ?_ level message
    · rintro m _ ⟨rfl, h⟩; rfl
    · rintro m _ ⟨rfl, h⟩; rfl
    · rintro m _ r ⟨rfl, h⟩; exact ⟨rfl, h.phase, h.ordered, h.live, h.timer⟩
  have hconclude : Simulates (Below Stilled) (conclude fault) (conclude fault) := by
    refine simulates_conclude htrace ?_ ?_ ?_ fault
    · rintro m _ ⟨rfl, h⟩; rfl
    · rintro m _ ⟨rfl, h⟩; rfl
    · rintro m _ c ⟨rfl, h⟩; exact ⟨rfl, h.phase, h.ordered, h.live, h.timer⟩
  have hcancel : Stilled { cancelTimer m with phase := .ended } := by
    refine ⟨rfl, ?_, hlive, ?_⟩
    · unfold cancelTimer
      split
      · exact hordered.cancel _
      · exact hordered
    · unfold cancelTimer
      split
      · rfl
      · assumption
  rw [finish_eq, run_bind, run_get]
  dsimp only
  split
  · next h => exact hended h
  · rw [run_bind, run_modify]
    exact hconclude.keeps hcancel

theorem Timed.live_cancelTimer (h : Timed m) : (cancelTimer m).timers.live = [] := by
  by_cases hphase : m.phase = .paused
  · obtain ⟨timer, hlive, htimer, -⟩ := h.paused hphase
    simp [cancelTimer, htimer, Timers.live_cancel, hlive]
  · obtain ⟨hlive, htimer⟩ := h.quiet hphase
    rw [cancelTimer_none htimer]
    exact hlive

theorem Timed.finish (h : Timed m) (fault : Option Fault) :
    Timed ((finish fault).run.run m).2 := by
  refine (stilled_finish (fun hended => ?_) h.ordered h.live_cancelTimer fault).timed
  obtain ⟨hlive, htimer⟩ := h.quiet (by simp [hended])
  exact ⟨hended, h.ordered, hlive, htimer⟩

/-- What an action that may let a run go on comes to: the machine is at rest with its timers in
order, or untroubled before the next statement. -/
abbrev Rests (x : Except Fault Progress × Machine) : Prop :=
  Matched (Below Untroubled) (Below Timed) (fun _ => True) x x

/-- Ending a run and stopping there. -/
theorem rests_finish (fault : Option Fault) (h : Timed ((finish fault).run.run m).2) :
    Rests ((do finish fault; return .stops : Action Progress).run.run m) :=
  matched_finish h fun _ _ => trivial

/-! ## Cycles -/

/-- A cycle without a pause leaves the timers alone. -/
theorem unbrokenCycle_untimed (h : m.timer = none) :
    (unbrokenCycle.run.run m).2.timer = none := by
  have U := unaffected_untimed m.timers
  have F := U.performFrame
  have hstep : Simulates (Below (Untimed m.timers)) step step :=
    F.step (fun v => U.pauseFor (fun _ _ h => ⟨h.timers, h.timer⟩) v)
      fun name => U.ask (fun _ _ h => ⟨h.timers, h.timer⟩) (fun _ _ h => ⟨h.timers, h.timer⟩) name
  have hmove : Simulates (Below (Untimed m.timers)) moveOn moveOn := by
    refine F.moveOn ?_ ?_ ?_ ?_
    · rintro m _ ⟨rfl, h⟩; rfl
    · rintro m _ ⟨rfl, h⟩; rfl
    · rintro m _ ⟨rfl, h⟩; exact ⟨rfl, h.timers, h.timer⟩
    · rintro m _ n ⟨rfl, h⟩; exact ⟨rfl, h.timers, h.timer⟩
  have hboundary : Simulates (Below (Untimed m.timers)) unbrokenBoundary unbrokenBoundary := by
    refine simulates_get ?_
    rintro m _ ⟨rfl, h⟩
    split
    · exact simulates_bind (U.finish none) fun _ => simulates_pure _
    · refine simulates_bind (simulates_set ⟨rfl, h.timers, h.timer⟩) fun _ => simulates_get ?_
      rintro m _ ⟨rfl, h⟩
      split
      · refine simulates_bind (simulates_modify ?_) fun _ => simulates_pure _
        rintro m _ ⟨rfl, h⟩
        exact ⟨rfl, h.timers, h.timer⟩
      · exact simulates_pure _
  have hcycle : Simulates (Below (Untimed m.timers)) unbrokenCycle unbrokenCycle := by
    refine simulates_bind (simulates_bind hstep fun _ => hmove) fun progress => ?_
    cases progress with
    | goesOn => exact hboundary
    | stops => exact simulates_pure _
  exact (hcycle.keeps ⟨rfl, h⟩).timer

/-- A cycle without a pause that lets the run rest leaves it ended or waiting for a reply, or at
fault where it was. -/
theorem unbrokenCycle_rests (h : Underway m) {x : Except Fault Progress} {m₁ : Machine}
    (hcycle : unbrokenCycle.run.run m = (x, m₁)) (hx : x ≠ .ok .goesOn) :
    m₁.phase ≠ .paused ∧ (m₁.phase = .waiting → m₁.jumped = false ∧ m₁.delay = none) := by
  have hphase := advance_phase m
  rw [unbrokenCycle, run_cycleWith] at hcycle
  rcases hadvance : advance.run.run m with ⟨e | p, m₂⟩
  · rw [hadvance] at hcycle hphase
    cases hcycle
    dsimp only at hphase
    rcases hphase with hphase | hphase <;> simp [hphase, h.phase]
  · rw [hadvance] at hcycle
    cases p with
    | stops =>
        cases hcycle
        simp [advance_stops hadvance]
    | goesOn =>
        have hjumped := (advance_running h hadvance).2.2
        dsimp only at hcycle
        unfold unbrokenBoundary at hcycle
        rw [run_bind, run_get] at hcycle
        dsimp only at hcycle
        split at hcycle
        · simp [finish_then_phase hcycle]
        · rw [run_bind, run_set] at hcycle
          dsimp only at hcycle
          unfold awaitReply at hcycle
          rw [run_bind, run_get] at hcycle
          dsimp only at hcycle
          split at hcycle
          · cases hcycle
            simp [hjumped]
          · cases hcycle
            exact absurd rfl hx

/-- A cycle whose pause, if one is due, can be told in seconds keeps the timers in order. -/
theorem rests_cycle (h : Untroubled m)
    (hfits : ∀ v, duePause? m = some v → ∃ s, seconds v = .ok s) :
    Rests (cycle.run.run m) := by
  cases hdue : duePause? m with
  | none =>
      have huntimed := unbrokenCycle_untimed h.underway.timer
      have hcycle := run_cycle_of_not_due h.underway hdue m.timers
      rw [show { m with timers := m.timers } = m from rfl] at hcycle
      rw [hcycle]
      rcases hunbroken : unbrokenCycle.run.run m with ⟨x, m₁⟩
      rw [hunbroken] at huntimed
      have hrest : x ≠ .ok .goesOn → Timed { m₁ with timers := m.timers } := by
        intro hx
        obtain ⟨hpaused, hwaiting⟩ := unbrokenCycle_rests h.underway hunbroken hx
        exact ⟨h.ordered, fun hphase => absurd hphase hpaused, fun _ => ⟨h.live, huntimed⟩,
          fun hphase => hwaiting (hphase.resolve_left hpaused), fun hphase => absurd hphase hpaused⟩
      refine matched_below (fun hx => ?_) (fun hx => hrest (by simp_all)) fun e hx =>
        ⟨trivial, hrest (by simp_all)⟩
      dsimp only at hx
      rw [hx] at hunbroken
      have hunderway := h.underway.unbrokenCycle hunbroken
      exact ⟨⟨hunderway.phase, hunderway.jumped, hunderway.halted, hunderway.waiting,
        hunderway.delay, hunderway.timer⟩, h.ordered, h.live⟩
  | some v =>
      obtain ⟨s, hs⟩ := hfits v hdue
      obtain ⟨m₁, hunbroken, hcycle⟩ := run_cycle_of_due h.underway hdue
      have hunderway := h.underway.unbrokenCycle hunbroken
      have hpause := hcycle m.timers
      rw [show { m with timers := m.timers } = m from rfl, run_suspend hs] at hpause
      rw [hpause]
      refine .stops ⟨rfl, h.ordered.set s, fun _ => ?_, nofun, fun _ => ?_, fun _ => ?_⟩
      · exact ⟨_, by rw [pausedFor, Timers.live_set, h.live]; rfl, rfl,
          by simp [pausedFor, Timers.set]⟩
      · exact ⟨hunderway.jumped, hunderway.delay⟩
      · exact hunderway.waiting

/-! ## Requests -/

/-- Taking up a run that is suspended and holds no timer any more. -/
theorem rests_goOn (hordered : m.timers.Ordered) (hlive : m.timers.live = [])
    (htimer : m.timer = none) (hjumped : m.jumped = false) (hdelay : m.delay = none)
    (hwaiting : m.waiting = false) (hphase : m.phase ≠ .ended) : Rests (goOn.run.run m) := by
  unfold goOn
  rw [run_bind, run_get]
  dsimp only
  split
  · refine rests_finish none (stilled_finish ?_ hordered ?_ none).timed
    · exact fun hended => absurd hended hphase
    · rw [cancelTimer_none htimer]
      exact hlive
  · next hhalted =>
    refine .goesOn ⟨rfl, ⟨rfl, hjumped, ?_, hwaiting, hdelay, htimer⟩, hordered, hlive⟩
    simpa using hhalted

/-- A timer fires only when the machine is paused. -/
theorem Timed.fires (h : Timed m) : m.timers.pop.1 = true ↔ m.phase = .paused := by
  by_cases hphase : m.phase = .paused
  · obtain ⟨timer, hlive, -⟩ := h.paused hphase
    simp [hphase, (Timers.pop_of_cons hlive).1]
  · simp [hphase, Timers.pop_of_live (h.quiet hphase).1]

theorem rests_wake (h : Timed m) (hfires : m.timers.pop.1 = true) :
    Rests (wake.run.run { m with timers := m.timers.pop.2 }) := by
  have hphase := h.fires.mp hfires
  obtain ⟨timer, hlive, -⟩ := h.paused hphase
  obtain ⟨hjumped, hdelay⟩ := h.ready (.inl hphase)
  unfold wake
  rw [run_bind, run_modify]
  dsimp only
  rw [run_bind, run_get]
  dsimp only
  rw [if_pos hphase]
  exact rests_goOn h.ordered.pop (Timers.pop_of_cons hlive).2 rfl hjumped hdelay
    (h.answered hphase) (by simp [hphase])

/-- Taking up a run that waits for a reply, once the reply is there. -/
theorem rests_goOn_of_waiting (h : Timed m) (hphase : m.phase = .waiting)
    (hwaiting : m.waiting = false) : Rests (goOn.run.run m) := by
  obtain ⟨hlive, htimer⟩ := h.quiet (by simp [hphase])
  obtain ⟨hjumped, hdelay⟩ := h.ready (.inr hphase)
  exact rests_goOn h.ordered hlive htimer hjumped hdelay hwaiting (by simp [hphase])

theorem Timed.released (h : Timed m) : Timed { m with waiting := false } :=
  ⟨h.ordered, h.paused, h.quiet, h.ready, fun _ => rfl⟩

theorem rests_resume (h : Timed m) : Rests (resume.run.run m) := by
  unfold resume
  rw [run_bind, run_get]
  dsimp only
  split
  · exact .stops ⟨rfl, h⟩
  · rw [run_bind, run_modify]
    dsimp only
    rw [run_bind, run_get]
    dsimp only
    split
    · next hphase => exact rests_goOn_of_waiting h.released hphase rfl
    · exact .stops ⟨rfl, h.released⟩

/-- A reply is stored or ends the run, and the timers stay in order. -/
theorem rests_receive (h : Timed m) (name : String) (reply : Reply) :
    Rests ((do react (← receive name reply) : Action Progress).run.run m) := by
  have hquiet : ∀ {m₁}, Timed m₁ → Rests ((react .quiet).run.run m₁) := by
    intro m₁ h₁
    exact .stops ⟨rfl, h₁⟩
  rw [run_bind, receive, run_bind, run_get]
  dsimp only
  by_cases hended : m.phase = .ended
  · rw [if_pos hended]
    exact hquiet h
  · rw [if_neg hended]
    cases replyValue name reply with
    | error e =>
        have hfinished := h.finish (some e)
        dsimp only
        rw [run_bind]
        rcases hrun : (finish (some e)).run.run m with ⟨e' | _, m₁⟩
        · rw [hrun] at hfinished
          exact .error trivial ⟨rfl, hfinished⟩
        · rw [hrun] at hfinished
          exact hquiet hfinished
    | ok value =>
        have hstored : Timed { m with vars := m.vars.insert name value, waiting := false } :=
          ⟨h.ordered, h.paused, h.quiet, h.ready, fun _ => rfl⟩
        change Rests ((react .replied).run.run
          { m with vars := m.vars.insert name value, waiting := false })
        unfold react
        rw [run_bind, run_get]
        dsimp only
        split
        · next hphase => exact rests_goOn_of_waiting hstored hphase.2 rfl
        · exact .stops ⟨rfl, hstored⟩

theorem rests_feed (h : Timed m) (reply : Reply) : Rests ((feed reply).run.run m) := by
  have hfed : Timed { m with console := (m.console.feed reply).2 } :=
    ⟨h.ordered, h.paused, h.quiet, h.ready, h.answered⟩
  unfold feed
  rw [run_bind, run_get]
  dsimp only
  rw [run_bind, run_set]
  dsimp only
  split
  · exact rests_receive hfed _ reply
  · exact .stops ⟨rfl, hfed⟩

/-- The start of a run finds no live timer, since the run before it has ended. -/
theorem rests_start (h : Timed m) (source : String) : Rests ((start source).run.run m) := by
  rw [start_eq, run_bind, run_get]
  dsimp only
  split
  · exact .error trivial ⟨rfl, h⟩
  · next hfree =>
    obtain ⟨hlive, -⟩ := h.quiet fun hphase => hfree (.inr (.inl hphase))
    have hreset : ∀ program, Timed { reset m with program := program } := fun _ =>
      ⟨h.ordered, nofun, fun _ => ⟨hlive, rfl⟩, fun _ => ⟨rfl, rfl⟩, nofun⟩
    unfold launch
    rw [run_bind, run_modify]
    dsimp only
    cases hload : Program.load source with
    | error e =>
        dsimp only
        split
        · exact .error trivial ⟨rfl, hreset .empty⟩
        · exact rests_finish _ ((hreset .empty).finish _)
    | ok p =>
        dsimp only
        rw [run_bind, run_modify]
        dsimp only
        cases p.first? with
        | none => exact rests_finish _ ((hreset p).finish _)
        | some line => exact .goesOn ⟨rfl, ⟨rfl, rfl, rfl, rfl, rfl, rfl⟩, h.ordered, hlive⟩

theorem timed_stop (h : Timed m) : Timed (stop.run.run m).2 := by
  have hhalted : Timed { m with halted := true } :=
    ⟨h.ordered, h.paused, h.quiet, h.ready, h.answered⟩
  unfold stop
  rw [run_bind, run_get]
  dsimp only
  split
  · exact h
  · rw [run_bind, halt, run_modify]
    dsimp only
    rw [run_bind, run_get]
    dsimp only
    split
    · exact hhalted.finish none
    · exact hhalted

/-- Sessions keep the timers in order, as long as every due pause can be told in seconds. -/
theorem attuned_timed : Attuned (fun request => request.drives = true)
    (fun k => ∀ v, duePause? k = some v → ∃ s, seconds v = .ok s)
    (Below Untroubled) (Below Timed) (fun _ => True) where
  drives _ h := h
  cycle := by
    rintro m _ ⟨rfl, h⟩ hfits
    exact rests_cycle h hfits
  start := by
    rintro m _ source - ⟨rfl, h⟩
    exact rests_start h source
  feed := by
    rintro m _ reply - ⟨rfl, h⟩
    exact rests_feed h reply
  resume := by
    rintro m _ ⟨rfl, h⟩
    exact rests_resume h
  fires := by
    rintro m _ ⟨rfl, h⟩
    rfl
  wake := by
    rintro m _ ⟨rfl, h⟩ hfires
    exact rests_wake h hfires
  drain := by
    rintro m _ ⟨rfl, h⟩ hfires
    have hphase : m.phase ≠ .paused := fun hphase => by simp [h.fires.mpr hphase] at hfires
    obtain ⟨hlive, htimer⟩ := h.quiet hphase
    refine ⟨rfl, h.ordered.pop, fun hpaused => absurd hpaused hphase, fun _ => ⟨?_, htimer⟩,
      h.ready, h.answered⟩
    simp [Timers.pop_of_live hlive, Timers.live]
  press := by
    rintro m _ key ⟨rfl, h⟩
    refine agrees_below ?_ fun _ _ => trivial
    unfold press
    rw [run_bind, run_get]
    dsimp only
    split
    · exact ⟨h.ordered, h.paused, h.quiet, h.ready, h.answered⟩
    · exact h
  stop := by
    rintro m _ ⟨rfl, h⟩
    exact agrees_below (timed_stop h) fun _ _ => trivial
  stopElsewhere := by
    rintro m _ ⟨rfl, h⟩
    refine agrees_below ?_ fun _ _ => trivial
    unfold stopElsewhere
    rw [run_bind, run_get]
    dsimp only
    split
    · exact h
    · exact ⟨h.ordered, h.paused, h.quiet, h.ready, h.answered⟩
  finish := by
    rintro m _ fault - ⟨rfl, h⟩
    exact agrees_below (h.finish fault) fun _ _ => trivial

theorem IsNew.timed (h : IsNew m) : Timed m := by
  rw [h]
  exact ⟨⟨.nil, nofun⟩, nofun, fun _ => ⟨rfl, rfl⟩, by simp, nofun⟩

/-- Timers and pauses correspond. Whatever a new machine is asked, over one or several runs, as long
as every due pause can be told in seconds: it is paused just when a timer is live, and then there is
one, which the machine holds, which no other timer in the queue can be taken for, and which is the
latest that was asked for. So a timer of an earlier pause or an earlier run wakes nothing: no timer
fires unless the machine is paused, and the one that fires then belongs to that pause. -/
theorem attend_timers_pauses {m₀ : Machine} (hnew : IsNew m₀) (n : Nat) {requests : List Request}
    (hdrives : ∀ request ∈ requests, request.drives = true)
    (hfits : ∀ k ∈ trail n requests m₀, ∀ v, duePause? k = some v → ∃ s, seconds v = .ok s)
    {answers : List (Except Fault Value)} {m : Machine}
    (hattend : attend n requests m₀ = some (answers, m)) :
    (m.phase = .paused → ∃ timer, m.timers.live = [timer] ∧ m.timer = some timer.id ∧
      (∀ other ∈ m.timers.queue, other.id = timer.id → other = timer) ∧
      timer.id + 1 = m.timers.asked.length) ∧
    (m.phase ≠ .paused → m.timers.live = [] ∧ m.timer = none) ∧
    (m.timers.pop.1 = true ↔ m.phase = .paused) := by
  have h := (attuned_timed.attend_below hdrives hnew.timed hfits hattend).1
  refine ⟨fun hphase => ?_, h.quiet, h.fires⟩
  obtain ⟨timer, hlive, htimer, hlatest⟩ := h.paused hphase
  have hqueue : timer ∈ m.timers.queue := by
    have hmem : timer ∈ m.timers.live := by simp [hlive]
    exact List.mem_of_mem_filter hmem
  exact ⟨timer, hlive, htimer,
    fun other hother hid => h.ordered.eq_of_id hother hqueue hid, hlatest⟩

/-- A run is paused, and is asked to stop while a statement of it may be under way elsewhere: the
timer of the pause stays live. -/
theorem attend_timers_pauses_pausing :
    ∃ answers m, attend 1 [.run "10 PAUSE 5\n20 PRINT \"A\"", .stopElsewhere]
        { constants := defaultConstants, functions := defaultFunctions } = some (answers, m) ∧
      m.phase = .paused ∧ ∃ timer, m.timers.live = [timer] ∧ m.timer = some timer.id ∧
        timer.id + 1 = m.timers.asked.length := by
  have hnew : IsNew { constants := defaultConstants, functions := defaultFunctions } := rfl
  obtain ⟨s, hs, hcycle, hrun⟩ := handle_run_pausing
  have hattend : ∃ answers m, attend 1 [.run "10 PAUSE 5\n20 PRINT \"A\"", .stopElsewhere]
      { constants := defaultConstants, functions := defaultFunctions } = some (answers, m) ∧
        m.phase = .paused := by
    rw [attend, hrun]
    exact ⟨_, _, rfl, rfl⟩
  obtain ⟨answers, m, hattend, hphase⟩ := hattend
  have htrail : trail 1 [.run "10 PAUSE 5\n20 PRINT \"A\"", .stopElsewhere]
      { constants := defaultConstants, functions := defaultFunctions } = [pausingAt 10] := by
    rw [trail, hrun, Request.moments, momentsAfter, start_pausing]
    dsimp only
    rw [moments, hcycle]
    rfl
  obtain ⟨hpaused, -⟩ := attend_timers_pauses hnew 1 (by simp [Request.drives]) (by
    intro k hk v hv
    rw [htrail, List.mem_singleton] at hk
    rw [hk, duePause_pausing] at hv
    cases hv
    exact ⟨s, hs⟩) hattend
  obtain ⟨timer, hlive, htimer, -, hlatest⟩ := hpaused hphase
  exact ⟨answers, m, hattend, hphase, timer, hlive, htimer, hlatest⟩

end Machine

end LineBasic

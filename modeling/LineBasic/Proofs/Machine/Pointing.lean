import LineBasic.Proofs.Machine.Anchoring
import LineBasic.Proofs.Program.Remarking

/-!
# The cursor before a statement

A machine that is not in a run has its cursor in front of all lines, at minus one. Before a statement
the cursor is on a number that a line may have: a run starts on a line and goes to the next one, to
the target of a jump or back to where it came from. A run that is taken up again stands on a line of
its program.
-/

namespace LineBasic

/-- Calls come back to numbers that a line may have. -/
theorem Control.Anchored.nonneg {C : Control} (h : C.Anchored) : ∀ n ∈ C.stack, 0 ≤ n := by
  intro n hn
  rcases h.stack n hn with hfound | ⟨last, -, rfl⟩
  · obtain ⟨line, hline⟩ := Option.isSome_iff_exists.mp hfound
    have hnumber := (Program.find?_eq_some.mp hline).2
    omega
  · omega

/-- A command leaves the cursor on a number that a line may have. -/
theorem Turn.nonneg {C C₁ : Control} {c : Option Command} (h : Turn C c C₁) (hC : C.Anchored)
    (hcursor : 0 ≤ C.cursor) : 0 ≤ C₁.cursor := by
  cases h with
  | jump target => exact Int.natCast_nonneg target
  | call target => exact Int.natCast_nonneg target
  | comeBack htop => exact hC.nonneg _ (by rw [htop]; exact List.mem_cons_self)
  | nextBack _ _ => exact Int.natCast_nonneg _
  | _ => exact hcursor

namespace Machine

variable {k m m₁ : Machine}

theorem cycle_nonneg (h : k.control.Anchored) (hcursor : 0 ≤ k.cursor) :
    0 ≤ (cycle.run.run k).2.cursor := by
  obtain ⟨c, hturn, -⟩ := exists_turn k
  have hstep : 0 ≤ (step.run.run k).2.cursor := hturn.nonneg h hcursor
  rcases (lands_cycle k).cursor with hsame | ⟨-, line, -, hmoved⟩
  · have hcycle : (cycle.run.run k).2.cursor = (step.run.run k).2.cursor := hsame
    rwa [hcycle]
  · have hcycle : (cycle.run.run k).2.cursor = (line.number : Int) := hmoved
    omega

/-! ## Where a run is taken up -/

/-- A run that starts is on its first line. -/
theorem start_nonneg {source : String} (hrun : (start source).run.run m = (.ok .goesOn, m₁)) :
    0 ≤ m₁.cursor := by
  rw [start_eq, run_bind, run_get] at hrun
  dsimp only at hrun
  split at hrun
  · cases hrun
  · unfold launch at hrun
    rw [run_bind, run_modify] at hrun
    dsimp only at hrun
    split at hrun
    · split at hrun
      · cases hrun
      · exact absurd hrun (finish_then_ne nofun)
    · rw [run_bind, run_modify] at hrun
      dsimp only at hrun
      split at hrun
      · exact absurd hrun (finish_then_ne nofun)
      · next line _ =>
        cases hrun
        exact Int.natCast_nonneg line.number

theorem wake_goesOn (hrun : wake.run.run m = (.ok .goesOn, m₁)) : m.phase = .paused := by
  unfold wake at hrun
  rw [run_bind, run_modify] at hrun
  dsimp only at hrun
  rw [run_bind, run_get] at hrun
  dsimp only at hrun
  split at hrun
  · next hpaused => exact hpaused
  · cases hrun

theorem resume_goesOn (hrun : resume.run.run m = (.ok .goesOn, m₁)) : m.phase = .waiting := by
  unfold resume at hrun
  rw [run_bind, run_get] at hrun
  dsimp only at hrun
  split at hrun
  · cases hrun
  · rw [run_bind, run_modify] at hrun
    dsimp only at hrun
    rw [run_bind, run_get] at hrun
    dsimp only at hrun
    split at hrun
    · next hwaiting => exact hwaiting
    · cases hrun

/-- A reply that is stored leaves the phase as it is. -/
theorem receive_replied {name : String} {reply : Reply}
    (hrun : (receive name reply).run.run m = (.ok .replied, m₁)) : m₁.phase = m.phase := by
  unfold receive at hrun
  rw [run_bind, run_get] at hrun
  dsimp only at hrun
  split at hrun
  · cases hrun
  · split at hrun
    · exact absurd hrun (finish_then_ne nofun)
    · cases hrun
      rfl

theorem feed_goesOn {reply : Reply} (hrun : (feed reply).run.run m = (.ok .goesOn, m₁)) :
    m.phase = .waiting := by
  unfold feed at hrun
  rw [run_bind, run_get] at hrun
  dsimp only at hrun
  rw [run_bind, run_set] at hrun
  dsimp only at hrun
  split at hrun
  · next name _ =>
    rw [run_bind] at hrun
    rcases hreceive : (receive name reply).run.run { m with console := (m.console.feed reply).2 } with
      ⟨e | reaction, m₂⟩
    · rw [hreceive] at hrun
      cases hrun
    · rw [hreceive] at hrun
      dsimp only at hrun
      unfold react at hrun
      rw [run_bind, run_get] at hrun
      dsimp only at hrun
      split at hrun
      · next htaken =>
        obtain ⟨rfl, hwaiting⟩ := htaken
        exact (receive_replied hreceive).symm.trans hwaiting
      · cases hrun
  · cases hrun

/-- A suspended run that is taken up where it stands is on a number that a line may have. -/
theorem Moored.nonneg (h : Moored m) (hphase : m.phase = .paused ∨ m.phase = .waiting)
    (hstands : StandsWith m m₁) : 0 ≤ m₁.cursor := by
  obtain ⟨line, hline⟩ := Option.isSome_iff_exists.mp (h.suspended hphase).1
  have hnumber := (Program.find?_eq_some.mp hline).2
  obtain ⟨waiting, hcontrol⟩ := hstands
  have hcursor : m₁.cursor = m.cursor := congrArg Control.cursor hcontrol
  omega

/-- Where a run goes on there may be more to say of the machine. -/
theorem Matched.goesOn_and {P P' S : Machine → Prop} {E : Fault → Prop}
    {x : Except Fault Progress × Machine} (h : Matched (Below P) (Below P') E x x)
    (hS : ∀ m₁, x = (.ok .goesOn, m₁) → S m₁) :
    Matched (Below fun m => P m ∧ S m) (Below P') E x x := by
  cases h with
  | goesOn h => exact .goesOn ⟨rfl, h.2, hS _ rfl⟩
  | stops h => exact .stops h
  | error he h => exact .error he h

/-- Sessions keep the cursor on numbers that a line may have, wherever a statement follows. -/
theorem attuned_pointed : Attuned (fun request => request.drives = true) (fun _ => True)
    (Below fun m => Poised m ∧ 0 ≤ m.cursor) (Below Moored) (fun _ => True) where
  drives _ h := h
  cycle := by
    rintro m _ ⟨rfl, h, hcursor⟩ -
    refine (moors_cycle h).goesOn_and fun m₁ hrun => ?_
    have hnonneg := cycle_nonneg h.anchored hcursor
    rwa [hrun] at hnonneg
  start := by
    rintro m _ source - ⟨rfl, h⟩
    exact (moors_start h source).goesOn_and fun m₁ hrun => start_nonneg hrun
  feed := by
    rintro m _ reply - ⟨rfl, h⟩
    refine (moors_feed h reply).goesOn_and fun m₁ hrun => ?_
    have hstands := standsWith_feed reply m
    rw [hrun] at hstands
    exact h.nonneg (.inr (feed_goesOn hrun)) hstands
  resume := by
    rintro m _ ⟨rfl, h⟩
    refine (moors_resume h).goesOn_and fun m₁ hrun => ?_
    have hstands := standsWith_resume m
    rw [hrun] at hstands
    exact h.nonneg (.inr (resume_goesOn hrun)) hstands
  fires := attuned_moored.fires
  wake := by
    rintro m _ ⟨rfl, h⟩ -
    have hpopped : Moored { m with timers := m.timers.pop.2 } :=
      ⟨h.anchored.of_eq rfl rfl rfl, h.suspended, h.answered⟩
    refine (moors_wake hpopped).goesOn_and fun m₁ hrun => ?_
    have hstands := neutral_wake.standsWith (m := { m with timers := m.timers.pop.2 })
    rw [hrun] at hstands
    exact hpopped.nonneg (.inl (wake_goesOn hrun)) hstands
  drain := attuned_moored.drain
  press := attuned_moored.press
  stop := attuned_moored.stop
  stopElsewhere := attuned_moored.stopElsewhere
  finish := attuned_moored.finish

end Machine

end LineBasic

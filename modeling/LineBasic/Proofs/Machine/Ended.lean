import LineBasic.Proofs.Machine.Session

/-!
# A machine that has ended

A machine that has ended takes no notice of requests until it is asked to run again: replies and
keys are kept for later, timers fire in vain, and there is an end to them. `Inert` says what may
change.
-/

namespace LineBasic

theorem Console.written_feed (c : Console) (reply : Reply) :
    (c.feed reply).2.written = c.written := by
  cases c with
  | buffer b =>
      simp only [feed]
      split <;> rfl
  | stream s => rfl

theorem Timers.length_pop {t : Timers} (h : t.pop.1 = true) :
    t.pop.2.queue.length < t.queue.length := by
  have hdrop : (t.queue.dropWhile (·.cancelled)).length ≤ t.queue.length :=
    (List.dropWhile_sublist _).length_le
  unfold pop at h ⊢
  split
  · next hnone => simp [hnone] at h
  · next hsome =>
    simp only [hsome, List.length_cons] at hdrop
    exact hdrop

namespace Machine

variable {m : Machine}

/-- What requests may change of a machine that has ended: the replies and the keys that are kept for
later, and the timers. -/
structure Inert (m m₁ : Machine) : Prop where
  rest : ∃ console display timers timer,
    m₁ = { m with console := console, display := display, timers := timers, timer := timer }
  written : m₁.console.written = m.console.written
  pixels : m₁.display.map (·.pixels) = m.display.map (·.pixels)

namespace Inert

theorem refl (m : Machine) : Inert m m := ⟨⟨_, _, _, _, rfl⟩, rfl, rfl⟩

theorem trans {m₁ m₂ : Machine} (h : Inert m m₁) (h' : Inert m₁ m₂) : Inert m m₂ := by
  obtain ⟨_, _, _, _, rfl⟩ := h.rest
  obtain ⟨_, _, _, _, rfl⟩ := h'.rest
  exact ⟨⟨_, _, _, _, rfl⟩, h'.written.trans h.written, h'.pixels.trans h.pixels⟩

theorem phase {m₁ : Machine} (h : Inert m m₁) : m₁.phase = m.phase := by
  obtain ⟨_, _, _, _, rfl⟩ := h.rest
  rfl

end Inert

theorem run_resume_of_ended (h : m.phase = .ended) : resume.run.run m = (.ok .stops, m) := by
  unfold resume
  rw [run_bind, run_get]
  dsimp only
  rw [if_pos h, run_pure]

theorem run_stop_of_ended (h : m.phase = .ended) : stop.run.run m = (.ok (), m) := by
  unfold stop
  rw [run_bind, run_get]
  dsimp only
  rw [if_pos h]
  rfl

theorem run_stopElsewhere_of_ended (h : m.phase = .ended) :
    stopElsewhere.run.run m = (.ok (), m) := by
  unfold stopElsewhere
  rw [run_bind, run_get]
  dsimp only
  rw [if_pos h]
  rfl

theorem run_finish_of_ended (h : m.phase = .ended) (fault : Option Fault) :
    (finish fault).run.run m = (.ok (), m) := by
  rw [finish_eq, run_bind, run_get]
  dsimp only
  rw [if_pos h]
  rfl

/-- A reply to a question that an ended run has left open is lost, any other is kept for later. -/
theorem run_feed_of_ended (h : m.phase = .ended) (reply : Reply) :
    (feed reply).run.run m = (.ok .stops, { m with console := (m.console.feed reply).2 }) := by
  unfold feed
  rw [run_bind, run_get]
  dsimp only
  rw [run_bind, run_set]
  dsimp only
  split
  · unfold receive react
    simp only [run_bind, run_get, if_pos h, run_pure]
    rfl
  · rfl

theorem tick_of_ended (h : m.phase = .ended) (n : Nat) :
    ∃ m₁, tick n m = some (.ok m.timers.pop.1, m₁) ∧ Inert m m₁ ∧ m₁.timers = m.timers.pop.2 := by
  rw [tick_eq]
  rcases m.timers.pop with ⟨fires, timers⟩
  cases fires with
  | false => exact ⟨_, rfl, ⟨⟨_, _, _, _, rfl⟩, rfl, rfl⟩, rfl⟩
  | true =>
      have hwake : wake.run.run { m with timers := timers } =
          (.ok .stops, { m with timers := timers, timer := none }) := by
        have hphase : ¬ m.phase = .paused := by simp [h]
        unfold wake
        simp only [run_bind, run_modify, run_get, if_neg hphase, run_pure]
      dsimp only
      rw [followed_eq, hwake]
      exact ⟨_, rfl, ⟨⟨_, _, _, _, rfl⟩, rfl, rfl⟩, rfl⟩

/-- Timers that fire after the end of a run change nothing, and there is an end to them. -/
theorem tickAll_of_ended (h : m.phase = .ended) (n t : Nat) :
    (∀ x, tickAll n t m = some x → Inert m x.2) ∧
      (m.timers.queue.length < t → (tickAll n t m).isSome = true) := by
  induction t generalizing m with
  | zero => simp [tickAll]
  | succ t ih =>
      obtain ⟨m₁, htick, hinert, htimers⟩ := tick_of_ended h n
      rw [tickAll_succ, htick]
      cases hfires : m.timers.pop.1 with
      | false =>
          refine ⟨?_, fun _ => rfl⟩
          rintro _ ⟨⟩
          exact hinert
      | true =>
          obtain ⟨hsame, hsome⟩ := ih (hinert.phase.trans h)
          have hlength := Timers.length_pop hfires
          rw [← htimers] at hlength
          dsimp only
          cases hrest : tickAll n t m₁ with
          | none =>
              refine ⟨by simp, fun hlt => ?_⟩
              rw [hrest] at hsome
              exact hsome (by omega)
          | some y =>
              have hy := hinert.trans (hsame y hrest)
              rcases y with ⟨_ | _, m₂⟩
              · exact ⟨by rintro _ ⟨⟩; exact hy, fun _ => rfl⟩
              · exact ⟨by rintro _ ⟨⟩; exact hy, fun _ => rfl⟩

/-- A machine that has ended answers every request other than a run, and is left as it was. -/
theorem handle_of_ended (h : m.phase = .ended) {request : Request} (hdrives : request.drives = true)
    (hrun : ∀ source, request ≠ .run source) :
    (∃ n, (handle n request m).isSome = true) ∧
      ∀ n x, handle n request m = some x → Inert m x.2 := by
  have hall : ∀ answer m₁, Inert m m₁ → (∀ n, handle n request m = some (answer, m₁)) →
      (∃ n, (handle n request m).isSome = true) ∧
        ∀ n x, handle n request m = some x → Inert m x.2 := by
    intro answer m₁ hinert hhandle
    refine ⟨⟨0, by simp [hhandle]⟩, fun n x hx => ?_⟩
    rw [hhandle] at hx
    cases hx
    exact hinert
  cases request with
  | run source => exact absurd rfl (hrun source)
  | feed reply =>
      refine hall (.ok .nothing) { m with console := (m.console.feed reply).2 }
        ⟨⟨_, _, _, _, rfl⟩, m.console.written_feed reply, rfl⟩ fun n => ?_
      rw [handle, following, course_bind, followed_eq, run_feed_of_ended h]
      rfl
  | press key =>
      cases hd : m.display with
      | none =>
          refine hall (.error .absent) m (Inert.refl m) fun n => ?_
          rw [handle, silently, course_bind, course_apply, press, run_bind, run_get]
          simp only [hd]
          rfl
      | some d =>
          refine hall (.ok .nothing) { m with display := some (d.press key) }
            ⟨⟨_, _, _, _, rfl⟩, rfl, by simp [hd, Display.press]⟩ fun n => ?_
          rw [handle, silently, course_bind, course_apply, press, run_bind, run_get]
          simp only [hd]
          rfl
  | tick =>
      have htick : ∀ n, ∃ m₁, handle n .tick m = some (.ok (.truth m.timers.pop.1), m₁) ∧
          Inert m m₁ := by
        intro n
        obtain ⟨m₁, hrun, hinert, -⟩ := tick_of_ended h n
        exact ⟨m₁, by rw [handle, course_bind, hrun]; rfl, hinert⟩
      refine ⟨⟨0, ?_⟩, fun n x hx => ?_⟩
      · obtain ⟨m₁, hrun, -⟩ := htick 0
        simp [hrun]
      · obtain ⟨m₁, hrun, hinert⟩ := htick n
        rw [hrun] at hx
        cases hx
        exact hinert
  | tickAll =>
      refine ⟨⟨m.timers.queue.length + 1, ?_⟩, fun n x hx => ?_⟩
      · have hsome := (tickAll_of_ended h (m.timers.queue.length + 1) _).2 (Nat.lt_succ_self _)
        obtain ⟨⟨_ | _, m₁⟩, hrun⟩ := Option.isSome_iff_exists.mp hsome
        · rw [handle, course_bind, hrun]
          rfl
        · rw [handle, course_bind, hrun]
          rfl
      · rw [handle, course_bind] at hx
        cases hrun : tickAll n n m with
        | none =>
            rw [hrun] at hx
            cases hx
        | some y =>
            have hinert := (tickAll_of_ended h n n).1 y hrun
            rw [hrun] at hx
            rcases y with ⟨_ | _, m₁⟩
            · cases hx
              exact hinert
            · cases hx
              exact hinert
  | stop =>
      refine hall (.ok .nothing) m (Inert.refl m) fun n => ?_
      rw [handle, silently, course_bind, course_apply, run_stop_of_ended h]
      rfl
  | stopElsewhere =>
      refine hall (.ok .nothing) m (Inert.refl m) fun n => ?_
      rw [handle, silently, course_bind, course_apply, run_stopElsewhere_of_ended h]
      rfl
  | resume =>
      refine hall (.ok .nothing) m (Inert.refl m) fun n => ?_
      rw [handle, following, course_bind, followed_eq, run_resume_of_ended h]
      rfl
  | finish fault =>
      refine hall (.ok .nothing) m (Inert.refl m) fun n => ?_
      rw [handle, silently, course_bind, course_apply, run_finish_of_ended h]
      rfl
  | _ => simp [Request.drives] at hdrives

end Machine

end LineBasic

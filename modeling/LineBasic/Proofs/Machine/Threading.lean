import LineBasic.Proofs.Machine.Session
import LineBasic.Proofs.Machine.Steering

/-!
# The thread of a run

A suspended run is taken up where it was left: whatever is asked of the machine in the meantime, as
long as no other run is started, the next statement is performed with the program, cursor, loops and
calls that the last one has left behind. `Threads` says this of a list of moments: each one stands
where the cycle before it has ended.
-/

namespace LineBasic

namespace Machine

variable {α β : Type} {C : Control}

/-- A machine stands where another one does: their control is the same, except that a reply may be
due in one of them only. -/
def StandsWith (m m₁ : Machine) : Prop :=
  ∃ waiting, m₁.control = { m.control with waiting := waiting }

theorem StandsWith.refl (m : Machine) : StandsWith m m := ⟨m.waiting, rfl⟩

theorem StandsWith.trans {m m₁ m₂ : Machine} (h : StandsWith m m₁) (h' : StandsWith m₁ m₂) :
    StandsWith m m₂ := by
  obtain ⟨waiting, h⟩ := h
  obtain ⟨waiting', h'⟩ := h'
  exact ⟨waiting', by rw [h', h]⟩

theorem Neutral.standsWith {a : Action α} {m : Machine} (h : Neutral m.control a) :
    StandsWith m (a.run.run m).2 := by
  have hkeeps : (a.run.run m).2.control = m.control := h.keeps rfl
  exact ⟨m.waiting, hkeeps⟩

theorem neutral_goOn : Neutral C goOn := by
  refine simulates_get ?_
  rintro m _ ⟨rfl, h⟩
  split
  · exact simulates_bind (neutral_finish none) fun _ => simulates_pure _
  · refine simulates_bind (simulates_modify ?_) fun _ => simulates_pure _
    rintro m _ ⟨rfl, h⟩
    exact ⟨rfl, h⟩

theorem neutral_wake : Neutral C wake := by
  refine simulates_bind (simulates_modify ?_) fun _ => simulates_get ?_
  · rintro m _ ⟨rfl, h⟩
    exact ⟨rfl, h⟩
  · rintro m _ ⟨rfl, h⟩
    split
    · exact neutral_goOn
    · exact simulates_pure _

theorem neutral_react (reaction : Reaction) : Neutral C (react reaction) := by
  refine simulates_get ?_
  rintro m _ ⟨rfl, h⟩
  split
  · exact neutral_goOn
  · exact simulates_pure _

theorem neutral_press (key : String) : Neutral C (press key) := by
  refine simulates_get ?_
  rintro m _ ⟨rfl, h⟩
  split
  · refine simulates_modify ?_
    rintro m _ ⟨rfl, h⟩
    exact ⟨rfl, h⟩
  · exact simulates_throw _

theorem neutral_stopElsewhere : Neutral C stopElsewhere := by
  refine simulates_get ?_
  rintro m _ ⟨rfl, h⟩
  split
  · exact simulates_pure _
  · refine simulates_modify ?_
    rintro m _ ⟨rfl, h⟩
    exact ⟨rfl, h⟩

theorem standsWith_resume (m : Machine) : StandsWith m (resume.run.run m).2 := by
  unfold resume
  rw [run_bind, run_get]
  dsimp only
  split
  · exact .refl m
  · rw [run_bind, run_modify]
    dsimp only
    rw [run_bind, run_get]
    dsimp only
    have hreleased : StandsWith m { m with waiting := false } := ⟨false, rfl⟩
    split
    · exact hreleased.trans neutral_goOn.standsWith
    · exact hreleased

theorem standsWith_feed (reply : Reply) (m : Machine) :
    StandsWith m ((feed reply).run.run m).2 := by
  unfold feed
  rw [run_bind, run_get]
  dsimp only
  rw [run_bind, run_set]
  dsimp only
  split
  · next name _ =>
    have hreceive : Steers m.control (fun C => ∃ waiting, C = { m.control with waiting := waiting })
        (do react (← receive name reply) : Action Progress) :=
      .andThen (steers_receive ⟨m.waiting, rfl⟩ ⟨false, rfl⟩) fun reaction _ => neutral_react reaction
    exact hreceive rfl
  · exact .refl m

/-- The moments of a run, each of which stands where the cycle before it has ended, from where one
machine stands to where another one does. -/
def Threads (m : Machine) : List Machine → Machine → Prop
  | [], m₁ => StandsWith m m₁
  | k :: ks, m₁ => StandsWith m k ∧ Threads (cycle.run.run k).2 ks m₁

namespace Threads

theorem head {m m₁ m₂ : Machine} {ks : List Machine} (h : StandsWith m m₁) (h' : Threads m₁ ks m₂) :
    Threads m ks m₂ := by
  cases ks with
  | nil => exact h.trans h'
  | cons k ks => exact ⟨h.trans h'.1, h'.2⟩

theorem append {m m₁ m₂ : Machine} {ks ks' : List Machine} (h : Threads m ks m₁)
    (h' : Threads m₁ ks' m₂) : Threads m (ks ++ ks') m₂ := by
  induction ks generalizing m with
  | nil => exact h'.head h
  | cons k ks ih => exact ⟨h.1, ih h.2⟩

theorem drop {m m₁ : Machine} {ks ks' : List Machine} {k : Machine}
    (h : Threads m (ks ++ k :: ks') m₁) : Threads (cycle.run.run k).2 ks' m₁ := by
  induction ks generalizing m with
  | nil => exact h.2
  | cons j ks ih => exact ih h.2

/-- The first moment stands where the thread begins. -/
theorem of_head? {m m₁ k : Machine} {ks : List Machine} (h : Threads m ks m₁)
    (hk : ks.head? = some k) : StandsWith m k := by
  cases ks with
  | nil => cases hk
  | cons j ks =>
      cases hk
      exact h.1

end Threads

/-- Moments thread from where one machine stands up to a result, if there is one. -/
def Unwinds (m : Machine) (ks : List Machine) (x : Option (α × Machine)) : Prop :=
  ∃ m₁, Threads m ks m₁ ∧ ∀ y, x = some y → m₁ = y.2

theorem Unwinds.stop (m : Machine) (x : α) : Unwinds m [] (some (x, m)) := by
  refine ⟨m, StandsWith.refl m, fun y hy => ?_⟩
  cases hy
  rfl

theorem unwinds_follow (n : Nat) (m : Machine) : Unwinds m (moments n m) (follow n m) := by
  induction n generalizing m with
  | zero =>
      refine ⟨m, StandsWith.refl m, fun y hy => ?_⟩
      cases hy
  | succ n ih =>
      have hone : ∀ x m₁, cycle.run.run m = (x, m₁) → Threads m [m] m₁ := by
        intro x m₁ hcycle
        refine ⟨StandsWith.refl m, ?_⟩
        rw [hcycle]
        exact StandsWith.refl m₁
      rw [moments, follow_succ]
      rcases hcycle : cycle.run.run m with ⟨e | p, m₁⟩
      · refine ⟨m₁, hone _ m₁ hcycle, fun y hy => ?_⟩
        cases hy
        rfl
      · cases p with
        | goesOn =>
            obtain ⟨m₂, hthreads, hend⟩ := ih m₁
            refine ⟨m₂, ⟨StandsWith.refl m, ?_⟩, hend⟩
            rw [hcycle]
            exact hthreads
        | stops =>
            refine ⟨m₁, hone _ m₁ hcycle, fun y hy => ?_⟩
            cases hy
            rfl

theorem unwinds_followed (n : Nat) (a : Action Progress) (m : Machine) :
    Unwinds (a.run.run m).2 (momentsAfter n a m) (followed n a m) := by
  rw [momentsAfter, followed_eq]
  rcases a.run.run m with ⟨e | p, m₁⟩
  · exact .stop m₁ _
  · cases p with
    | goesOn => exact unwinds_follow n m₁
    | stops => exact .stop m₁ _

theorem Unwinds.head {m m₁ : Machine} {ks : List Machine} {x : Option (α × Machine)}
    (h : StandsWith m m₁) (hx : Unwinds m₁ ks x) : Unwinds m ks x := by
  obtain ⟨m₂, hthreads, hend⟩ := hx
  exact ⟨m₂, hthreads.head h, hend⟩

/-- What a course comes to may be told in other words. -/
theorem Unwinds.map {m : Machine} {ks : List Machine} {a : Course α}
    (h : Unwinds m ks (a m)) (f : α → β) : Unwinds m ks ((do return f (← a) : Course β) m) := by
  obtain ⟨m₁, hthreads, hend⟩ := h
  refine ⟨m₁, hthreads, fun y hy => ?_⟩
  rw [course_bind] at hy
  rcases hx : a m with _ | ⟨e | x, m₂⟩
  · rw [hx] at hy
    cases hy
  · rw [hx] at hy
    cases hy
    exact hend _ hx
  · rw [hx] at hy
    cases hy
    exact hend _ hx

theorem Neutral.unwinds {a : Action α} {m : Machine} (h : Neutral m.control a) :
    Unwinds m [] (course a m) := by
  rw [course_apply]
  exact .head h.standsWith (.stop _ _)

theorem unwinds_tick (n : Nat) (m : Machine) : Unwinds m (tickMoments n m) (tick n m) := by
  rw [tick_eq, tickMoments]
  rcases m.timers.pop with ⟨fires, timers⟩
  have hstands : StandsWith m { m with timers := timers } := ⟨m.waiting, rfl⟩
  cases fires with
  | false => exact .head hstands (.stop _ _)
  | true =>
      obtain ⟨m₁, hthreads, hend⟩ := unwinds_followed n wake { m with timers := timers }
      refine ⟨m₁, (hthreads.head neutral_wake.standsWith).head hstands, fun y hy => ?_⟩
      dsimp only at hy
      rcases hx : followed n wake { m with timers := timers } with _ | ⟨e | x, m₂⟩
      · rw [hx] at hy
        cases hy
      · rw [hx] at hy
        cases hy
        exact hend _ hx
      · rw [hx] at hy
        cases hy
        exact hend _ hx

theorem unwinds_tickAll (n t : Nat) (m : Machine) :
    Unwinds m (tickAllMoments n t m) (tickAll n t m) := by
  induction t generalizing m with
  | zero =>
      refine ⟨m, StandsWith.refl m, fun y hy => ?_⟩
      cases hy
  | succ t ih =>
      obtain ⟨m₁, hthreads, hend⟩ := unwinds_tick n m
      have hall : Threads m (tickMoments n m ++ []) m₁ := by
        rw [List.append_nil]
        exact hthreads
      rw [tickAllMoments, tickAll_succ]
      rcases htick : tick n m with _ | ⟨e | fires, m₂⟩
      · refine ⟨m₁, hall, fun y hy => ?_⟩
        cases hy
      · have hlast := hend _ htick
        refine ⟨m₁, hall, fun y hy => ?_⟩
        cases hy
        exact hlast
      · have hlast : m₁ = m₂ := hend _ htick
        subst hlast
        cases fires with
        | false =>
            refine ⟨m₁, hall, fun y hy => ?_⟩
            cases hy
            rfl
        | true =>
            obtain ⟨m₃, hmore, hlast⟩ := ih m₁
            refine ⟨m₃, hthreads.append hmore, fun y hy => ?_⟩
            dsimp only at hy
            rcases hrest : tickAll n t m₁ with _ | ⟨e | x, m₄⟩
            · rw [hrest] at hy
              cases hy
            · rw [hrest] at hy
              cases hy
              exact hlast _ hrest
            · have hm := hlast _ hrest
              rw [hrest] at hy
              cases hy
              exact hm

/-- Requests that let a run go on and start no other one. -/
def Request.Continues (request : Request) : Prop :=
  request.drives = true ∧ ∀ source, request ≠ .run source

theorem unwinds_handle (n : Nat) {request : Request} (h : request.Continues) (m : Machine) :
    Unwinds m (request.moments n m) (handle n request m) := by
  cases request with
  | run source => exact absurd rfl (h.2 source)
  | feed reply =>
      exact ((unwinds_followed n (feed reply) m).head (standsWith_feed reply m)).map fun _ => _
  | resume => exact ((unwinds_followed n resume m).head (standsWith_resume m)).map fun _ => _
  | tick => exact (unwinds_tick n m).map Value.truth
  | tickAll => exact (unwinds_tickAll n n m).map fun count => Value.int count
  | press key => exact ((neutral_press key).unwinds).map fun _ => _
  | stop => exact (neutral_stop.unwinds).map fun _ => _
  | stopElsewhere => exact (neutral_stopElsewhere.unwinds).map fun _ => _
  | finish fault => exact ((neutral_finish fault).unwinds).map fun _ => _
  | _ => exact absurd h.1 (by simp [Request.drives])

/-- The moments of a session are those of its first request and those of the rest. -/
theorem Unwinds.cons {n : Nat} {request : Request} {rest : List Request} {m m₁ : Machine}
    (h : Unwinds m₁ (request.moments n m) (handle n request m))
    (hrest : ∀ m₂, Unwinds m₂ (trail n rest m₂) (attend n rest m₂)) :
    Unwinds m₁ (trail n (request :: rest) m) (attend n (request :: rest) m) := by
  obtain ⟨m₂, hthreads, hend⟩ := h
  rw [trail, attend]
  cases hhandle : handle n request m with
  | none =>
      refine ⟨m₂, ?_, fun y hy => ?_⟩
      · dsimp only
        rw [List.append_nil]
        exact hthreads
      · cases hy
  | some x =>
      have hlast : m₂ = x.2 := hend x hhandle
      subst hlast
      obtain ⟨m₃, hmore, hlast⟩ := hrest x.2
      refine ⟨m₃, hthreads.append hmore, fun y hy => ?_⟩
      obtain ⟨z, hz, rfl⟩ := Option.map_eq_some_iff.mp hy
      exact hlast z hz

/-- The moments of a session thread, as long as no run is started. -/
theorem unwinds_trail (n : Nat) {requests : List Request}
    (h : ∀ request ∈ requests, request.Continues) (m : Machine) :
    Unwinds m (trail n requests m) (attend n requests m) := by
  induction requests generalizing m with
  | nil => exact .stop m _
  | cons request rest ih =>
      exact .cons (unwinds_handle n (h request (by simp)) m) (ih fun r hr => h r (by simp [hr]))

/-- The moments of a run thread from where it starts. -/
theorem unwinds_run (n : Nat) (source : String) {requests : List Request}
    (h : ∀ request ∈ requests, request.Continues) (m : Machine) :
    Unwinds ((start source).run.run m).2 (trail n (.run source :: requests) m)
      (attend n (.run source :: requests) m) :=
  .cons ((unwinds_followed n (start source) m).map fun _ => _) (unwinds_trail n h)

end Machine

end LineBasic

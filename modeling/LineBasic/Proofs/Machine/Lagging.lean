import LineBasic.Proofs.Machine.Session

/-!
# Sessions that lag behind

Two machines may do the same although one of them takes a cycle more now and then, in which nothing
happens that the other one can tell. `Lagged` is to such machines what `Attuned` is to machines in
step: before a cycle of the second machine, the first one may take a cycle of its own that leaves it
related. Whole sessions then come to the same answers (`Lagged.attend`). The first machine needs at
most twice the cycles, and the second one never more than the first.
-/

namespace LineBasic

namespace Machine

variable {α β : Type} {A : Request → Prop} {W R : Machine → Machine → Prop} {E : Fault → Prop}
  {m m' : Machine}

/-- Results by the number of cycles allowed, of which the second ones are never late and the first
ones take at most twice as long. -/
structure InPace (R : Machine → Machine → Prop) (x y : Nat → Option (α × Machine)) : Prop where
  keeps : ∀ n v k, x n = some (v, k) → ∃ k', y n = some (v, k') ∧ R k k'
  catches : ∀ n v k', y n = some (v, k') → ∃ k, x (2 * n) = some (v, k) ∧ R k k'

theorem InPace.imp {R' : Machine → Machine → Prop} {x y : Nat → Option (α × Machine)}
    (h : InPace R x y) (hR : ∀ ⦃m m'⦄, R m m' → R' m m') : InPace R' x y := by
  constructor
  · intro n v k hrun
    obtain ⟨k', hrun', hk⟩ := h.keeps n v k hrun
    exact ⟨k', hrun', hR hk⟩
  · intro n v k' hrun
    obtain ⟨k, hrun', hk⟩ := h.catches n v k' hrun
    exact ⟨k, hrun', hR hk⟩

theorem InPace.bind {x y : Nat → Option (α × Machine)}
    {f g : Nat → α → Machine → Option (β × Machine)} (h : InPace R x y)
    (hf : ∀ v ⦃m m'⦄, R m m' → InPace R (fun n => f n v m) fun n => g n v m') :
    InPace R (fun n => (x n).bind fun z => f n z.1 z.2)
      fun n => (y n).bind fun z => g n z.1 z.2 := by
  constructor
  · intro n v k hrun
    obtain ⟨⟨u, m⟩, hx, hrest⟩ := Option.bind_eq_some_iff.mp hrun
    obtain ⟨m', hy, hm⟩ := h.keeps n u m hx
    obtain ⟨k', hrest', hk⟩ := (hf u hm).keeps n v k hrest
    exact ⟨k', Option.bind_eq_some_iff.mpr ⟨(u, m'), hy, hrest'⟩, hk⟩
  · intro n v k' hrun
    obtain ⟨⟨u, m'⟩, hy, hrest⟩ := Option.bind_eq_some_iff.mp hrun
    obtain ⟨m, hx, hm⟩ := h.catches n u m' hy
    obtain ⟨k, hrest', hk⟩ := (hf u hm).catches n v k' hrest
    exact ⟨k, Option.bind_eq_some_iff.mpr ⟨(u, m), hx, hrest'⟩, hk⟩

theorem InPace.some (v : α) (h : R m m') :
    InPace R (fun _ => Option.some (v, m)) fun _ => Option.some (v, m') := by
  constructor
  · intro n u k hrun
    obtain ⟨rfl, rfl⟩ := Prod.mk.inj (Option.some.inj hrun)
    exact ⟨m', rfl, h⟩
  · intro n u k' hrun
    obtain ⟨rfl, rfl⟩ := Prod.mk.inj (Option.some.inj hrun)
    exact ⟨m, rfl, h⟩

theorem InPace.map {x y : Nat → Option (α × Machine)} (h : InPace R x y) (f : α → β) :
    InPace R (fun n => (x n).map fun z => (f z.1, z.2)) fun n =>
      (y n).map fun z => (f z.1, z.2) := by
  simp only [Option.map_eq_bind]
  exact h.bind (f := fun _ v k => Option.some (f v, k)) (g := fun _ v k => Option.some (f v, k))
    fun v _ _ hm => .some (f v) hm

theorem InPace.none : InPace R (fun _ => (Option.none : Option (α × Machine))) fun _ => .none := by
  constructor
  · intro n v k hrun
    cases hrun
  · intro n v k' hrun
    cases hrun

/-- What takes no cycles is in pace when it agrees. -/
theorem Agrees.inPace {x y : Option (Except Fault α × Machine)} (h : Agrees R E x y) :
    InPace R (fun _ => x) fun _ => y := by
  cases h with
  | none => exact .none
  | ok v h => exact .some _ h
  | error he h => exact .some _ h

theorem InPace.courseBind {a b : Nat → Course α} {f g : Nat → α → Course β}
    (h : InPace R (fun n => a n m) fun n => b n m')
    (hf : ∀ v ⦃m m'⦄, R m m' → InPace R (fun n => f n v m) fun n => g n v m') :
    InPace R (fun n => (a n >>= f n) m) fun n => (b n >>= g n) m' := by
  let follows (k : α → Course β) : Except Fault α → Machine → Option (Except Fault β × Machine)
    | .ok v, m => k v m
    | .error e, m => .some (.error e, m)
  have hbind (c : Course α) (k : α → Course β) (m : Machine) :
      (c >>= k) m = (c m).bind fun z => follows k z.1 z.2 := by
    rw [course_bind]
    rcases c m with _ | ⟨_ | _, _⟩ <;> rfl
  simp only [hbind]
  refine h.bind (f := fun n => follows (f n)) (g := fun n => follows (g n)) fun v m m' hm => ?_
  cases v with
  | ok v => exact hf v hm
  | error e => exact .some _ hm

/-- Machines related by `W` before a statement and by `R` between requests stay so. The first of
them may take a cycle more before a statement of the second one. -/
structure Lagged (A : Request → Prop) (W R : Machine → Machine → Prop) (E : Fault → Prop) :
    Prop extends Receptive A W R E where
  cycle : ∀ ⦃m m'⦄, W m m' → ∃ k, (k = m ∨ cycle.run.run m = (.ok .goesOn, k)) ∧
    Matched W R E (cycle.run.run k) (cycle.run.run m')

namespace Lagged

/-- A run stays in pace. -/
theorem follow (T : Lagged A W R E) (h : W m m') :
    InPace R (fun n => follow n m) fun n => follow n m' := by
  constructor
  · intro n v x hrun
    induction n using Nat.strongRecOn generalizing m m' with
    | ind n ih =>
        obtain ⟨k, hk, hmatched⟩ := T.cycle h
        have hstep : ∀ j < n, Machine.follow (j + 1) k = some (v, x) →
            ∃ x', Machine.follow (j + 1) m' = some (v, x') ∧ R x x' := by
          intro j hj hrun
          rw [follow_succ] at hrun ⊢
          generalize Machine.cycle.run.run k = y at hmatched hrun
          generalize Machine.cycle.run.run m' = y' at hmatched
          cases hmatched with
          | goesOn h₁ => exact ih j hj h₁ hrun
          | stops h₁ =>
              cases hrun
              exact ⟨_, rfl, h₁⟩
          | error he h₁ =>
              cases hrun
              exact ⟨_, rfl, h₁⟩
        rcases hk with rfl | hk
        · cases n with
          | zero => cases hrun
          | succ n => exact hstep n (by omega) hrun
        -- the cycle more that was taken is not needed here
        · cases n with
          | zero => cases hrun
          | succ n =>
              rw [follow_succ, hk] at hrun
              cases n with
              | zero => cases hrun
              | succ n =>
                  obtain ⟨x', hrun', hx⟩ := hstep n (by omega) hrun
                  exact ⟨x', follow_mono (by omega) hrun', hx⟩
  · intro n v x' hrun
    induction n generalizing m m' with
    | zero => cases hrun
    | succ n ih =>
        obtain ⟨k, hk, hmatched⟩ := T.cycle h
        have hstep : ∃ x, Machine.follow (2 * n + 1) k = some (v, x) ∧ R x x' := by
          rw [follow_succ] at hrun ⊢
          generalize Machine.cycle.run.run k = y at hmatched
          generalize Machine.cycle.run.run m' = y' at hmatched hrun
          cases hmatched with
          | goesOn h₁ => exact ih h₁ hrun
          | stops h₁ =>
              cases hrun
              exact ⟨_, rfl, h₁⟩
          | error he h₁ =>
              cases hrun
              exact ⟨_, rfl, h₁⟩
        obtain ⟨x, hrun', hx⟩ := hstep
        refine ⟨x, ?_, hx⟩
        rcases hk with rfl | hk
        · exact follow_mono (by omega) hrun'
        · rw [show 2 * (n + 1) = 2 * n + 1 + 1 by omega, follow_succ, hk]
          exact hrun'

/-- So does the run that two matched actions let go on. -/
theorem followed (T : Lagged A W R E) {a b : Action Progress}
    (h : Matched W R E (a.run.run m) (b.run.run m')) :
    InPace R (fun n => followed n a m) fun n => followed n b m' := by
  simp only [followed_eq]
  generalize a.run.run m = x at h
  generalize b.run.run m' = x' at h
  cases h with
  | goesOn h => exact T.follow h
  | stops h => exact .some _ h
  | error he h => exact .some _ h

theorem following (T : Lagged A W R E) {a b : Action Progress}
    (h : Matched W R E (a.run.run m) (b.run.run m')) :
    InPace R (fun n => following n a m) fun n => following n b m' :=
  (T.followed h).courseBind fun _ _ _ hm => .some _ hm

theorem tick (T : Lagged A W R E) (h : R m m') :
    InPace R (fun n => tick n m) fun n => tick n m' := by
  have hfires := T.fires h
  have hwake := T.wake h
  have hdrain := T.drain h
  have htick (n : Nat) (m : Machine) : Machine.tick n m =
      if m.timers.pop.1 then
        (Machine.followed n Machine.wake { m with timers := m.timers.pop.2 }).map fun z =>
          (z.1.map fun _ => true, z.2)
      else some (.ok false, { m with timers := m.timers.pop.2 }) := by
    rw [tick_eq]
    rcases m.timers.pop with ⟨fires, timers⟩
    cases fires with
    | false => rfl
    | true =>
        dsimp only [if_true]
        rcases Machine.followed n Machine.wake { m with timers := timers } with _ | ⟨_ | _, _⟩ <;>
          rfl
  simp only [htick, ← hfires]
  cases hm : m.timers.pop.1 with
  | false => exact .some _ (hdrain hm)
  | true => exact (T.followed (hwake hm)).map fun v => v.map fun _ => true

theorem tickAll (T : Lagged A W R E) (h : R m m') (t : Nat) :
    InPace R (fun n => tickAll n t m) fun n => tickAll n t m' := by
  induction t generalizing m m' with
  | zero => exact .none
  | succ t ih =>
      refine (T.tick h).courseBind fun fires m m' hm => ?_
      cases fires with
      | false => exact .some _ hm
      | true => exact (ih hm).courseBind fun k _ _ hk => .some _ hk

/-- Every allowed request keeps the machines in pace. -/
theorem handle (T : Lagged A W R E) {request : Request} (hA : A request) (h : R m m') :
    InPace R (fun n => handle n request m) fun n => handle n request m' := by
  have hpure : ∀ (v : Value) ⦃m m'⦄, R m m' →
      InPace R (fun _ => (pure v : Course Value) m) fun _ => (pure v : Course Value) m' :=
    fun v _ _ hm => .some _ hm
  cases request with
  | run source => exact T.following (T.start source hA h)
  | feed reply => exact T.following (T.feed reply hA h)
  | resume => exact T.following (T.resume h)
  | tick => exact (T.tick h).courseBind fun fires => hpure (.truth fires)
  | tickAll =>
      refine InPace.courseBind ⟨fun n => (T.tickAll h n).keeps n, ?_⟩ fun k => hpure (.int k)
      intro n v k' hrun
      obtain ⟨k, hrun', hk⟩ := (T.tickAll h n).catches n v k' hrun
      exact ⟨k, tickAll_mono (Nat.le_refl _) (by omega) hrun', hk⟩
  | press key => exact (T.press key h).inPace.courseBind fun _ => hpure .nothing
  | stop => exact (T.stop h).inPace.courseBind fun _ => hpure .nothing
  | stopElsewhere => exact (T.stopElsewhere h).inPace.courseBind fun _ => hpure .nothing
  | finish fault => exact (T.finish fault hA h).inPace.courseBind fun _ => hpure .nothing
  | _ => exact absurd (T.drives hA) (by simp [Request.drives])

/-- Whole sessions stay in pace: they come to the same answers and to machines that are related at
rest. -/
theorem attend (T : Lagged A W R E) {requests : List Request}
    (hA : ∀ request ∈ requests, A request) (h : R m m') :
    InPace R (fun n => attend n requests m) fun n => attend n requests m' := by
  let answering (rest : List Request) (n : Nat) (answer : Except Fault Value) (k : Machine) :=
    (Machine.attend n rest k).map fun y => (answer :: y.1, y.2)
  have hcons (n : Nat) (request : Request) (rest : List Request) (m : Machine) :
      Machine.attend n (request :: rest) m =
        (Machine.handle n request m).bind fun z => answering rest n z.1 z.2 := by
    rw [Machine.attend]
    cases Machine.handle n request m <;> rfl
  induction requests generalizing m m' with
  | nil => exact .some [] h
  | cons request rest ih =>
      simp only [hcons]
      refine (T.handle (hA request (by simp)) h).bind (f := answering rest) (g := answering rest) ?_
      intro answer m m' hm
      exact (ih (fun r hr => hA r (by simp [hr])) hm).map fun answers => answer :: answers

end Lagged

end Machine

end LineBasic

import LineBasic.Proofs.Machine.Cycling
import Mathlib.Data.List.Forall2

/-!
# Sessions

A session is a list of requests that a machine answers one after another; a request that fails is
answered by its fault, and the next one is taken up all the same. `attend` gives the answers and the
machine after the last one. `trail` gives the machines before all statements that were performed on
the way, across the runs that the requests start and take up.

`Attuned` says of two relations that machines related by one before a statement, and by the other
between requests, stay so for every cycle and every request. Whole sessions then stay in step. An
invariant of one machine is the case of relations below equality.
-/

namespace LineBasic

namespace Machine

variable {α β : Type} {A : Request → Prop} {Q : Machine → Prop}
  {W R : Machine → Machine → Prop} {E : Fault → Prop}

/-- The requests that drive runs. All others perform single operations by hand. -/
def Request.drives : Request → Bool
  | .run _ | .feed _ | .press _ | .tick | .tickAll => true
  | .stop | .stopElsewhere | .resume | .finish _ => true
  | _ => false

/-- A machine as it is made, before any request. -/
def IsNew (m : Machine) : Prop :=
  m = { constants := m.constants, functions := m.functions, traceLevel := m.traceLevel,
        console := m.console, display := m.display, dice := m.dice }

/-- Answers requests one after another: the answers, and the machine after the last one. There is no
result when a request does not come to an end within the cycles allowed. -/
def attend (cycles : Nat) : List Request → Machine → Option (List (Except Fault Value) × Machine)
  | [], m => some ([], m)
  | request :: rest, m =>
    match handle cycles request m with
    | none => none
    | some (answer, m₁) => (attend cycles rest m₁).map fun (answers, m₂) => (answer :: answers, m₂)

theorem attend_cons {n : Nat} {request : Request} {rest : List Request} {m m₁ : Machine}
    {answers : List (Except Fault Value)}
    (h : attend n (request :: rest) m = some (answers, m₁)) :
    ∃ answer more m₂, handle n request m = some (answer, m₂) ∧
      attend n rest m₂ = some (more, m₁) ∧ answers = answer :: more := by
  rw [attend] at h
  cases hrequest : handle n request m with
  | none =>
      rw [hrequest] at h
      cases h
  | some x =>
      rw [hrequest] at h
      obtain ⟨y, hrest, hy⟩ := Option.map_eq_some_iff.mp h
      cases hy
      exact ⟨x.1, y.1, x.2, rfl, hrest, rfl⟩

/-- The machines before the statements of a run, for at most the given number of cycles. -/
def moments : Nat → Machine → List Machine
  | 0, _ => []
  | cycles + 1, m =>
    m :: match cycle.run.run m with
      | (.ok .goesOn, m₁) => moments cycles m₁
      | _ => []

/-- The machines before the statements of the run that an action lets go on. -/
def momentsAfter (cycles : Nat) (action : Action Progress) (m : Machine) : List Machine :=
  match action.run.run m with
  | (.ok .goesOn, m₁) => moments cycles m₁
  | _ => []

/-- The machines before the statements of the run that the oldest live timer takes up. -/
def tickMoments (cycles : Nat) (m : Machine) : List Machine :=
  match m.timers.pop with
  | (true, timers) => momentsAfter cycles wake { m with timers := timers }
  | (false, _) => []

/-- The machines before the statements of the runs that timers take up one after another. -/
def tickAllMoments (cycles : Nat) : Nat → Machine → List Machine
  | 0, _ => []
  | ticks + 1, m =>
    tickMoments cycles m ++ match tick cycles m with
      | some (.ok true, m₁) => tickAllMoments cycles ticks m₁
      | _ => []

/-- The machines before the statements that are performed in answer to a request. -/
def Request.moments (cycles : Nat) : Request → Machine → List Machine
  | .run source => momentsAfter cycles (start source)
  | .feed reply => momentsAfter cycles (Machine.feed reply)
  | .resume => momentsAfter cycles Machine.resume
  | .tick => tickMoments cycles
  | .tickAll => tickAllMoments cycles cycles
  | _ => fun _ => []

/-- The machines before all statements of a session. -/
def trail (cycles : Nat) : List Request → Machine → List Machine
  | [], _ => []
  | request :: rest, m =>
    request.moments cycles m ++ match handle cycles request m with
      | some (_, m₁) => trail cycles rest m₁
      | none => []

/-- Two actions that may let a run go on come to the same result. Where the run goes on the machines
are related before its next statement, otherwise they are related at rest. -/
inductive Matched (W R : Machine → Machine → Prop) (E : Fault → Prop) :
    Except Fault Progress × Machine → Except Fault Progress × Machine → Prop where
  | goesOn {m m' : Machine} (h : W m m') : Matched W R E (.ok .goesOn, m) (.ok .goesOn, m')
  | stops {m m' : Machine} (h : R m m') : Matched W R E (.ok .stops, m) (.ok .stops, m')
  | error {e : Fault} {m m' : Machine} (he : E e) (h : R m m') :
      Matched W R E (.error e, m) (.error e, m')

/-- Two courses have both no result, or the same one with machines that are related at rest. -/
inductive Agrees (R : Machine → Machine → Prop) (E : Fault → Prop) :
    Option (Except Fault α × Machine) → Option (Except Fault α × Machine) → Prop where
  | none : Agrees R E none none
  | ok (x : α) {m m' : Machine} (h : R m m') : Agrees R E (some (.ok x, m)) (some (.ok x, m'))
  | error {e : Fault} {m m' : Machine} (he : E e) (h : R m m') :
      Agrees R E (some (.error e, m)) (some (.error e, m'))

/-- Two sessions have both no result, or the same answers and machines that are related at rest. -/
inductive InConcert (R : Machine → Machine → Prop) (E : Fault → Prop) :
    Option (List (Except Fault Value) × Machine) →
      Option (List (Except Fault Value) × Machine) → Prop where
  | none : InConcert R E none none
  | some (answers : List (Except Fault Value)) {m m' : Machine}
      (hE : ∀ e, Except.error e ∈ answers → E e) (h : R m m') :
      InConcert R E (some (answers, m)) (some (answers, m'))

/-- Machines related by `R` between requests are so after every request that `A` allows, and before
the first statement of a run that a request starts or takes up they are related by `W`. The requests
fail with faults in `E` only. -/
structure Receptive (A : Request → Prop) (W R : Machine → Machine → Prop) (E : Fault → Prop) :
    Prop where
  drives : ∀ ⦃request⦄, A request → request.drives = true
  start : ∀ ⦃m m'⦄ (source : String), A (.run source) → R m m' →
    Matched W R E ((start source).run.run m) ((start source).run.run m')
  feed : ∀ ⦃m m'⦄ (reply : Reply), A (.feed reply) → R m m' →
    Matched W R E ((feed reply).run.run m) ((feed reply).run.run m')
  resume : ∀ ⦃m m'⦄, R m m' → Matched W R E (resume.run.run m) (resume.run.run m')
  fires : ∀ ⦃m m'⦄, R m m' → m.timers.pop.1 = m'.timers.pop.1
  wake : ∀ ⦃m m'⦄, R m m' → m.timers.pop.1 = true →
    Matched W R E (wake.run.run { m with timers := m.timers.pop.2 })
      (wake.run.run { m' with timers := m'.timers.pop.2 })
  drain : ∀ ⦃m m'⦄, R m m' → m.timers.pop.1 = false →
    R { m with timers := m.timers.pop.2 } { m' with timers := m'.timers.pop.2 }
  press : ∀ ⦃m m'⦄ (key : String), R m m' →
    Agrees R E (course (press key) m) (course (press key) m')
  stop : ∀ ⦃m m'⦄, R m m' → Agrees R E (course stop m) (course stop m')
  stopElsewhere : ∀ ⦃m m'⦄, R m m' →
    Agrees R E (course stopElsewhere m) (course stopElsewhere m')
  finish : ∀ ⦃m m'⦄ (fault : Option Fault), A (.finish fault) → R m m' →
    Agrees R E (course (finish fault) m) (course (finish fault) m')

/-- Machines related by `W` before a statement and by `R` between requests stay so: for every cycle
before which `Q` holds, and for every request that `A` allows. The requests fail with faults in `E`
only. -/
structure Attuned (A : Request → Prop) (Q : Machine → Prop) (W R : Machine → Machine → Prop)
    (E : Fault → Prop) : Prop extends Receptive A W R E where
  cycle : ∀ ⦃m m'⦄, W m m' → Q m → Matched W R E (cycle.run.run m) (cycle.run.run m')

/-- Results that match with weaker relations and more faults. -/
theorem Matched.imp {W' R' : Machine → Machine → Prop} {E' : Fault → Prop}
    (hW : ∀ ⦃m m'⦄, W m m' → W' m m') (hR : ∀ ⦃m m'⦄, R m m' → R' m m')
    (hE : ∀ ⦃e⦄, E e → E' e) {x x' : Except Fault Progress × Machine} (h : Matched W R E x x') :
    Matched W' R' E' x x' := by
  cases h with
  | goesOn h => exact .goesOn (hW h)
  | stops h => exact .stops (hR h)
  | error he h => exact .error (hE he) (hR h)

theorem InConcert.imp {R' : Machine → Machine → Prop} (hR : ∀ ⦃m m'⦄, R m m' → R' m m')
    {x x' : Option (List (Except Fault Value) × Machine)} (h : InConcert R E x x') :
    InConcert R' E x x' := by
  cases h with
  | none => exact .none
  | some answers hE hm => exact .some answers hE (hR hm)

/-- What the second session comes to, from what the first one did. -/
theorem InConcert.result {answers : List (Except Fault Value)} {m : Machine}
    {x' : Option (List (Except Fault Value) × Machine)}
    (h : InConcert R E (Option.some (answers, m)) x') :
    ∃ m', x' = Option.some (answers, m') ∧ R m m' := by
  cases h with
  | some _ _ hm => exact ⟨_, rfl, hm⟩

theorem Simulates.matched {a b : Action Progress} (h : Simulates R a b) {m m' : Machine}
    (hm : R m m') : Matched R R (fun _ => True) (a.run.run m) (b.run.run m') := by
  obtain ⟨hres, hrel⟩ := h hm
  rcases ha : a.run.run m with ⟨x, m₁⟩
  rcases hb : b.run.run m' with ⟨y, m₁'⟩
  rw [ha, hb] at hres hrel
  cases hres
  rcases x with e | progress
  · exact .error trivial hrel
  · cases progress with
    | goesOn => exact .goesOn hrel
    | stops => exact .stops hrel

theorem Simulates.agrees {a b : Action α} (h : Simulates R a b) {m m' : Machine} (hm : R m m') :
    Agrees R (fun _ => True) (course a m) (course b m') := by
  obtain ⟨hres, hrel⟩ := h hm
  rw [course_apply, course_apply]
  rcases ha : a.run.run m with ⟨x, m₁⟩
  rcases hb : b.run.run m' with ⟨y, m₁'⟩
  rw [ha, hb] at hres hrel
  cases hres
  rcases x with e | x
  · exact .error trivial hrel
  · exact .ok x hrel

/-- The result of an action on one machine matches itself below equality. -/
theorem matched_below {P P' : Machine → Prop} {x : Except Fault Progress × Machine}
    (hgoes : x.1 = .ok .goesOn → P x.2) (hstops : x.1 = .ok .stops → P' x.2)
    (herror : ∀ e, x.1 = .error e → E e ∧ P' x.2) : Matched (Below P) (Below P') E x x := by
  rcases x with ⟨e | p, m⟩
  · exact .error (herror e rfl).1 ⟨rfl, (herror e rfl).2⟩
  · cases p with
    | goesOn => exact .goesOn ⟨rfl, hgoes rfl⟩
    | stops => exact .stops ⟨rfl, hstops rfl⟩

/-- Ending a run and stopping there. -/
theorem matched_finish {P P' : Machine → Prop} {fault : Option Fault} {m : Machine}
    (hkeeps : P' ((finish fault).run.run m).2)
    (herror : ∀ e, ((finish fault).run.run m).1 = .error e → E e) :
    Matched (Below P) (Below P') E
      ((do finish fault; return .stops : Action Progress).run.run m)
      ((do finish fault; return .stops : Action Progress).run.run m) := by
  rw [run_finish_then]
  cases hfinish : ((finish fault).run.run m).1 with
  | error e => exact .error (herror e hfinish) ⟨rfl, hkeeps⟩
  | ok _ => exact .stops ⟨rfl, hkeeps⟩

theorem agrees_below {P : Machine → Prop} {a : Action α} {m : Machine} (h : P (a.run.run m).2)
    (herror : ∀ e, (a.run.run m).1 = .error e → E e) :
    Agrees (Below P) E (course a m) (course a m) := by
  rw [course_apply]
  rcases hrun : a.run.run m with ⟨e | x, m₁⟩
  · rw [hrun] at h herror
    exact .error (herror e rfl) ⟨rfl, h⟩
  · rw [hrun] at h
    exact .ok x ⟨rfl, h⟩

/-- Results that match, and of which the first one keeps an invariant besides. -/
theorem Matched.and {P P' : Machine → Prop} {E' : Fault → Prop}
    {x x' : Except Fault Progress × Machine} (h : Matched W R E x x')
    (hP : Matched (Below P) (Below P') E' x x) :
    Matched (fun m m' => W m m' ∧ P m) (fun m m' => R m m' ∧ P' m) E x x' := by
  cases h with
  | goesOn h =>
      cases hP with
      | goesOn hP => exact .goesOn ⟨h, hP.2⟩
  | stops h =>
      cases hP with
      | stops hP => exact .stops ⟨h, hP.2⟩
  | error he h =>
      cases hP with
      | error _ hP => exact .error he ⟨h, hP.2⟩

theorem Agrees.and {P' : Machine → Prop} {E' : Fault → Prop}
    {x x' : Option (Except Fault α × Machine)} (h : Agrees R E x x')
    (hP : Agrees (Below P') E' x x) : Agrees (fun m m' => R m m' ∧ P' m) E x x' := by
  cases h with
  | none => exact .none
  | ok v h =>
      cases hP with
      | ok _ hP => exact .ok v ⟨h, hP.2⟩
  | error he h =>
      cases hP with
      | error _ hP => exact .error he ⟨h, hP.2⟩

/-- Machines that stay related stay so together with an invariant of the first one. -/
theorem Receptive.and {A' : Request → Prop} {P P' : Machine → Prop} {E' : Fault → Prop}
    (T : Receptive A W R E) (I : Receptive A' (Below P) (Below P') E')
    (hA : ∀ ⦃request⦄, A request → A' request) :
    Receptive A (fun m m' => W m m' ∧ P m) (fun m m' => R m m' ∧ P' m) E where
  drives := T.drives
  start _ _ source hs h := (T.start source hs h.1).and (I.start source (hA hs) ⟨rfl, h.2⟩)
  feed _ _ reply hr h := (T.feed reply hr h.1).and (I.feed reply (hA hr) ⟨rfl, h.2⟩)
  resume _ _ h := (T.resume h.1).and (I.resume ⟨rfl, h.2⟩)
  fires _ _ h := T.fires h.1
  wake _ _ h hfires := (T.wake h.1 hfires).and (I.wake ⟨rfl, h.2⟩ hfires)
  drain _ _ h hfires := ⟨T.drain h.1 hfires, (I.drain ⟨rfl, h.2⟩ hfires).2⟩
  press _ _ key h := (T.press key h.1).and (I.press key ⟨rfl, h.2⟩)
  stop _ _ h := (T.stop h.1).and (I.stop ⟨rfl, h.2⟩)
  stopElsewhere _ _ h := (T.stopElsewhere h.1).and (I.stopElsewhere ⟨rfl, h.2⟩)
  finish _ _ fault hf h := (T.finish fault hf h.1).and (I.finish fault (hA hf) ⟨rfl, h.2⟩)

theorem Agrees.bind {a b : Course α} {k l : α → Course β} {m m' : Machine}
    (h : Agrees R E (a m) (b m'))
    (hk : ∀ x ⦃m m'⦄, R m m' → Agrees R E (k x m) (l x m')) :
    Agrees R E ((a >>= k) m) ((b >>= l) m') := by
  rw [course_bind, course_bind]
  generalize a m = x at h
  generalize b m' = y at h
  cases h with
  | none => exact .none
  | ok x hm => exact hk x hm
  | error he hm => exact .error he hm

/-- A request more in front, with the same answer on both sides. -/
theorem InConcert.cons {x x' : Option (List (Except Fault Value) × Machine)}
    (h : InConcert R E x x') {answer : Except Fault Value}
    (hanswer : ∀ e, answer = .error e → E e) :
    InConcert R E (x.map fun y => (answer :: y.1, y.2)) (x'.map fun y => (answer :: y.1, y.2)) := by
  cases h with
  | none => exact .none
  | some answers hE hm =>
      refine .some (answer :: answers) (fun e he => ?_) hm
      rcases List.mem_cons.mp he with he | he
      · exact hanswer e he.symm
      · exact hE e he

namespace Attuned

/-- A run stays in step, statement by statement. -/
theorem follow (T : Attuned A Q W R E) {n : Nat} {m m' : Machine} (h : W m m')
    (hQ : ∀ k ∈ moments n m, Q k) :
    Agrees R E (follow n m) (follow n m') ∧ List.Forall₂ W (moments n m) (moments n m') := by
  induction n generalizing m m' with
  | zero => exact ⟨.none, .nil⟩
  | succ n ih =>
      have hcycle := T.cycle h (hQ m (by simp [moments]))
      simp only [follow_succ, moments] at hQ ⊢
      generalize Machine.cycle.run.run m = x at hcycle hQ ⊢
      generalize Machine.cycle.run.run m' = x' at hcycle
      cases hcycle with
      | goesOn h₁ =>
          obtain ⟨hrest, hmoments⟩ := ih h₁ fun k hk => hQ k (List.mem_cons_of_mem _ hk)
          exact ⟨hrest, .cons h hmoments⟩
      | stops h₁ => exact ⟨.ok () h₁, .cons h .nil⟩
      | error he h₁ => exact ⟨.error he h₁, .cons h .nil⟩

/-- So does the run that two matched actions let go on. -/
theorem followed (T : Attuned A Q W R E) {n : Nat} {a b : Action Progress} {m m' : Machine}
    (h : Matched W R E (a.run.run m) (b.run.run m')) (hQ : ∀ k ∈ momentsAfter n a m, Q k) :
    Agrees R E (followed n a m) (followed n b m') ∧
      List.Forall₂ W (momentsAfter n a m) (momentsAfter n b m') := by
  simp only [followed_eq, momentsAfter] at hQ ⊢
  generalize a.run.run m = x at h hQ ⊢
  generalize b.run.run m' = x' at h
  cases h with
  | goesOn h₁ => exact T.follow h₁ hQ
  | stops h₁ => exact ⟨.ok () h₁, .nil⟩
  | error he h₁ => exact ⟨.error he h₁, .nil⟩

theorem tick (T : Attuned A Q W R E) {n : Nat} {m m' : Machine} (h : R m m')
    (hQ : ∀ k ∈ tickMoments n m, Q k) :
    Agrees R E (tick n m) (tick n m') ∧ List.Forall₂ W (tickMoments n m) (tickMoments n m') := by
  have hfires := T.fires h
  have hwake := T.wake h
  have hdrain := T.drain h
  simp only [tick_eq, tickMoments] at hQ ⊢
  generalize m.timers.pop = x at hfires hwake hdrain hQ ⊢
  generalize m'.timers.pop = x' at hfires hwake hdrain
  obtain ⟨fires, timers⟩ := x
  obtain ⟨fires', timers'⟩ := x'
  cases hfires
  cases fires with
  | false => exact ⟨.ok false (hdrain rfl), .nil⟩
  | true =>
      obtain ⟨hrun, hmoments⟩ := T.followed (hwake rfl) hQ
      refine ⟨?_, hmoments⟩
      dsimp only at hrun ⊢
      generalize Machine.followed n Machine.wake { m with timers := timers } = y at hrun
      generalize Machine.followed n Machine.wake { m' with timers := timers' } = y' at hrun
      cases hrun with
      | none => exact .none
      | ok x hm => exact .ok true hm
      | error he hm => exact .error he hm

theorem tickAll (T : Attuned A Q W R E) {n t : Nat} {m m' : Machine} (h : R m m')
    (hQ : ∀ k ∈ tickAllMoments n t m, Q k) :
    Agrees R E (tickAll n t m) (tickAll n t m') ∧
      List.Forall₂ W (tickAllMoments n t m) (tickAllMoments n t m') := by
  induction t generalizing m m' with
  | zero => exact ⟨.none, .nil⟩
  | succ t ih =>
      rw [tickAllMoments] at hQ
      obtain ⟨htick, hmoments⟩ := T.tick h fun k hk => hQ k (List.mem_append_left _ hk)
      simp only [tickAll_succ, tickAllMoments]
      generalize Machine.tick n m = x at htick hQ ⊢
      generalize Machine.tick n m' = x' at htick
      cases htick with
      | none => exact ⟨.none, List.rel_append hmoments .nil⟩
      | error he h₁ => exact ⟨.error he h₁, List.rel_append hmoments .nil⟩
      | ok fires h₁ =>
          cases fires with
          | false => exact ⟨.ok 0 h₁, List.rel_append hmoments .nil⟩
          | true =>
              obtain ⟨hrest, hmore⟩ := ih h₁ fun k hk => hQ k (List.mem_append_right _ hk)
              refine ⟨?_, List.rel_append hmoments hmore⟩
              dsimp only
              generalize Machine.tickAll n t _ = y at hrest
              generalize Machine.tickAll n t _ = y' at hrest
              cases hrest with
              | none => exact .none
              | ok k hm => exact .ok (k + 1) hm
              | error he hm => exact .error he hm

/-- Every allowed request keeps the machines in step. -/
theorem handle (T : Attuned A Q W R E) {n : Nat} {request : Request} (hA : A request)
    {m m' : Machine} (h : R m m') (hQ : ∀ k ∈ request.moments n m, Q k) :
    Agrees R E (handle n request m) (handle n request m') ∧
      List.Forall₂ W (request.moments n m) (request.moments n m') := by
  cases request with
  | run source =>
      obtain ⟨hrun, hmoments⟩ := T.followed (T.start source hA h) hQ
      exact ⟨hrun.bind fun _ _ _ hm => .ok _ hm, hmoments⟩
  | feed reply =>
      obtain ⟨hrun, hmoments⟩ := T.followed (T.feed reply hA h) hQ
      exact ⟨hrun.bind fun _ _ _ hm => .ok _ hm, hmoments⟩
  | resume =>
      obtain ⟨hrun, hmoments⟩ := T.followed (T.resume h) hQ
      exact ⟨hrun.bind fun _ _ _ hm => .ok _ hm, hmoments⟩
  | tick =>
      obtain ⟨hrun, hmoments⟩ := T.tick h hQ
      exact ⟨hrun.bind fun _ _ _ hm => .ok _ hm, hmoments⟩
  | tickAll =>
      obtain ⟨hrun, hmoments⟩ := T.tickAll h hQ
      exact ⟨hrun.bind fun _ _ _ hm => .ok _ hm, hmoments⟩
  | press key => exact ⟨(T.press key h).bind fun _ _ _ hm => .ok _ hm, .nil⟩
  | stop => exact ⟨(T.stop h).bind fun _ _ _ hm => .ok _ hm, .nil⟩
  | stopElsewhere => exact ⟨(T.stopElsewhere h).bind fun _ _ _ hm => .ok _ hm, .nil⟩
  | finish fault => exact ⟨(T.finish fault hA h).bind fun _ _ _ hm => .ok _ hm, .nil⟩
  | _ => exact absurd (T.drives hA) (by simp [Request.drives])

/-- Whole sessions stay in step: neither has a result, or they have the same answers and machines
that are related at rest, and before every statement on the way the machines are related as well. -/
theorem attend (T : Attuned A Q W R E) {n : Nat} {requests : List Request}
    (hA : ∀ request ∈ requests, A request) {m m' : Machine} (h : R m m')
    (hQ : ∀ k ∈ trail n requests m, Q k) :
    InConcert R E (attend n requests m) (attend n requests m') ∧
      List.Forall₂ W (trail n requests m) (trail n requests m') := by
  induction requests generalizing m m' with
  | nil => exact ⟨.some [] (by simp) h, .nil⟩
  | cons request rest ih =>
      rw [trail] at hQ
      obtain ⟨hrequest, hmoments⟩ :=
        T.handle (hA request (by simp)) h fun k hk => hQ k (List.mem_append_left _ hk)
      have hA₁ : ∀ request ∈ rest, A request := fun r hr => hA r (by simp [hr])
      simp only [Machine.attend, trail]
      generalize Machine.handle n request m = x at hrequest hQ ⊢
      generalize Machine.handle n request m' = x' at hrequest
      cases hrequest with
      | none => exact ⟨.none, List.rel_append hmoments .nil⟩
      | ok v h₁ =>
          obtain ⟨hresult, htrail⟩ := ih hA₁ h₁ fun k hk => hQ k (List.mem_append_right _ hk)
          exact ⟨hresult.cons nofun, List.rel_append hmoments htrail⟩
      | error he h₁ =>
          obtain ⟨hresult, htrail⟩ := ih hA₁ h₁ fun k hk => hQ k (List.mem_append_right _ hk)
          refine ⟨hresult.cons ?_, List.rel_append hmoments htrail⟩
          rintro e ⟨⟩
          exact he

/-- An invariant of one machine holds after a request that has an answer. -/
theorem handle_below {P P' : Machine → Prop} (T : Attuned A Q (Below P) (Below P') E) {n : Nat}
    {request : Request} (hA : A request) {m m₁ : Machine} (h : P' m)
    (hQ : ∀ k ∈ request.moments n m, Q k) {answer : Except Fault Value}
    (hrun : Machine.handle n request m = some (answer, m₁)) : P' m₁ := by
  have hagrees := (T.handle hA ⟨rfl, h⟩ hQ).1
  rw [hrun] at hagrees
  cases hagrees with
  | ok _ h₁ => exact h₁.2
  | error _ h₁ => exact h₁.2

/-- An invariant of one machine holds at the end of a session, and the faults among its answers are
within bounds. -/
theorem attend_below {P P' : Machine → Prop} (T : Attuned A Q (Below P) (Below P') E) {n : Nat}
    {requests : List Request} (hA : ∀ request ∈ requests, A request) {m m₁ : Machine} (h : P' m)
    (hQ : ∀ k ∈ trail n requests m, Q k) {answers : List (Except Fault Value)}
    (hrun : Machine.attend n requests m = some (answers, m₁)) :
    P' m₁ ∧ ∀ e, Except.error e ∈ answers → E e := by
  have hconcert := (T.attend hA ⟨rfl, h⟩ hQ).1
  rw [hrun] at hconcert
  cases hconcert with
  | some _ hE h₁ => exact ⟨h₁.2, hE⟩

/-- An invariant of one machine holds before every statement of a session. -/
theorem trail_below {P P' : Machine → Prop} (T : Attuned A Q (Below P) (Below P') E) {n : Nat}
    {requests : List Request} (hA : ∀ request ∈ requests, A request) {m : Machine} (h : P' m)
    (hQ : ∀ k ∈ trail n requests m, Q k) : ∀ k ∈ trail n requests m, P k := by
  have htrail := (T.attend hA ⟨rfl, h⟩ hQ).2
  intro k hk
  obtain ⟨i, hi, rfl⟩ := List.getElem_of_mem hk
  exact (List.forall₂_iff_get.mp htrail).2 i hi hi |>.2

end Attuned

end Machine

end LineBasic

import LineBasic.Proofs.Machine.Session

/-!
# Records of a session

Some facts about a session are not about the machine alone, but about what has happened to it: how
many questions were asked, or which of them were answered. A `Recorder` writes such things down when
a run is asked for, when a reply comes, and before every statement. `Recorder.record` is what it has
written after a list of requests.

`Recorded` says of two properties of a record and a machine that one of them holds before every
statement and the other between requests. It asks this of every cycle and every request. The record
of a whole session and the machine at its end then have the property, and where a session has no
result, so have the record and a machine on the way (`Recorded.attend`).
-/

namespace LineBasic

namespace Machine

variable {α β H : Type} {A : Request → Prop} {W R : H → Machine → Prop}

/-- What is written down about a session: when a run is asked for, when a reply comes, and before
every statement. -/
structure Recorder (H : Type) where
  begins : String → Machine → H → H
  hears : Reply → Machine → H → H
  notes : Machine → H → H

variable {r : Recorder H}

namespace Recorder

/-- The record when a request has come. -/
def take (r : Recorder H) : Request → Machine → H → H
  | .run source => r.begins source
  | .feed reply => r.hears reply
  | _ => fun _ h => h

def read (r : Recorder H) (ks : List Machine) (h : H) : H := ks.foldl (fun h k => r.notes k h) h

@[simp] theorem read_nil (h : H) : r.read [] h = h := rfl

@[simp] theorem read_cons (k : Machine) (ks : List Machine) (h : H) :
    r.read (k :: ks) h = r.read ks (r.notes k h) := rfl

theorem read_append (ks ks' : List Machine) (h : H) :
    r.read (ks ++ ks') h = r.read ks' (r.read ks h) :=
  List.foldl_append

/-- The record after a session. -/
def record (r : Recorder H) (cycles : Nat) : List Request → Machine → H → H
  | [], _, h => h
  | request :: rest, m, h =>
    match handle cycles request m with
    | some (_, m₁) =>
      record r cycles rest m₁ (r.read (request.moments cycles m) (r.take request m h))
    | none => r.read (request.moments cycles m) (r.take request m h)

end Recorder

/-- Writes down the machines before all statements. -/
def passed : Recorder (List Machine) where
  begins _ _ ks := ks
  hears _ _ ks := ks
  notes k ks := ks ++ [k]

theorem read_passed (ks before : List Machine) : passed.read ks before = before ++ ks := by
  induction ks generalizing before with
  | nil => rw [Recorder.read_nil, List.append_nil]
  | cons k ks ih =>
      rw [Recorder.read_cons, ih]
      exact List.append_assoc before [k] ks

/-- What is written down are the moments of the session. -/
theorem record_passed (n : Nat) (requests : List Request) (m : Machine) (before : List Machine) :
    passed.record n requests m before = before ++ trail n requests m := by
  induction requests generalizing m before with
  | nil => exact (List.append_nil before).symm
  | cons request rest ih =>
      have htake : passed.take request m before = before := by cases request <;> rfl
      rw [Recorder.record, trail, read_passed, htake]
      cases handle n request m with
      | none => simp
      | some x =>
          dsimp only
          rw [ih, List.append_assoc]

/-- What an action comes to that may let a run go on: one property holds before the next statement,
and the other at rest. -/
def Turns (W R : H → Machine → Prop) (h : H) : Except Fault Progress × Machine → Prop
  | (.ok .goesOn, m) => W h m
  | (_, m) => R h m

/-- What a course comes to: the property holds at rest, and where there is no result, one of the two
holds of a machine on the way. -/
def Lasts (W R : H → Machine → Prop) (h : H) : Option (α × Machine) → Prop
  | some (_, m) => R h m
  | none => ∃ m, W h m ∨ R h m

/-- The record of a session and the machine are related by `W` before every statement and by `R`
between requests, for every request that `A` allows. -/
structure Recorded (r : Recorder H) (A : Request → Prop) (W R : H → Machine → Prop) : Prop where
  drives : ∀ ⦃request⦄, A request → request.drives = true
  start : ∀ ⦃h m⦄ (source : String), A (.run source) → R h m →
    Turns W R (r.begins source m h) ((start source).run.run m)
  feed : ∀ ⦃h m⦄ (reply : Reply), A (.feed reply) → R h m →
    Turns W R (r.hears reply m h) ((feed reply).run.run m)
  resume : ∀ ⦃h m⦄, A .resume → R h m → Turns W R h (resume.run.run m)
  wake : ∀ ⦃h m⦄, R h m → m.timers.pop.1 = true →
    Turns W R h (wake.run.run { m with timers := m.timers.pop.2 })
  drain : ∀ ⦃h m⦄, R h m → m.timers.pop.1 = false → R h { m with timers := m.timers.pop.2 }
  press : ∀ ⦃h m⦄ (key : String), R h m → R h ((press key).run.run m).2
  stop : ∀ ⦃h m⦄, A .stop → R h m → R h (stop.run.run m).2
  stopElsewhere : ∀ ⦃h m⦄, A .stopElsewhere → R h m → R h (stopElsewhere.run.run m).2
  finish : ∀ ⦃h m⦄ (fault : Option Fault), A (.finish fault) → R h m →
    R h ((finish fault).run.run m).2
  cycle : ∀ ⦃h m⦄, W h m → Turns W R (r.notes m h) (cycle.run.run m)

/-- What a course comes to may be told in other words. -/
theorem Lasts.map {h : H} {a : Course α} {m : Machine} (ha : Lasts W R h (a m)) (f : α → β) :
    Lasts W R h ((do return f (← a) : Course β) m) := by
  rw [course_bind]
  rcases hx : a m with _ | ⟨e | x, m₁⟩
  · rw [hx] at ha
    exact ha
  · rw [hx] at ha
    exact ha
  · rw [hx] at ha
    exact ha

theorem lasts_course {h : H} {a : Action α} {m : Machine} (ha : R h (a.run.run m).2) :
    Lasts W R h (course a m) := by
  rw [course_apply]
  rcases hrun : a.run.run m with ⟨x, m₁⟩
  rw [hrun] at ha
  exact ha

/-- What keeps a property of one machine keeps it next to a record that does not change. -/
theorem Matched.turns {h : H} {E : Fault → Prop} {x : Except Fault Progress × Machine}
    (hx : Matched (Below (W h)) (Below (R h)) E x x) : Turns W R h x := by
  cases hx with
  | goesOn h₁ => exact h₁.2
  | stops h₁ => exact h₁.2
  | error _ h₁ => exact h₁.2

theorem Agrees.keeps {P : Machine → Prop} {E : Fault → Prop} {a : Action α} {m : Machine}
    (ha : Agrees (Below P) E (course a m) (course a m)) : P (a.run.run m).2 := by
  rw [course_apply] at ha
  generalize a.run.run m = x at ha ⊢
  cases ha with
  | ok _ h₁ => exact h₁.2
  | error _ h₁ => exact h₁.2

/-- A recorder that writes down statements only, next to properties that requests keep. -/
theorem Receptive.recorded {E : Fault → Prop}
    (T : ∀ h, Receptive A (Below (W h)) (Below (R h)) E)
    (hbegins : ∀ source m h, r.begins source m h = h) (hhears : ∀ reply m h, r.hears reply m h = h)
    (hcycle : ∀ ⦃h m⦄, W h m → Turns W R (r.notes m h) (cycle.run.run m)) (h₀ : H) :
    Recorded r A W R where
  drives := (T h₀).drives
  start h m source hsource hm := by
    rw [hbegins]
    exact ((T h).start source hsource ⟨rfl, hm⟩).turns
  feed h m reply hreply hm := by
    rw [hhears]
    exact ((T h).feed reply hreply ⟨rfl, hm⟩).turns
  resume h _ _ hm := ((T h).resume ⟨rfl, hm⟩).turns
  wake h _ hm hfires := ((T h).wake ⟨rfl, hm⟩ hfires).turns
  drain h _ hm hfires := ((T h).drain ⟨rfl, hm⟩ hfires).2
  press h _ key hm := ((T h).press key ⟨rfl, hm⟩).keeps
  stop h _ _ hm := ((T h).stop ⟨rfl, hm⟩).keeps
  stopElsewhere h _ _ hm := ((T h).stopElsewhere ⟨rfl, hm⟩).keeps
  finish h _ fault hfault hm := ((T h).finish fault hfault ⟨rfl, hm⟩).keeps
  cycle := hcycle

theorem Turns.and {G : H → Prop} {h : H} {x : Except Fault Progress × Machine}
    (hx : Turns W R h x) (hG : G h) :
    Turns (fun h m => W h m ∧ G h) (fun h m => R h m ∧ G h) h x := by
  rcases x with ⟨e | progress, m⟩
  · exact ⟨hx, hG⟩
  · cases progress with
    | goesOn => exact ⟨hx, hG⟩
    | stops => exact ⟨hx, hG⟩

/-- So does an invariant of the machine. -/
theorem Turns.with {P P' : Machine → Prop} {E : Fault → Prop} {h : H}
    {x : Except Fault Progress × Machine} (hx : Turns W R h x)
    (hP : Matched (Below P) (Below P') E x x) :
    Turns (fun h m => W h m ∧ P m) (fun h m => R h m ∧ P' m) h x := by
  cases hP with
  | goesOn h₁ => exact ⟨hx, h₁.2⟩
  | stops h₁ => exact ⟨hx, h₁.2⟩
  | error _ h₁ => exact ⟨hx, h₁.2⟩

/-- Ending a run and stopping there. -/
theorem turns_finish {h : H} {fault : Option Fault} {m : Machine}
    (hm : R h ((finish fault).run.run m).2) :
    Turns W R h ((do finish fault; return .stops : Action Progress).run.run m) :=
  (matched_finish hm fun _ _ => trivial).turns (E := fun _ => True)

namespace Recorded

/-- A property of the record alone is kept by what is written down. -/
theorem and (T : Recorded r A W R) {G : H → Prop}
    (hbegins : ∀ source m h, G h → G (r.begins source m h))
    (hhears : ∀ reply m h, G h → G (r.hears reply m h))
    (hnotes : ∀ ⦃h m⦄, W h m → G h → G (r.notes m h)) :
    Recorded r A (fun h m => W h m ∧ G h) (fun h m => R h m ∧ G h) where
  drives := T.drives
  start h m source hsource hm := (T.start source hsource hm.1).and (hbegins source m h hm.2)
  feed h m reply hreply hm := (T.feed reply hreply hm.1).and (hhears reply m h hm.2)
  resume _ _ hresume hm := (T.resume hresume hm.1).and hm.2
  wake _ _ hm hfires := (T.wake hm.1 hfires).and hm.2
  drain _ _ hm hfires := ⟨T.drain hm.1 hfires, hm.2⟩
  press _ _ key hm := ⟨T.press key hm.1, hm.2⟩
  stop _ _ hstop hm := ⟨T.stop hstop hm.1, hm.2⟩
  stopElsewhere _ _ hstop hm := ⟨T.stopElsewhere hstop hm.1, hm.2⟩
  finish _ _ fault hfault hm := ⟨T.finish fault hfault hm.1, hm.2⟩
  cycle _ _ hm := (T.cycle hm.1).and (hnotes hm.1 hm.2)

theorem follow (T : Recorded r A W R) (n : Nat) {h : H} {m : Machine} (hm : W h m) :
    Lasts W R (r.read (moments n m) h) (follow n m) := by
  induction n generalizing h m with
  | zero => exact ⟨m, .inl hm⟩
  | succ n ih =>
      have hcycle := T.cycle hm
      rw [moments, follow_succ, Recorder.read_cons]
      rcases hrun : Machine.cycle.run.run m with ⟨e | progress, m₁⟩
      · rw [hrun] at hcycle
        exact hcycle
      · rw [hrun] at hcycle
        cases progress with
        | goesOn => exact ih hcycle
        | stops => exact hcycle

theorem followed (T : Recorded r A W R) (n : Nat) {h : H} {a : Action Progress} {m : Machine}
    (ha : Turns W R h (a.run.run m)) :
    Lasts W R (r.read (momentsAfter n a m) h) (followed n a m) := by
  rw [momentsAfter, followed_eq]
  rcases hrun : a.run.run m with ⟨e | progress, m₁⟩
  · rw [hrun] at ha
    exact ha
  · rw [hrun] at ha
    cases progress with
    | goesOn => exact T.follow n ha
    | stops => exact ha

theorem tick (T : Recorded r A W R) (n : Nat) {h : H} {m : Machine} (hm : R h m) :
    Lasts W R (r.read (tickMoments n m) h) (tick n m) := by
  have hwake := T.wake hm
  have hdrain := T.drain hm
  rw [tickMoments, tick_eq]
  rcases hpop : m.timers.pop with ⟨fires, timers⟩
  rw [hpop] at hwake hdrain
  cases fires with
  | false => exact hdrain rfl
  | true =>
      have hlasts := T.followed n (hwake rfl)
      dsimp only at hlasts ⊢
      rcases hrun : Machine.followed n Machine.wake { m with timers := timers } with
        _ | ⟨e | _, m₁⟩
      · rw [hrun] at hlasts
        exact hlasts
      · rw [hrun] at hlasts
        exact hlasts
      · rw [hrun] at hlasts
        exact hlasts

theorem tickAll (T : Recorded r A W R) (n ticks : Nat) {h : H} {m : Machine} (hm : R h m) :
    Lasts W R (r.read (tickAllMoments n ticks m) h) (tickAll n ticks m) := by
  induction ticks generalizing h m with
  | zero => exact ⟨m, .inr hm⟩
  | succ ticks ih =>
      have htick := T.tick n hm
      rw [tickAllMoments, tickAll_succ, Recorder.read_append]
      rcases hrun : Machine.tick n m with _ | ⟨e | fires, m₁⟩
      · rw [hrun] at htick
        exact htick
      · rw [hrun] at htick
        exact htick
      · rw [hrun] at htick
        cases fires with
        | false => exact htick
        | true =>
            have hrest := ih (h := r.read (tickMoments n m) h) htick
            dsimp only
            rcases hticks : Machine.tickAll n ticks m₁ with _ | ⟨e | count, m₂⟩
            · rw [hticks] at hrest
              exact hrest
            · rw [hticks] at hrest
              exact hrest
            · rw [hticks] at hrest
              exact hrest

theorem handle (T : Recorded r A W R) (n : Nat) {request : Request} (hA : A request) {h : H}
    {m : Machine} (hm : R h m) :
    Lasts W R (r.read (request.moments n m) (r.take request m h)) (handle n request m) := by
  cases request with
  | run source => exact (T.followed n (T.start source hA hm)).map fun _ => _
  | feed reply => exact (T.followed n (T.feed reply hA hm)).map fun _ => _
  | resume => exact (T.followed n (T.resume hA hm)).map fun _ => _
  | tick => exact (T.tick n hm).map Value.truth
  | tickAll => exact (T.tickAll n n hm).map fun count => Value.int count
  | press key => exact (lasts_course (T.press key hm)).map fun _ => _
  | stop => exact (lasts_course (T.stop hA hm)).map fun _ => _
  | stopElsewhere => exact (lasts_course (T.stopElsewhere hA hm)).map fun _ => _
  | finish fault => exact (lasts_course (T.finish fault hA hm)).map fun _ => _
  | _ => cases T.drives hA

/-- The record of a session and the machine at its end are related, or the record and a machine on
the way. -/
theorem attend (T : Recorded r A W R) (n : Nat) {requests : List Request}
    (hA : ∀ request ∈ requests, A request) {h : H} {m : Machine} (hm : R h m) :
    Lasts W R (r.record n requests m h) (attend n requests m) := by
  induction requests generalizing h m with
  | nil => exact hm
  | cons request rest ih =>
      have hrequest := T.handle n (hA request (by simp)) hm
      rw [Recorder.record, Machine.attend]
      rcases hrun : Machine.handle n request m with _ | ⟨answer, m₁⟩
      · rw [hrun] at hrequest
        exact hrequest
      · rw [hrun] at hrequest
        have hrest := ih (fun request hmem => hA request (by simp [hmem])) hrequest
        dsimp only
        rcases hmore : Machine.attend n rest m₁ with _ | ⟨answers, m₂⟩
        · rw [hmore] at hrest
          exact hrest
        · rw [hmore] at hrest
          exact hrest

end Recorded

end Machine

end LineBasic

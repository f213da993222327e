import LineBasic.Proofs.Machine.Asking
import LineBasic.Proofs.Program
import Mathlib.Logic.Relation

/-!
# The moment of a reply does not matter

Replies can be fed before the run, during its pauses, or when it waits for them. Any two ways of
feeding the same replies in the same order, with timers fired in between, come to the same end.

Every such way is compared with one in which all replies are in the queue from the start. That one
is a deterministic system of configurations: a run that is under way takes its next cycle, and a run
at rest is woken by its timer if there is one. `Stands` relates the machine in the middle of
requests to the configuration it would be in if the replies still to come were there already, and
each request moves along the run of that configuration.
-/

namespace LineBasic

namespace Machine

/-- The questions that a run has asked, each with its answer if there was one. -/
abbrev Dialogue := List (String × Option Reply)

/-- The questions that a run asks in at most the given number of cycles. -/
def questions : Nat → Machine → Dialogue
  | 0, _ => []
  | cycles + 1, m =>
    (question? m).toList ++
      match cycle.run.run m with
      | (.ok .goesOn, m₁) => questions cycles m₁
      | _ => []

/-- What a request does before the run that it may let go on. -/
def opening : Request → Action Progress
  | .run source => start source
  | .feed reply => feed reply
  | .tick => do if ← popTimer then wake else return .stops
  | _ => return .stops

def answerLast (reply : Reply) (d : Dialogue) : Dialogue :=
  match d.getLast? with
  | some (name, _) => d.dropLast ++ [(name, some reply)]
  | none => []

def heldQuestion? : Console → Option String
  | .buffer b => b.asking
  | .stream _ => none

/-- The dialogue after a request: a reply that was waited for answers the last question, and the run
that goes on asks its own. -/
def note (cycles : Nat) (request : Request) (m : Machine) (d : Dialogue) : Dialogue :=
  let answered := match request with
    | .feed reply => if (heldQuestion? m.console).isSome then answerLast reply d else d
    | _ => d
  answered ++
    match (opening request).run.run m with
    | (.ok .goesOn, m₁) => questions cycles m₁
    | _ => []

/-- Answers requests one after another, each run being followed for at most the given number of
cycles, and keeps the dialogue. A request that is at fault leaves the machine as it is then. -/
def serve (cycles : Nat) : List Request → Machine → Dialogue → Option (Machine × Dialogue)
  | [], m, d => some (m, d)
  | request :: rest, m, d =>
    match handle cycles request m with
    | none => none
    | some (_, m₁) => serve cycles rest m₁ (note cycles request m d)

/-- Requests in which replies are fed in the given order, timers are fired any number of times, and
a program is run once, unless it has been `started` already. -/
inductive Interleaving (source : String) : Bool → List String → List Request → Prop
  | done : Interleaving source true [] []
  | tick {started : Bool} {texts : List String} {requests : List Request} :
      Interleaving source started texts requests →
      Interleaving source started texts (.tick :: requests)
  | feed {started : Bool} {text : String} {texts : List String} {requests : List Request} :
      Interleaving source started texts requests →
      Interleaving source started (text :: texts) (.feed (some text) :: requests)
  | run {texts : List String} {requests : List Request} :
      Interleaving source true texts requests →
      Interleaving source false texts (.run source :: requests)

/-- A machine before its first run, with an empty buffer as console and the functions of the
language. -/
structure Fresh (m : Machine) : Prop where
  phase : m.phase = .idle
  timers : m.timers = {}
  console : m.console = .buffer {}
  functions : m.functions = defaultFunctions

/-- Where a machine is that knows all replies from the start: whether its run is under way, and what
has been asked. -/
structure Config where
  machine : Machine
  moving : Bool
  dialogue : Dialogue

/-- The next configuration: a run under way takes a cycle, a timer wakes a run at rest. -/
def Config.next? (c : Config) : Option Config :=
  if c.moving then
    let d := c.dialogue ++ (question? c.machine).toList
    match cycle.run.run c.machine with
    | (.ok .goesOn, m) => some ⟨m, true, d⟩
    | (_, m) => some ⟨m, false, d⟩
  else if c.machine.timers.live.isEmpty then none
  else
    match (opening .tick).run.run c.machine with
    | (.ok .goesOn, m) => some ⟨m, true, c.dialogue⟩
    | (_, m) => some ⟨m, false, c.dialogue⟩

abbrev Leads : Config → Config → Prop := Relation.ReflTransGen fun c c' => c.next? = some c'

/-- The configuration in which a run starts with all replies in the queue. -/
def initial (source : String) (texts : List String) (m : Machine) : Config :=
  match (start source).run.run (push texts m) with
  | (.ok .goesOn, m₁) => ⟨m₁, true, []⟩
  | (_, m₁) => ⟨m₁, false, []⟩

/-- A dialogue in which the questions have been answered by the texts in order, with the given texts
left over. -/
structure Answers (texts : List String) (d : Dialogue) (left : List String) : Prop where
  left_eq : left = texts.drop d.length
  answer : ∀ (k : Nat) (entry : String × Option Reply), d[k]? = some entry →
    entry.2 = texts[k]?.map some

theorem Answers.snoc {texts left : List String} {d : Dialogue} (h : Answers texts d left)
    (name : String) :
    Answers texts (d ++ [(name, left.head?.map some)]) left.tail := by
  constructor
  · rw [h.left_eq, List.tail_drop, List.length_append]
    rfl
  · intro k entry hentry
    rcases Nat.lt_trichotomy k d.length with hk | hk | hk
    · rw [List.getElem?_append_left hk] at hentry
      exact h.answer k entry hentry
    · subst hk
      rw [List.getElem?_concat_length] at hentry
      cases hentry
      rw [h.left_eq, List.head?_drop]
    · rw [List.getElem?_eq_none (by simp; omega)] at hentry
      cases hentry

/-- A machine between requests and the configuration that it stands for, with the replies still to
come. At rest and in a pause these replies would be in the queue. A question that is held would have
been answered by the first of them, and the run would be under way. -/
inductive Stands (texts : List String) : List String → Machine → Dialogue → Config → Prop
  | resting {q u : List String} {m : Machine} {d : Dialogue} :
      Settled q m → Answers texts d (q ++ u) → Stands texts u m d ⟨push u m, false, d⟩
  | paused {q u : List String} {m : Machine} {d : Dialogue} {s : Float} :
      Steady q m → Answers texts d (q ++ u) →
      Stands texts u (pausedFor s m) d ⟨push u (pausedFor s m), false, d⟩
  | held {m : Machine} {d : Dialogue} {name : String} :
      Steady [] m → Answers texts d [] →
      Stands texts [] (held name m) (d ++ [(name, none)]) ⟨held name m, false, d ++ [(name, none)]⟩
  | answered {u : List String} {m : Machine} {d : Dialogue} {name text : String} :
      Steady [] m → Answers texts d (text :: u) →
      Stands texts (text :: u) (held name m) (d ++ [(name, none)])
        ⟨push u (stored name text m), true, d ++ [(name, some (some text))]⟩

theorem next_of_no_question {q : List String} {m : Machine} (h : Steady q m)
    (hq : question? m = none) (u : List String) (d : Dialogue) :
    Config.next? ⟨push u m, true, d⟩ =
      match cycle.run.run m with
      | (.ok .goesOn, m₁) => some ⟨push u m₁, true, d⟩
      | (_, m₁) => some ⟨push u m₁, false, d⟩ := by
  unfold Config.next?
  dsimp only
  rw [if_pos rfl, h.settled.question_push hq u, h.cycle_push hq u, Option.toList_none,
    List.append_nil]
  rcases cycle.run.run m with ⟨e | p, m₁⟩
  · rfl
  · cases p <;> rfl

theorem questions_succ {m m₁ : Machine} (h : cycle.run.run m = (.ok .goesOn, m₁)) (n : Nat) :
    questions (n + 1) m = (question? m).toList ++ questions n m₁ := by
  rw [questions, h]

theorem questions_last {m m₁ : Machine} {r : Except Fault Progress}
    (h : cycle.run.run m = (r, m₁)) (hr : r ≠ .ok .goesOn) (n : Nat) :
    questions (n + 1) m = (question? m).toList := by
  rw [questions, h]
  rcases r with e | p
  · exact List.append_nil _
  · cases p with
    | goesOn => exact absurd rfl hr
    | stops => exact List.append_nil _

/-- A run that is followed to its end or to a suspension moves along the run of its
configuration. -/
theorem follow_stands {texts q u : List String} {n : Nat} {m m' : Machine} {d : Dialogue}
    (h : Steady q m) (hd : Answers texts d (q ++ u)) {r : Except Fault Unit}
    (hfollow : follow n m = some (r, m')) :
    ∃ c, Stands texts u m' (d ++ questions n m) c ∧ Leads ⟨push u m, true, d⟩ c := by
  induction n generalizing q m d with
  | zero => cases hfollow
  | succ n ih =>
      rw [follow_succ] at hfollow
      cases hq : question? m with
      | none =>
          have hnext := next_of_no_question h hq u d
          rcases h.cycle_of_no_question hq with ⟨m₁, hcycle, h₁⟩ | ⟨s, m₁, hcycle, h₁⟩ |
            ⟨r₁, m₁, hcycle, hr₁, h₁⟩
          · rw [hcycle] at hfollow hnext
            rw [questions_succ hcycle, hq, Option.toList_none, List.nil_append]
            obtain ⟨c, hc, hleads⟩ := ih h₁ hd hfollow
            exact ⟨c, hc, .head hnext hleads⟩
          · rw [hcycle] at hfollow hnext
            cases hfollow
            rw [questions_last hcycle nofun, hq, Option.toList_none, List.append_nil]
            exact ⟨_, .paused h₁ hd, .single hnext⟩
          · rw [questions_last hcycle hr₁, hq, Option.toList_none, List.append_nil]
            rw [hcycle] at hfollow hnext
            rcases r₁ with e | p
            · cases hfollow
              exact ⟨_, .resting h₁ hd, .single hnext⟩
            · cases p with
              | goesOn => exact absurd rfl hr₁
              | stops =>
                  cases hfollow
                  exact ⟨_, .resting h₁ hd, .single hnext⟩
      | some question =>
          obtain ⟨prompt, m₀, hc⟩ := question_eq_some hq
          have hasked := h.question_of_command hc
          have hasked' := (h.push u).question_of_command (h.settled.commandHere_push hc u)
          have hnext : ∀ {p : Progress} {m₁ : Machine},
              cycle.run.run (push u m) = (.ok p, m₁) →
              Config.next? ⟨push u m, true, d⟩ = some ⟨m₁, p = .goesOn,
                d ++ [(question.1, (q ++ u).head?.map some)]⟩ := by
            intro p m₁ hcycle
            unfold Config.next?
            dsimp only
            rw [if_pos rfl, hasked', hcycle]
            cases p <;> rfl
          have hd' := hd.snoc question.1
          cases q with
          | cons text q =>
              obtain ⟨m₁, h₁, hcycle⟩ := h.cycle_of_answer hc
              have hgoes := hcycle []
              rw [push_nil, push_nil] at hgoes
              rw [hgoes] at hfollow
              obtain ⟨c, hc, hleads⟩ := ih h₁ hd' hfollow
              rw [questions_succ hgoes, hasked, Option.toList_some, ← List.append_assoc]
              exact ⟨c, hc, .head (hnext (hcycle u)) hleads⟩
          | nil =>
              obtain ⟨m₁, h₁, hholds, hanswer⟩ := h.cycle_of_question hc
              rw [hholds] at hfollow
              cases hfollow
              rw [questions_last hholds nofun, hasked, Option.toList_some]
              cases u with
              | nil =>
                  rw [← push_nil m] at hholds
                  exact ⟨_, .held h₁ hd, .single (hnext hholds)⟩
              | cons text u => exact ⟨_, .answered h₁ hd, .single (hnext (hanswer text u))⟩

/-- A reply that nobody waits for is put in the queue. -/
theorem run_feed_kept {m : Machine} {b : Buffer} (hb : m.console = .buffer b)
    (hasking : b.asking = none) (text : String) :
    (feed (some text)).run.run m = (.ok .stops, push [text] m) := by
  have hfeed : m.console.feed (some text) =
      (none, .buffer { b with replies := b.replies ++ [some text] }) := by
    rw [hb]
    unfold Console.feed
    dsimp only
    rw [hasking]
  unfold feed
  rw [run_bind, run_get, push_eq hb]
  simp only [hfeed, run_bind, run_set, run_pure, List.map_cons, List.map_nil]

/-- A reply to the question that is held is stored, and the run goes on. -/
theorem run_feed_held {m : Machine} (h : Steady [] m) (name text : String) :
    (feed (some text)).run.run (held name m) = (.ok .goesOn, stored name text m) := by
  obtain ⟨b, hb, hasking, -⟩ := h.settled.console
  have hended : ¬ Phase.waiting = .ended := by decide
  have hgoes : ¬ m.halted = true := by rw [h.underway.halted]; decide
  have hbuffer : { b with asking := none } = b := by rw [← hasking]
  rw [held_eq hb]
  unfold feed receive react goOn execute
  simp only [run_bind, run_get, run_set, Console.feed, if_neg hended, replyValue_some, setVariable,
    run_modify, run_pure, and_self, if_true, if_neg hgoes, hbuffer]
  rw [stored, ← hb, ← h.underway.phase, ← h.underway.waiting]

theorem run_opening_tick (m : Machine) :
    (opening .tick).run.run m =
      match m.timers.pop with
      | (true, timers) => wake.run.run { m with timers := timers }
      | (false, timers) => (.ok .stops, { m with timers := timers }) := by
  unfold opening popTimer
  simp only [run_bind, run_get, run_set, run_pure]
  rcases m.timers.pop with ⟨fires, timers⟩
  cases fires <;> rfl

/-- With no timer in the queue a tick does nothing. -/
theorem run_tick_idle {m : Machine} (h : m.timers.queue = []) :
    (opening .tick).run.run m = (.ok .stops, m) := by
  have hpop : m.timers.pop = (false, m.timers) := by
    unfold Timers.pop
    rw [h]
    dsimp only [List.dropWhile]
    rw [← h]
  rw [run_opening_tick, hpop]

/-- A tick takes up a run in a pause. -/
theorem run_tick_paused {q : List String} {m : Machine} (h : Steady q m) (s : Float) :
    (opening .tick).run.run (pausedFor s m) =
      (.ok .goesOn, { m with timers := { queue := [], asked := m.timers.asked ++ [s] } }) := by
  have hgoes : ¬ m.halted = true := by rw [h.underway.halted]; decide
  have hpop : (pausedFor s m).timers.pop =
      (true, { queue := [], asked := m.timers.asked ++ [s] }) := by
    unfold pausedFor Timers.set Timers.pop
    dsimp only
    rw [h.settled.queue]
    rfl
  rw [run_opening_tick, hpop]
  unfold pausedFor wake goOn execute
  simp only [run_bind, run_get, run_modify, run_pure, if_true, if_neg hgoes]
  rw [← h.underway.phase, ← h.underway.timer]

theorem pausedFor_push {q : List String} {m : Machine} (h : Settled q m) (s : Float)
    (u : List String) : push u (pausedFor s m) = pausedFor s (push u m) := by
  obtain ⟨b, hb, -, -⟩ := h.console
  have hb' : (pausedFor s m).console = .buffer b := hb
  rw [push_eq hb', push_eq hb]
  rfl

theorem Steady.woken {q : List String} {m : Machine} (h : Steady q m) (asked : List Float) :
    Steady q { m with timers := { queue := [], asked := asked } } :=
  ⟨⟨h.underway.phase, h.underway.jumped, h.underway.halted, h.underway.waiting, h.underway.delay,
      h.underway.timer⟩,
    ⟨h.settled.timer, rfl, h.settled.functions, h.settled.closes, h.settled.console⟩⟩

theorem held_console {m : Machine} (h : Settled [] m) (name : String) :
    heldQuestion? (held name m).console = some name := by
  obtain ⟨b, hb, -, -⟩ := h.console
  rw [held_eq hb]
  rfl

theorem Settled.no_held_question {q : List String} {m : Machine} (h : Settled q m) :
    heldQuestion? m.console = none := by
  obtain ⟨b, hb, hasking, -⟩ := h.console
  rw [hb]
  exact hasking

theorem answerLast_snoc (reply : Reply) (d : Dialogue) (name : String) (answer : Option Reply) :
    answerLast reply (d ++ [(name, answer)]) = d ++ [(name, some reply)] := by
  unfold answerLast
  rw [List.getLast?_concat, List.dropLast_concat]

/-- A request opens with its action, and then follows the run that goes on. -/
def admits : Request → Bool
  | .run _ => true
  | .feed _ => true
  | .tick => true
  | _ => false

theorem handle_opening {request : Request} (h : admits request = true) (n : Nat) (m : Machine) :
    (handle n request m).map Prod.snd = (followed n (opening request) m).map Prod.snd := by
  have hfollowing : ∀ action : Action Progress,
      (following n action m).map Prod.snd = (followed n action m).map Prod.snd := by
    intro action
    rw [following, course_bind]
    rcases followed n action m with _ | ⟨_ | _, _⟩ <;> rfl
  cases request with
  | run source => exact hfollowing _
  | feed reply => exact hfollowing _
  | tick =>
      rw [handle, course_bind, tick_eq, followed_eq, run_opening_tick]
      rcases m.timers.pop with ⟨fires, timers⟩
      cases fires with
      | false => rfl
      | true =>
          dsimp only
          rw [followed_eq]
          rcases wake.run.run { m with timers := timers } with ⟨e | p, m₁⟩
          · rfl
          · cases p with
            | stops => rfl
            | goesOn =>
                dsimp only
                rcases follow n m₁ with _ | ⟨_ | _, _⟩ <;> rfl
  | _ => cases h

theorem serve_cons {n : Nat} {request : Request} (h : admits request = true)
    (rest : List Request) (m : Machine) (d : Dialogue) :
    serve n (request :: rest) m d =
      match followed n (opening request) m with
      | none => none
      | some (_, m₁) => serve n rest m₁ (note n request m d) := by
  rw [serve]
  have hsame := handle_opening h n m
  cases hfollowed : followed n (opening request) m with
  | none =>
      rw [hfollowed] at hsame
      rw [Option.map_eq_none_iff.mp hsame]
  | some y =>
      rw [hfollowed] at hsame
      obtain ⟨x, hhandle, hmachine⟩ := Option.map_eq_some_iff.mp hsame
      rw [hhandle]
      dsimp only
      rw [hmachine]

theorem serve_cons_some {n : Nat} {request : Request} (h : admits request = true)
    {rest : List Request} {m : Machine} {d : Dialogue} {x : Machine × Dialogue}
    (hserve : serve n (request :: rest) m d = some x) :
    ∃ r m₁, followed n (opening request) m = some (r, m₁) ∧
      serve n rest m₁ (note n request m d) = some x := by
  rw [serve_cons h] at hserve
  split at hserve
  · cases hserve
  · next r m₁ hfollowed => exact ⟨r, m₁, hfollowed, hserve⟩

/-- What is noted of a request that lets no run go on: nothing but an answer. -/
theorem note_tick_stops {n : Nat} {m m₁ : Machine} (d : Dialogue)
    (h : (opening .tick).run.run m = (.ok .stops, m₁)) : note n .tick m d = d := by
  unfold note
  rw [h]
  exact List.append_nil d

theorem note_tick_goesOn {n : Nat} {m m₁ : Machine} (d : Dialogue)
    (h : (opening .tick).run.run m = (.ok .goesOn, m₁)) :
    note n .tick m d = d ++ questions n m₁ := by
  unfold note
  rw [h]

/-- A reply puts the machine further along the run of its configuration. -/
theorem feed_stands {texts u : List String} {text : String} {n : Nat} {m m' : Machine}
    {d : Dialogue} {c : Config} (h : Stands texts (text :: u) m d c) {r : Except Fault Unit}
    (hfollowed : followed n (opening (.feed (some text))) m = some (r, m')) :
    ∃ c', Stands texts u m' (note n (.feed (some text)) m d) c' ∧ Leads c c' := by
  rw [followed_eq] at hfollowed
  cases h with
  | @resting q u m d hm hd =>
      obtain ⟨b, hb, hasking, -⟩ := hm.console
      have hfeed : (opening (.feed (some text))).run.run m = (.ok .stops, push [text] m) :=
        run_feed_kept hb hasking text
      have hnote : note n (.feed (some text)) m d = d := by
        unfold note
        rw [hfeed, hm.no_held_question]
        exact List.append_nil d
      rw [hfeed] at hfollowed
      cases hfollowed
      have hd' : Answers texts d ((q ++ [text]) ++ u) := by
        rw [List.append_assoc]
        exact hd
      have hstands := Stands.resting (hm.push [text]) hd'
      rw [push_push] at hstands
      rw [hnote]
      exact ⟨_, hstands, .refl⟩
  | @paused q u m d s hm hd =>
      obtain ⟨b, hb, hasking, -⟩ := hm.settled.console
      have hfeed : (opening (.feed (some text))).run.run (pausedFor s m) =
          (.ok .stops, pausedFor s (push [text] m)) := by
        rw [← pausedFor_push hm.settled]
        exact run_feed_kept (m := pausedFor s m) hb hasking text
      have hnote : note n (.feed (some text)) (pausedFor s m) d = d := by
        have hquiet : heldQuestion? (pausedFor s m).console = none :=
          hm.settled.no_held_question
        unfold note
        rw [hfeed, hquiet]
        exact List.append_nil d
      rw [hfeed] at hfollowed
      cases hfollowed
      have hd' : Answers texts d ((q ++ [text]) ++ u) := by
        rw [List.append_assoc]
        exact hd
      have hstands := Stands.paused (s := s) (hm.push [text]) hd'
      rw [← pausedFor_push hm.settled, push_push] at hstands
      rw [hnote]
      rw [← pausedFor_push hm.settled]
      exact ⟨_, hstands, .refl⟩
  | @answered u m d name text hm hd =>
      have hfeed : (opening (.feed (some text))).run.run (Machine.held name m) =
          (.ok .goesOn, stored name text m) := run_feed_held hm name text
      have hnote : note n (.feed (some text)) (Machine.held name m) (d ++ [(name, none)]) =
          (d ++ [(name, some (some text))]) ++ questions n (stored name text m) := by
        unfold note
        rw [hfeed, held_console hm.settled]
        dsimp only [Option.isSome_some]
        rw [if_pos rfl, answerLast_snoc]
      rw [hfeed] at hfollowed
      rw [hnote]
      exact follow_stands (hm.stored name text) (hd.snoc name) hfollowed

/-- A tick puts the machine further along the run of its configuration. -/
theorem tick_stands {texts u : List String} {n : Nat} {m m' : Machine} {d : Dialogue} {c : Config}
    (h : Stands texts u m d c) {r : Except Fault Unit}
    (hfollowed : followed n (opening .tick) m = some (r, m')) :
    ∃ c', Stands texts u m' (note n .tick m d) c' ∧ Leads c c' := by
  rw [followed_eq] at hfollowed
  have hidle : m.timers.queue = [] →
      ∃ c', Stands texts u m' (note n .tick m d) c' ∧ Leads c c' := by
    intro hqueue
    have htick := run_tick_idle hqueue
    rw [htick] at hfollowed
    cases hfollowed
    rw [note_tick_stops d htick]
    exact ⟨c, h, .refl⟩
  have hheld : ∀ {name : String} {m₀ : Machine}, Settled [] m₀ →
      (Machine.held name m₀).timers.queue = [] := by
    intro name m₀ h₀
    obtain ⟨b, hb, -, -⟩ := h₀.console
    rw [held_eq hb]
    exact h₀.queue
  cases h with
  | resting hm hd => exact hidle hm.queue
  | @paused q u m d s hm hd =>
      have htick := run_tick_paused hm s
      have hpushed := run_tick_paused (hm.push u) s
      rw [htick] at hfollowed
      obtain ⟨c', hc', hleads⟩ := follow_stands (hm.woken (m.timers.asked ++ [s])) hd hfollowed
      rw [note_tick_goesOn d htick]
      refine ⟨c', hc', .head ?_ hleads⟩
      obtain ⟨b, hb, -, -⟩ := hm.settled.console
      have hlive : (pausedFor s (push u m)).timers.live.isEmpty = false := by
        rw [push_eq hb]
        unfold pausedFor Timers.set Timers.live
        dsimp only
        rw [hm.settled.queue]
        rfl
      unfold Config.next?
      dsimp only
      rw [if_neg Bool.false_ne_true, pausedFor_push hm.settled, hlive, hpushed]
      dsimp only
      rw [if_neg Bool.false_ne_true, push_eq hb,
        push_eq (m := { m with timers := ⟨[], m.timers.asked ++ [s]⟩ }) hb]
  | held hm hd => exact hidle (hheld hm.settled)
  | answered hm hd => exact hidle (hheld hm.settled)

/-- A machine before its run, with replies in the queue already. -/
structure Ready (q : List String) (m : Machine) : Prop where
  phase : m.phase = .idle
  queue : m.timers.queue = []
  functions : ∀ name, m.functions.get? name ≠ some .stop
  console : ∃ b, m.console = .buffer b ∧ b.asking = none ∧ b.replies = q.map some

theorem Ready.push {q : List String} {m : Machine} (h : Ready q m) (u : List String) :
    Ready (q ++ u) (push u m) := by
  obtain ⟨b, hb, hasking, hreplies⟩ := h.console
  rw [push_eq hb]
  refine ⟨h.phase, h.queue, h.functions, _, rfl, hasking, ?_⟩
  rw [List.map_append, hreplies]

theorem Fresh.ready {m : Machine} (h : Fresh m) : Ready [] m :=
  ⟨h.phase, by rw [h.timers], fun name => by rw [h.functions]; exact defaultFunctions_unstopped name,
    _, h.console, rfl, rfl⟩

/-- The start of a run with replies in the queue: the run goes on, or has come to rest at once. -/
theorem Ready.start {q : List String} {m : Machine} (h : Ready q m) {source : String}
    (hcloses : ∀ program, Program.load source = .ok program → program.ClosesQuietly) :
    (∃ m₁, (start source).run.run m = (.ok .goesOn, m₁) ∧ Steady q m₁) ∨
      ∃ r m₁, (start source).run.run m = (r, m₁) ∧ r ≠ .ok .goesOn ∧ Settled q m₁ := by
  have hfinish : ∀ (fault : Option Fault) (m₀ : Machine), Settled q m₀ →
      ∃ r m₁, (do finish fault; return .stops : Action Progress).run.run m₀ = (r, m₁) ∧
        r ≠ .ok .goesOn ∧ Settled q m₁ := by
    intro fault m₀ h₀
    have hkeeps := ((unaffected_settled q).finish fault).keeps h₀
    rw [run_finish_then]
    cases ((finish fault).run.run m₀).1 with
    | error e => exact ⟨.error e, _, rfl, nofun, hkeeps⟩
    | ok _ => exact ⟨.ok .stops, _, rfl, nofun, hkeeps⟩
  have hbusy : ¬ (m.phase = .running ∨ m.phase = .paused ∨ m.phase = .waiting) := by
    rw [h.phase]
    decide
  have hreset : Settled q (reset m) :=
    ⟨rfl, h.queue, h.functions, Program.closesQuietly_empty, h.console⟩
  rw [start_eq, run_bind, run_get]
  dsimp only
  rw [if_neg hbusy, launch, run_bind, run_modify]
  dsimp only
  cases hload : Program.load source with
  | error fault =>
      dsimp only
      split
      · exact .inr ⟨.error fault, reset m, rfl, nofun, hreset⟩
      · exact .inr (hfinish (some fault) _ hreset)
  | ok program =>
      have hloaded : Settled q { reset m with program := program } :=
        ⟨rfl, h.queue, h.functions, hcloses program hload, h.console⟩
      dsimp only
      rw [run_bind, run_modify]
      dsimp only
      cases program.first? with
      | none => exact .inr (hfinish none _ hloaded)
      | some line =>
          refine .inl ⟨_, rfl, ⟨rfl, rfl, rfl, rfl, rfl, rfl⟩, ?_⟩
          exact ⟨rfl, h.queue, h.functions, hcloses program hload, h.console⟩

/-- Requests after the start of the run move the machine along the run of its configuration. -/
theorem serve_stands {source : String} {texts u : List String} {n : Nat} {requests : List Request}
    {m m' : Machine} {d d' : Dialogue} {c : Config}
    (hrequests : Interleaving source true u requests) (h : Stands texts u m d c)
    (hserve : serve n requests m d = some (m', d')) :
    ∃ c', Stands texts [] m' d' c' ∧ Leads c c' := by
  induction requests generalizing u m d c with
  | nil =>
      cases hrequests
      cases hserve
      exact ⟨c, h, .refl⟩
  | cons request requests ih =>
      cases hrequests with
      | tick hrest =>
          obtain ⟨r, m₁, hfollowed, hserve⟩ := serve_cons_some rfl hserve
          obtain ⟨c₁, h₁, hleads⟩ := tick_stands h hfollowed
          obtain ⟨c', h', hleads'⟩ := ih hrest h₁ hserve
          exact ⟨c', h', hleads.trans hleads'⟩
      | feed hrest =>
          obtain ⟨r, m₁, hfollowed, hserve⟩ := serve_cons_some rfl hserve
          obtain ⟨c₁, h₁, hleads⟩ := feed_stands h hfollowed
          obtain ⟨c', h', hleads'⟩ := ih hrest h₁ hserve
          exact ⟨c', h', hleads.trans hleads'⟩

/-- Requests from before the start of the run come to the run that starts with all replies. -/
theorem serve_ready {source : String} {texts q u : List String} {n : Nat}
    {requests : List Request} {m m' : Machine} {d' : Dialogue}
    (hcloses : ∀ program, Program.load source = .ok program → program.ClosesQuietly)
    (hrequests : Interleaving source false u requests) (h : Ready q m) (htexts : texts = q ++ u)
    (hserve : serve n requests m [] = some (m', d')) :
    ∃ c', Stands texts [] m' d' c' ∧ Leads (initial source u m) c' := by
  induction requests generalizing q u m with
  | nil => cases hrequests
  | cons request requests ih =>
      cases hrequests with
      | tick hrest =>
          obtain ⟨r, m₁, hfollowed, hserve⟩ := serve_cons_some rfl hserve
          have htick := run_tick_idle h.queue
          rw [note_tick_stops [] htick] at hserve
          rw [followed_eq, htick] at hfollowed
          cases hfollowed
          exact ih hrest h htexts hserve
      | @feed _ text u _ hrest =>
          obtain ⟨r, m₁, hfollowed, hserve⟩ := serve_cons_some rfl hserve
          obtain ⟨b, hb, hasking, -⟩ := h.console
          have hfeed :
              (opening (.feed (some text))).run.run m = (.ok .stops, Machine.push [text] m) :=
            run_feed_kept hb hasking text
          have hnote : note n (.feed (some text)) m [] = [] := by
            unfold note
            rw [hfeed, hb]
            simp only [heldQuestion?, hasking]
            rfl
          rw [hnote] at hserve
          rw [followed_eq, hfeed] at hfollowed
          cases hfollowed
          have hleads := ih hrest (h.push [text]) (by rw [htexts, List.append_assoc]; rfl) hserve
          unfold initial at hleads ⊢
          rw [push_push] at hleads
          exact hleads
      | run hrest =>
          obtain ⟨r, m₁, hfollowed, hserve⟩ := serve_cons_some rfl hserve
          obtain ⟨b, hb, hasking, -⟩ := h.console
          obtain ⟨hres, hrel⟩ := pushed_start source (u := u) ⟨b, hb, hasking, push_eq hb u⟩
          have hd : Answers texts [] (q ++ u) := ⟨htexts.symm, nofun⟩
          rw [followed_eq] at hfollowed
          unfold note at hserve
          dsimp only [opening] at hfollowed hserve
          unfold initial
          rcases h.start hcloses with ⟨m₂, hstart, h₂⟩ | ⟨r₂, m₂, hstart, hr₂, h₂⟩
          · rcases hpushed : (start source).run.run (Machine.push u m) with ⟨x, m₃⟩
            rw [hstart, hpushed] at hres hrel
            cases hres
            rw [hstart] at hfollowed hserve
            obtain ⟨c₁, h₁, hleads⟩ := follow_stands h₂ hd hfollowed
            obtain ⟨c', h', hleads'⟩ := serve_stands hrest h₁ hserve
            have hm₃ := hrel.eq
            dsimp only at hm₃
            rw [hm₃]
            exact ⟨c', h', hleads.trans hleads'⟩
          · rcases hpushed : (start source).run.run (Machine.push u m) with ⟨x, m₃⟩
            rw [hstart, hpushed] at hres hrel
            cases hres
            rw [hstart] at hfollowed hserve
            have hm₃ := hrel.eq
            dsimp only at hm₃
            rcases r₂ with e | p
            · cases hfollowed
              obtain ⟨c', h', hleads⟩ := serve_stands hrest (.resting h₂ hd) hserve
              rw [hm₃]
              exact ⟨c', h', hleads⟩
            · cases p with
              | goesOn => exact absurd rfl hr₂
              | stops =>
                  cases hfollowed
                  obtain ⟨c', h', hleads⟩ := serve_stands hrest (.resting h₂ hd) hserve
                  rw [hm₃]
                  exact ⟨c', h', hleads⟩

/-- With all replies fed and no live timer, a machine stands for itself and for the end of the
run. -/
theorem Stands.final {texts : List String} {m : Machine} {d : Dialogue} {c : Config}
    (h : Stands texts [] m d c) (hlive : m.timers.live = []) :
    c = ⟨m, false, d⟩ ∧ c.next? = none ∧ ∃ left, Answers texts d left := by
  have hnext : Config.next? ⟨m, false, d⟩ = none := by
    unfold Config.next?
    dsimp only
    rw [if_neg Bool.false_ne_true, hlive]
    rfl
  cases h with
  | resting hm hd =>
      rw [push_nil]
      exact ⟨rfl, hnext, _, hd⟩
  | paused hm hd =>
      rw [push_nil]
      exact ⟨rfl, hnext, _, hd⟩
  | held hm hd => exact ⟨rfl, hnext, _, hd.snoc _⟩

/-- The run of a configuration has one end only. -/
theorem Leads.unique {c a b : Config} (ha : Leads c a) (hb : Leads c b) (ha' : a.next? = none)
    (hb' : b.next? = none) : a = b := by
  have hunique : Relator.RightUnique fun c c' : Config => c.next? = some c' := by
    intro c c₁ c₂ h₁ h₂
    exact Option.some.inj (h₁.symm.trans h₂)
  have hend : ∀ {x y : Config}, x.next? = none → Leads x y → x = y := by
    intro x y hx hxy
    rcases hxy.cases_head with rfl | ⟨z, hz, -⟩
    · rfl
    · rw [hx] at hz
      cases hz
  rcases ha.total_of_right_unique hunique hb with hab | hba
  · exact hend ha' hab
  · exact (hend hb' hba).symm

/-- A program that asks for a text and shows it. -/
def greeting : Program where
  lines :=
    [{ number := 10, instruction := .command (.input none "X$") },
     { number := 20, instruction := .command (.print [⟨⟨"X$", .var "X$"⟩, none⟩]) }]

theorem load_greeting : Program.load "10 INPUT X$\n20 PRINT X$" = .ok greeting := by
  have hsplit : (Program.splitSource "10 INPUT X$\n20 PRINT X$").filter
      (!Program.isBlankLine ·) = ["10 INPUT X$", "20 PRINT X$"] := by decide
  have hinput : parseLine "10 INPUT X$" =
      .ok { number := 10, instruction := .command (.input none "X$") } := by
    with_unfolding_all rfl
  have hprint : parseLine "20 PRINT X$" =
      .ok { number := 20, instruction := .command (.print [⟨⟨"X$", .var "X$"⟩, none⟩]) } := by
    with_unfolding_all rfl
  unfold Program.load
  rw [hsplit, List.mapM_cons, List.mapM_cons, hinput, hprint]
  exact Program.ofLines_of_ascending greeting.ascending

/-- A fresh machine with replies in the queue, about to perform the first line of that program. -/
def greetingWith (u : List String) : Machine :=
  { reset (push u { constants := defaultConstants, functions := defaultFunctions }) with
    program := greeting, cursor := 10 }

def greeted : Machine :=
  { greetingWith [] with
    cursor := 20, vars := Table.empty.insert "X$" (.text "A"),
    console := .buffer { written := "A\n" }, phase := .ended, completion := .done {} }

theorem start_greeting (u : List String) :
    (opening (.run "10 INPUT X$\n20 PRINT X$")).run.run
        (push u { constants := defaultConstants, functions := defaultFunctions }) =
      (.ok .goesOn, greetingWith u) := by
  change (start "10 INPUT X$\n20 PRINT X$").run.run _ = _
  unfold start
  rw [load_greeting]
  rfl

/-- The reply comes after the question. -/
theorem serve_greeting_late :
    serve 3 [.run "10 INPUT X$\n20 PRINT X$", .feed (some "A")]
        { constants := defaultConstants, functions := defaultFunctions } [] =
      some (greeted, [("X$", some (some "A"))]) := by
  have hstart := start_greeting []
  rw [push_nil] at hstart
  have hfollow : follow 3 (greetingWith []) =
      some (.ok (), held "X$" { greetingWith [] with cursor := 20 }) := by
    with_unfolding_all rfl
  have hasked : note 3 (.run "10 INPUT X$\n20 PRINT X$")
      { constants := defaultConstants, functions := defaultFunctions } [] = [("X$", none)] := by
    have hquestions : questions 3 (greetingWith []) = [("X$", none)] := by with_unfolding_all rfl
    simp only [note, hstart, hquestions, List.nil_append]
  have hfed : followed 3 (opening (.feed (some "A")))
      (held "X$" { greetingWith [] with cursor := 20 }) = some (.ok (), greeted) := by
    with_unfolding_all rfl
  have hanswered : note 3 (.feed (some "A")) (held "X$" { greetingWith [] with cursor := 20 })
      [("X$", none)] = [("X$", some (some "A"))] := by
    with_unfolding_all rfl
  rw [serve_cons rfl, followed_eq, hstart]
  dsimp only
  rw [hfollow, hasked]
  dsimp only
  rw [serve_cons rfl, hfed, hanswered]
  rfl

/-- The reply comes before the run. -/
theorem serve_greeting_early :
    serve 3 [.feed (some "A"), .tick, .run "10 INPUT X$\n20 PRINT X$"]
        { constants := defaultConstants, functions := defaultFunctions } [] =
      some (greeted, [("X$", some (some "A"))]) := by
  have hfed : followed 3 (opening (.feed (some "A")))
      { constants := defaultConstants, functions := defaultFunctions } =
        some (.ok (), push ["A"] { constants := defaultConstants,
                                   functions := defaultFunctions }) := rfl
  have hticked : followed 3 (opening .tick)
      (push ["A"] { constants := defaultConstants, functions := defaultFunctions }) =
        some (.ok (), push ["A"] { constants := defaultConstants,
                                   functions := defaultFunctions }) := rfl
  have hfollow : follow 3 (greetingWith ["A"]) = some (.ok (), greeted) := by
    with_unfolding_all rfl
  have hasked : note 3 (.run "10 INPUT X$\n20 PRINT X$")
      (push ["A"] { constants := defaultConstants, functions := defaultFunctions }) [] =
        [("X$", some (some "A"))] := by
    have hquestions : questions 3 (greetingWith ["A"]) = [("X$", some (some "A"))] := by
      with_unfolding_all rfl
    simp only [note, start_greeting, hquestions, List.nil_append]
  rw [serve_cons rfl, hfed]
  dsimp only
  rw [serve_cons rfl, hticked]
  dsimp only
  rw [serve_cons rfl, followed_eq, start_greeting]
  dsimp only
  rw [hfollow]
  exact congrArg (fun d => some (greeted, d)) hasked

/-- The moment at which replies arrive does not matter. Take a program that does not close with a
question, and two interleavings of its run with the same replies in the same order and with ticks,
on a fresh machine. If both have come to a point without live timers, both have come to the same
machine and to the same dialogue, and the dialogue answers each question by the reply of the same
position, or not at all when there is none. -/
theorem serve_moment_irrelevant {source : String} {texts : List String} {m : Machine}
    (hfresh : Fresh m)
    (hcloses : ∀ program, Program.load source = .ok program → program.ClosesQuietly)
    {requests₁ requests₂ : List Request} (h₁ : Interleaving source false texts requests₁)
    (h₂ : Interleaving source false texts requests₂) {n₁ n₂ : Nat} {m₁ m₂ : Machine}
    {d₁ d₂ : Dialogue} (hserve₁ : serve n₁ requests₁ m [] = some (m₁, d₁))
    (hserve₂ : serve n₂ requests₂ m [] = some (m₂, d₂)) (hlive₁ : m₁.timers.live = [])
    (hlive₂ : m₂.timers.live = []) :
    m₁ = m₂ ∧ d₁ = d₂ ∧
      ∀ (k : Nat) (question : String × Option Reply), d₁[k]? = some question →
        question.2 = texts[k]?.map some := by
  obtain ⟨c₁, hstands₁, hleads₁⟩ := serve_ready hcloses h₁ hfresh.ready rfl hserve₁
  obtain ⟨c₂, hstands₂, hleads₂⟩ := serve_ready hcloses h₂ hfresh.ready rfl hserve₂
  obtain ⟨hc₁, hend₁, left, hanswers⟩ := hstands₁.final hlive₁
  obtain ⟨hc₂, hend₂, -⟩ := hstands₂.final hlive₂
  have hsame := hleads₁.unique hleads₂ hend₁ hend₂
  rw [hc₁, hc₂] at hsame
  cases hsame
  exact ⟨rfl, rfl, hanswers.answer⟩

theorem serve_moment_irrelevant_greeting :
    ∃ m₁ d₁ m₂ d₂,
      serve 3 [.run "10 INPUT X$\n20 PRINT X$", .feed (some "A")]
        { constants := defaultConstants, functions := defaultFunctions } [] = some (m₁, d₁) ∧
      serve 3 [.feed (some "A"), .tick, .run "10 INPUT X$\n20 PRINT X$"]
        { constants := defaultConstants, functions := defaultFunctions } [] = some (m₂, d₂) ∧
      m₁ = m₂ ∧ d₁ = d₂ ∧ m₁.console.written = "A\n" ∧
      ∀ (k : Nat) (question : String × Option Reply), d₁[k]? = some question →
        question.2 = ["A"][k]?.map some := by
  have hcloses : ∀ program, Program.load "10 INPUT X$\n20 PRINT X$" = .ok program →
      program.ClosesQuietly := by
    intro program hload line hline
    rw [load_greeting] at hload
    cases hload
    cases hline
    rfl
  obtain ⟨hmachine, hdialogue, hanswers⟩ := serve_moment_irrelevant
    ⟨rfl, rfl, rfl, rfl⟩ hcloses (.run (.feed .done)) (.feed (.tick (.run .done)))
    serve_greeting_late serve_greeting_early rfl rfl
  exact ⟨_, _, _, _, serve_greeting_late, serve_greeting_early, hmachine, hdialogue, rfl, hanswers⟩

end Machine

end LineBasic

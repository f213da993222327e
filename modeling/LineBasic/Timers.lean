/-!
# Timers

A timer asks for the machine to be woken after a number of seconds. Timers wait in a queue and fire
in the order in which they were set; one that was cancelled stays in the queue but never fires.
-/

namespace LineBasic

structure Timer where
  id : Nat
  delay : Float
  cancelled : Bool := false

/-- The timers that have not fired, and all delays ever asked for. -/
structure Timers where
  queue : List Timer := []
  asked : List Float := []

namespace Timers

/-- Sets a timer: its id, and the queue with it. -/
def set (t : Timers) (delay : Float) : Nat × Timers :=
  let id := t.asked.length
  (id, { queue := t.queue ++ [{ id := id, delay := delay }], asked := t.asked ++ [delay] })

def cancel (t : Timers) (id : Nat) : Timers :=
  { t with queue := t.queue.map fun timer =>
      if timer.id == id then { timer with cancelled := true } else timer }

/-- Takes timers off the front up to and including the first live one: whether there was one, and
the queue after that. -/
def pop (t : Timers) : Bool × Timers :=
  match t.queue.dropWhile (·.cancelled) with
  | [] => (false, { t with queue := [] })
  | _ :: rest => (true, { t with queue := rest })

/-- The timers that can still fire. -/
def live (t : Timers) : List Timer := t.queue.filter (!·.cancelled)

end Timers

end LineBasic

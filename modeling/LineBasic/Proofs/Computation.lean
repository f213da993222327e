import LineBasic.Fault
import Mathlib.Data.List.Forall2

/-!
# Computations that can fail

`Raises E x` says of a computation that its faults are of the kind `E`, `Gives G x` that its result,
if it comes to one, is of the kind `G`. Both are closed under the ways in which computations are put
together, so that what an operation can come to follows from the operations it is made of. A
sequence comes to a result when its parts do (`bind_eq_ok`), and so does a list of computations
(`mapM_eq_ok`).
-/

namespace LineBasic

def Raises {α : Type} (E : Fault → Prop) (x : Except Fault α) : Prop := ∀ e, x = .error e → E e

def Gives {α : Type} (G : α → Prop) (x : Except Fault α) : Prop := ∀ a, x = .ok a → G a

/-- A sequence comes to a result when both of its parts do. -/
theorem bind_eq_ok {α β : Type} {x : Except Fault α} {f : α → Except Fault β} {b : β} :
    x >>= f = .ok b ↔ ∃ a, x = .ok a ∧ f a = .ok b := by
  cases x with
  | error e => exact ⟨nofun, nofun⟩
  | ok a => exact ⟨fun h => ⟨a, rfl, h⟩, fun ⟨a', ha', h⟩ => by cases ha'; exact h⟩

section Raises

variable {α β : Type} {E E' : Fault → Prop} {x : Except Fault α} {e : Fault}

@[simp] theorem raises_ok (a : α) : Raises E (.ok a) := by
  intro e h
  cases h

@[simp] theorem raises_pure (a : α) : Raises E (pure a : Except Fault α) := raises_ok a

@[simp] theorem raises_error : Raises E (.error e : Except Fault α) ↔ E e := by
  simp [Raises]

@[simp] theorem raises_throw : Raises E (throw e : Except Fault α) ↔ E e := raises_error

theorem Raises.imp (h : Raises E x) (hE : ∀ e, E e → E' e) : Raises E' x :=
  fun e he => hE e (h e he)

theorem raises_ite {c : Prop} [Decidable c] {y : Except Fault α} (hx : Raises E x)
    (hy : Raises E y) : Raises E (if c then x else y) := by
  split
  · exact hx
  · exact hy

theorem Raises.bind {f : α → Except Fault β} (h : Raises E x) (hf : ∀ a, Raises E (f a)) :
    Raises E (x >>= f) := by
  cases x with
  | error e => simpa [Raises, Bind.bind, Except.bind] using h
  | ok a => exact hf a

theorem Raises.map {f : α → β} (h : Raises E x) : Raises E (x.map f) := by
  cases x with
  | error e => simpa [Raises, Except.map] using h
  | ok a => exact raises_ok (f a)

theorem raises_mapM {f : α → Except Fault β} (hf : ∀ a, Raises E (f a)) (l : List α) :
    Raises E (l.mapM f) := by
  induction l with
  | nil => simp
  | cons a l ih =>
      rw [List.mapM_cons]
      exact (hf a).bind fun b => ih.bind fun bs => raises_pure _

theorem raises_allM {f : α → Except Fault Bool} (hf : ∀ a, Raises E (f a)) (l : List α) :
    Raises E (l.allM f) := by
  induction l with
  | nil => simp [List.allM]
  | cons a l ih =>
      rw [List.allM]
      refine (hf a).bind fun b => ?_
      cases b with
      | false => simp
      | true => exact ih

theorem raises_foldlM {f : β → α → Except Fault β} (hf : ∀ b a, Raises E (f b a)) (l : List α)
    (b : β) : Raises E (l.foldlM f b) := by
  induction l generalizing b with
  | nil => simp
  | cons a l ih =>
      rw [List.foldlM_cons]
      exact (hf b a).bind ih

end Raises

section Gives

variable {α β : Type} {G G' : α → Prop} {x : Except Fault α}

@[simp] theorem gives_ok {a : α} : Gives G (.ok a) ↔ G a := by
  simp [Gives]

@[simp] theorem gives_pure {a : α} : Gives G (pure a : Except Fault α) ↔ G a := gives_ok

@[simp] theorem gives_error (e : Fault) : Gives G (.error e) := nofun

@[simp] theorem gives_throw (e : Fault) : Gives G (throw e : Except Fault α) := nofun

theorem Gives.imp (h : Gives G x) (hG : ∀ a, G a → G' a) : Gives G' x :=
  fun a ha => hG a (h a ha)

theorem Gives.bind {H : β → Prop} {y : Except Fault β} {f : β → Except Fault α} (hy : Gives H y)
    (hf : ∀ b, H b → Gives G (f b)) : Gives G (y >>= f) := by
  cases y with
  | error e => exact gives_error e
  | ok b => exact hf b (hy b rfl)

/-- What a computation gives is up to its last part, whatever the parts before give. -/
theorem gives_bind {y : Except Fault β} {f : β → Except Fault α} (hf : ∀ b, Gives G (f b)) :
    Gives G (y >>= f) :=
  Gives.bind (fun _ _ => trivial) fun b _ => hf b

/-- A fold gives what every step keeps. -/
theorem gives_foldlM {f : α → β → Except Fault α} {l : List β} {a : α} (ha : G a)
    (hf : ∀ a, G a → ∀ b ∈ l, Gives G (f a b)) : Gives G (l.foldlM f a) := by
  induction l generalizing a with
  | nil => simpa using ha
  | cons b l ih =>
      rw [List.foldlM_cons]
      exact (hf a ha b List.mem_cons_self).bind fun a' ha' =>
        ih ha' fun a ha b hb => hf a ha b (List.mem_cons_of_mem _ hb)

end Gives

section Lists

variable {α β : Type} {f : α → Except Fault β} {xs : List α} {ys : List β}

theorem mapM_eq_ok : xs.mapM f = .ok ys ↔ List.Forall₂ (fun x y => f x = .ok y) xs ys := by
  induction xs generalizing ys with
  | nil =>
      rw [List.mapM_nil, List.forall₂_nil_left_iff]
      exact ⟨fun h => by cases h; rfl, fun h => by rw [h]; rfl⟩
  | cons x xs ih =>
      rw [List.mapM_cons, bind_eq_ok, List.forall₂_cons_left_iff]
      constructor
      · rintro ⟨y, hx, h⟩
        obtain ⟨rest, hrest, h⟩ := bind_eq_ok.mp h
        cases h
        exact ⟨y, rest, hx, ih.mp hrest, rfl⟩
      · rintro ⟨y, rest, hx, hrest, rfl⟩
        exact ⟨y, hx, bind_eq_ok.mpr ⟨rest, ih.mpr hrest, rfl⟩⟩

/-- A list is related to some list when every element is related to something. -/
theorem exists_forall₂ {R : α → β → Prop} {xs : List α} :
    (∃ ys, List.Forall₂ R xs ys) ↔ ∀ x ∈ xs, ∃ y, R x y := by
  induction xs with
  | nil => exact ⟨fun _ => nofun, fun _ => ⟨[], .nil⟩⟩
  | cons x xs ih =>
      rw [List.forall_mem_cons, ← ih]
      constructor
      · rintro ⟨ys, hys⟩
        cases hys with
        | cons hx hxs => exact ⟨⟨_, hx⟩, _, hxs⟩
      · rintro ⟨⟨y, hy⟩, ys, hys⟩
        exact ⟨y :: ys, .cons hy hys⟩

theorem ok_of_mapM (h : xs.mapM f = .ok ys) : ∀ x ∈ xs, ∃ y, f x = .ok y :=
  exists_forall₂.mp ⟨ys, mapM_eq_ok.mp h⟩

theorem exists_of_mapM (h : xs.mapM f = .ok ys) : ∀ y ∈ ys, ∃ x, f x = .ok y :=
  exists_forall₂.mp ⟨xs, (mapM_eq_ok.mp h).flip⟩

end Lists

end LineBasic

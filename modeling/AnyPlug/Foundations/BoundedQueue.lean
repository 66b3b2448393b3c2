import Mathlib

/-!
# Bounded queues

A queue that refuses an element when it is full. The bound is a field, so that no queue is over it;
the rules say what a push, a pop and a loop of pushes leave in the queue.
-/

namespace AnyPlug

/-- A queue of at most `capacity` elements, the oldest first. -/
structure BoundedQueue (α : Type*) where
  capacity : ℕ
  items : List α
  length_le : items.length ≤ capacity

namespace BoundedQueue

variable {α : Type*}

def empty (capacity : ℕ) : BoundedQueue α := ⟨capacity, [], Nat.zero_le _⟩

/-- Add an element, unless the queue is full. -/
def push (q : BoundedQueue α) (a : α) : Option (BoundedQueue α) :=
  if h : q.items.length < q.capacity then
    some ⟨q.capacity, q.items ++ [a], by rw [List.length_append, List.length_singleton]; exact h⟩
  else none

/-- The oldest element and the queue without it. -/
def pop (q : BoundedQueue α) : Option (α × BoundedQueue α) :=
  match h : q.items with
  | [] => none
  | a :: items =>
    some (a, ⟨q.capacity, items, (Nat.le_succ _).trans (by simpa [h] using q.length_le)⟩)

/-- Add an element, or drop it where the queue is full. -/
def offer (q : BoundedQueue α) (a : α) : BoundedQueue α := (q.push a).getD q

/-- Every element of the queue has the property. -/
def All (P : α → Prop) (q : BoundedQueue α) : Prop := ∀ a ∈ q.items, P a

variable {P : α → Prop} {q q' : BoundedQueue α} {a : α}

theorem all_empty (capacity : ℕ) : (empty capacity : BoundedQueue α).All P :=
  fun _ h => absurd h List.not_mem_nil

theorem all_of_push (hq : q.All P) (ha : P a) (h : q.push a = some q') : q'.All P := by
  unfold push at h
  split at h
  · cases h
    intro b hb
    rcases List.mem_append.1 hb with hb | hb
    · exact hq b hb
    · exact List.mem_singleton.1 hb ▸ ha
  · cases h

theorem all_offer (hq : q.All P) (ha : P a) : (q.offer a).All P := by
  unfold offer
  cases h : q.push a with
  | none => exact hq
  | some q' => exact all_of_push hq ha h

theorem items_of_pop (h : q.pop = some (a, q')) : q.items = a :: q'.items := by
  unfold pop at h
  split at h
  · cases h
  · rename_i heq
    cases h
    exact heq

theorem all_of_pop (hq : q.All P) (h : q.pop = some (a, q')) : P a ∧ q'.All P := by
  have hitems := items_of_pop h
  exact ⟨hq a (by rw [hitems]; simp), fun b hb => hq b (by rw [hitems]; simp [hb])⟩

end BoundedQueue

end AnyPlug

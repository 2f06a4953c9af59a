import Landscape.Ring
import Mathlib.Data.List.Basic
import Mathlib.Data.Nat.ModEq

/-!
A ring as the list of its items from the front. Counted from the front, each slot holds the item of that
place and the slots behind the last item hold nothing; every operation on the ring is the one on that
list. One relation says all of this, so that a queue is reasoned about as a list alone.
-/

namespace Landscape.Ring

variable {Item : Type}

structure Holds (ring : Ring Item) (items : List Item) : Prop where
  front_lt : ring.front < ring.capacity
  size_eq : ring.size = items.length
  fits : items.length ≤ ring.capacity
  rear_eq : ring.rear = (ring.front + ring.size + ring.capacity - 1) % ring.capacity
  slot_eq : ∀ offset < ring.capacity, ring.slot (ring.index offset) = items[offset]?

variable {ring after : Ring Item} {items rest : List Item} {item : Item}

theorem index_lt (holds : ring.Holds items) (offset : Nat) : ring.index offset < ring.capacity :=
  Nat.mod_lt _ (Nat.zero_lt_of_lt holds.front_lt)

theorem index_zero (holds : ring.Holds items) : ring.index 0 = ring.front :=
  Nat.mod_eq_of_lt holds.front_lt

theorem index_injective {first second : Nat} (former : first < ring.capacity)
    (latter : second < ring.capacity) (same : ring.index first = ring.index second) :
    first = second :=
  Nat.ModEq.eq_of_lt_of_lt (Nat.ModEq.add_left_cancel' ring.front same) former latter

theorem slot_set {slots : Array (Option Item)} {place : Nat} (inside : place < slots.size)
    (value : Option Item) (other : Nat) :
    ((slots.setIfInBounds place value)[other]?).join =
      if other = place then value else (slots[other]?).join := by
  by_cases same : other = place
  · subst same
    simp [inside]
  · simp [same, Ne.symm same]

theorem toList_eq (holds : ring.Holds items) : ring.toList = items := by
  have inside : ∀ offset ∈ List.range ring.size,
      ring.slot (ring.index offset) = items[offset]? := fun offset member => by
    have less := List.mem_range.mp member
    have fits := holds.fits
    rw [← holds.size_eq] at fits
    exact holds.slot_eq offset (by omega)
  rw [toList, List.filterMap_congr inside, holds.size_eq]
  clear holds inside
  induction items with
  | nil => rfl
  | cons item rest ih =>
      rw [List.length_cons, List.range_succ_eq_map, List.filterMap_cons, List.filterMap_map]
      exact congrArg (item :: ·) ih

theorem new_holds (capacity : Nat) : (new capacity : Ring Item).Holds [] where
  front_lt := by simp [new, Ring.capacity]
  size_eq := rfl
  fits := Nat.zero_le _
  rear_eq := by
    have roomy : 0 < max capacity 1 := by omega
    simp only [new, Ring.capacity, Array.size_replicate, Nat.zero_add]
    exact (Nat.mod_eq_of_lt (by omega)).symm
  slot_eq offset inside := by
    simp only [slot, new, Array.getElem?_replicate]
    split <;> rfl

theorem peek_nil (holds : ring.Holds []) : ring.peek = .error .empty := by
  simp [peek, isEmpty, holds.size_eq]

theorem peek_cons (holds : ring.Holds (item :: rest)) : ring.peek = .ok item := by
  have front := holds.slot_eq 0 (Nat.zero_lt_of_lt holds.front_lt)
  rw [index_zero holds] at front
  simp [peek, isEmpty, holds.size_eq, front]

theorem enqueue_full (holds : ring.Holds items) (full : items.length = ring.capacity) (item : Item) :
    ring.enqueue item = .error (.full ring.capacity) := by
  simp [enqueue, isFull, holds.size_eq, full]

def extended (item : Item) (ring : Ring Item) : Ring Item where
  slots := ring.slots.setIfInBounds (ring.index ring.size) (some item)
  front := ring.front
  rear := ring.index ring.size
  size := ring.size + 1

theorem capacity_extended (item : Item) (ring : Ring Item) :
    (ring.extended item).capacity = ring.capacity :=
  Array.size_setIfInBounds

theorem enqueue_eq (holds : ring.Holds items) (room : items.length < ring.capacity) (item : Item) :
    ring.enqueue item = .ok (ring.extended item) := by
  have rear : (ring.rear + 1) % ring.capacity = ring.index ring.size := by
    have next : ring.front + ring.size + ring.capacity - 1 + 1 =
        ring.front + ring.size + ring.capacity := by omega
    rw [holds.rear_eq, Nat.mod_add_mod, next, Nat.add_mod_right, index]
  have open_ : ring.isFull = false := by
    rw [isFull, beq_eq_false_iff_ne, holds.size_eq]
    omega
  simp [enqueue, open_, rear, extended]

theorem extended_holds (holds : ring.Holds items) (room : items.length < ring.capacity)
    (item : Item) : (ring.extended item).Holds (items ++ [item]) where
  front_lt := by
    rw [capacity_extended]
    exact holds.front_lt
  size_eq := by
    rw [List.length_append, List.length_singleton, ← holds.size_eq]
    rfl
  fits := by
    rw [List.length_append, List.length_singleton, capacity_extended]
    exact room
  rear_eq := by
    rw [capacity_extended]
    show (ring.front + ring.size) % ring.capacity =
      (ring.front + (ring.size + 1) + ring.capacity - 1) % ring.capacity
    have next : ring.front + (ring.size + 1) + ring.capacity - 1 =
        ring.front + ring.size + ring.capacity := by omega
    rw [next, Nat.add_mod_right]
  slot_eq offset inside := by
    rw [capacity_extended] at inside
    have place : (ring.extended item).index offset = ring.index offset := by
      rw [index, capacity_extended]
      rfl
    rw [place]
    refine (slot_set (index_lt holds ring.size) (some item) (ring.index offset)).trans ?_
    by_cases last : offset = ring.size
    · rw [if_pos (congrArg ring.index last), last, holds.size_eq, List.getElem?_concat_length]
    · have apart : ring.index offset ≠ ring.index ring.size := fun same =>
        last (index_injective inside (holds.size_eq ▸ room) same)
      rw [if_neg apart]
      refine (holds.slot_eq offset inside).trans ?_
      rw [holds.size_eq] at last
      by_cases before : offset < items.length
      · rw [List.getElem?_append_left before]
      · rw [List.getElem?_eq_none (by omega), List.getElem?_eq_none (by simp; omega)]

theorem enqueue_holds (holds : ring.Holds items) (enqueued : ring.enqueue item = .ok after) :
    after.Holds (items ++ [item]) := by
  rcases Nat.lt_or_eq_of_le holds.fits with room | full
  · rw [enqueue_eq holds room] at enqueued
    exact Except.ok.inj enqueued ▸ extended_holds holds room item
  · rw [enqueue_full holds full] at enqueued
    cases enqueued

theorem enqueue_capacity (holds : ring.Holds items) (enqueued : ring.enqueue item = .ok after) :
    after.capacity = ring.capacity := by
  rcases Nat.lt_or_eq_of_le holds.fits with room | full
  · rw [enqueue_eq holds room] at enqueued
    exact Except.ok.inj enqueued ▸ capacity_extended item ring
  · rw [enqueue_full holds full] at enqueued
    cases enqueued

def shortened (ring : Ring Item) : Ring Item where
  slots := ring.slots.setIfInBounds ring.front none
  front := (ring.front + 1) % ring.capacity
  rear := ring.rear
  size := ring.size - 1

theorem capacity_shortened (ring : Ring Item) : ring.shortened.capacity = ring.capacity :=
  Array.size_setIfInBounds

theorem dequeue_nil (holds : ring.Holds []) : ring.dequeue = .error .empty := by
  simp [dequeue, isEmpty, holds.size_eq]

theorem dequeue_eq (holds : ring.Holds (item :: rest)) :
    ring.dequeue = .ok (item, ring.shortened) := by
  have front := holds.slot_eq 0 (Nat.zero_lt_of_lt holds.front_lt)
  rw [index_zero holds] at front
  simp [dequeue, isEmpty, holds.size_eq, front, shortened]

theorem shortened_holds (holds : ring.Holds (item :: rest)) : ring.shortened.Holds rest where
  front_lt := by
    rw [capacity_shortened]
    exact Nat.mod_lt _ (Nat.zero_lt_of_lt holds.front_lt)
  size_eq := by
    show ring.size - 1 = rest.length
    rw [holds.size_eq, List.length_cons, Nat.add_sub_cancel]
  fits := by
    rw [capacity_shortened]
    exact Nat.le_of_succ_le holds.fits
  rear_eq := by
    have size : ring.size = rest.length + 1 := holds.size_eq
    rw [capacity_shortened]
    show ring.rear = ((ring.front + 1) % ring.capacity + (ring.size - 1) + ring.capacity - 1) %
      ring.capacity
    have fits := holds.fits
    rw [List.length_cons] at fits
    have former : ring.front + ring.size + ring.capacity - 1 =
        ring.front + 1 + (rest.length + ring.capacity - 1) := by omega
    have latter : (ring.front + 1) % ring.capacity + (ring.size - 1) + ring.capacity - 1 =
        (ring.front + 1) % ring.capacity + (rest.length + ring.capacity - 1) := by omega
    rw [holds.rear_eq, former, latter, Nat.mod_add_mod]
  slot_eq offset inside := by
    rw [capacity_shortened] at inside
    have place : ring.shortened.index offset = ring.index (offset + 1) := by
      rw [index, capacity_shortened, index]
      show ((ring.front + 1) % ring.capacity + offset) % ring.capacity = _
      rw [Nat.mod_add_mod, Nat.add_assoc, Nat.add_comm 1 offset]
    rw [place]
    refine (slot_set holds.front_lt none (ring.index (offset + 1))).trans ?_
    by_cases within : offset + 1 < ring.capacity
    · have apart : ring.index (offset + 1) ≠ ring.front := fun same =>
        Nat.succ_ne_zero offset (index_injective within (by omega)
          (same.trans (index_zero holds).symm))
      rw [if_neg apart]
      exact holds.slot_eq (offset + 1) within
    · -- all the way round is the front again, which was just emptied
      have round : offset + 1 = ring.capacity := by omega
      have fits := holds.fits
      rw [List.length_cons] at fits
      rw [round, index, Nat.add_mod_right, if_pos (Nat.mod_eq_of_lt holds.front_lt),
        List.getElem?_eq_none (by omega)]

theorem dequeue_holds (holds : ring.Holds items) (taken : ring.dequeue = .ok (item, after)) :
    ∃ rest, items = item :: rest ∧ after.Holds rest ∧ after.capacity = ring.capacity := by
  cases items with
  | nil =>
      rw [dequeue_nil holds] at taken
      cases taken
  | cons first rest =>
      rw [dequeue_eq holds] at taken
      obtain ⟨rfl, rfl⟩ := Prod.mk.inj (Except.ok.inj taken)
      exact ⟨rest, rfl, shortened_holds holds, capacity_shortened ring⟩

theorem push_full (holds : ring.Holds items) (full : items.length = ring.capacity) (item : Item) :
    ring.push item = .error (.full ring.capacity) := by
  simp [push, isFull, holds.size_eq, full]

def prepended (item : Item) (ring : Ring Item) : Ring Item where
  slots := ring.slots.setIfInBounds (ring.index (ring.capacity - 1)) (some item)
  front := ring.index (ring.capacity - 1)
  rear := ring.rear
  size := ring.size + 1

theorem capacity_prepended (item : Item) (ring : Ring Item) :
    (ring.prepended item).capacity = ring.capacity :=
  Array.size_setIfInBounds

theorem push_eq (holds : ring.Holds items) (room : items.length < ring.capacity) (item : Item) :
    ring.push item = .ok (ring.prepended item) := by
  have front : (ring.front + ring.capacity - 1) % ring.capacity =
      ring.index (ring.capacity - 1) := by
    rw [index, Nat.add_sub_assoc (by omega)]
  have open_ : ring.isFull = false := by
    rw [isFull, beq_eq_false_iff_ne, holds.size_eq]
    omega
  simp [push, open_, front, prepended]

theorem index_prepended (roomy : 0 < ring.capacity) (item : Item) (offset : Nat) :
    (ring.prepended item).index (offset + 1) = ring.index offset := by
  have once : ring.front + (ring.capacity - 1) + (offset + 1) =
      ring.front + offset + ring.capacity := by omega
  rw [index, capacity_prepended, index]
  show ((ring.front + (ring.capacity - 1)) % ring.capacity + (offset + 1)) % ring.capacity = _
  rw [Nat.mod_add_mod, once, Nat.add_mod_right]

theorem prepended_holds (holds : ring.Holds items) (room : items.length < ring.capacity)
    (item : Item) : (ring.prepended item).Holds (item :: items) where
  front_lt := by
    rw [capacity_prepended]
    exact index_lt holds _
  size_eq := by
    rw [List.length_cons, ← holds.size_eq]
    rfl
  fits := by
    rw [List.length_cons, capacity_prepended]
    exact room
  rear_eq := by
    have turned : ring.front + (ring.capacity - 1) + (ring.size + 1) + ring.capacity - 1 =
        ring.front + ring.size + ring.capacity - 1 + ring.capacity := by omega
    have further : (ring.front + (ring.capacity - 1)) % ring.capacity + (ring.size + 1) +
        ring.capacity - 1 =
      (ring.front + (ring.capacity - 1)) % ring.capacity + (ring.size + 1 + ring.capacity - 1) := by
      omega
    have joined : ring.front + (ring.capacity - 1) + (ring.size + 1 + ring.capacity - 1) =
        ring.front + (ring.capacity - 1) + (ring.size + 1) + ring.capacity - 1 := by omega
    rw [capacity_prepended]
    show ring.rear = ((ring.front + (ring.capacity - 1)) % ring.capacity + (ring.size + 1) +
      ring.capacity - 1) % ring.capacity
    rw [further, Nat.mod_add_mod, joined, turned, Nat.add_mod_right]
    exact holds.rear_eq
  slot_eq offset inside := by
    rw [capacity_prepended] at inside
    cases offset with
    | zero =>
        have front : (ring.prepended item).index 0 = ring.index (ring.capacity - 1) := by
          rw [index, capacity_prepended, Nat.add_zero]
          exact Nat.mod_eq_of_lt (index_lt holds _)
        rw [front]
        exact (slot_set (index_lt holds _) (some item) _).trans (if_pos rfl)
    | succ offset =>
        -- the place before the front is the last one, so no other place is written
        have apart : ring.index offset ≠ ring.index (ring.capacity - 1) := fun same => by
          have := index_injective (by omega) (by omega) same
          omega
        rw [index_prepended (by omega)]
        refine (slot_set (index_lt holds _) (some item) _).trans ((if_neg apart).trans ?_)
        exact holds.slot_eq offset (by omega)

theorem push_holds (holds : ring.Holds items) (pushed : ring.push item = .ok after) :
    after.Holds (item :: items) := by
  rcases Nat.lt_or_eq_of_le holds.fits with room | full
  · rw [push_eq holds room] at pushed
    exact Except.ok.inj pushed ▸ prepended_holds holds room item
  · rw [push_full holds full] at pushed
    cases pushed

end Landscape.Ring

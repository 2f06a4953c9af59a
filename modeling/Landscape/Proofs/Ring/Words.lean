import Landscape.Proofs.Deque
import Mathlib.Algebra.Group.Nat.Defs

/-!
The ring in machine words. Here places and sizes are words of 64 bits, and a sum or a difference that is no
such word, or a place without a slot, ends the run without an answer. A ring whose capacity leaves one bit
free is laid out in the same way after any requests, from which it follows that this never happens: the
machine gives the answers of the ring and has the same slots, places and size.
-/

namespace Landscape

namespace Word

def plus? (first second : UInt64) : Option UInt64 :=
  if first.toNat + second.toNat < 2 ^ 64 then some (first + second) else none

def minus? (first second : UInt64) : Option UInt64 :=
  if second.toNat ≤ first.toNat then some (first - second) else none

def modulo? (first second : UInt64) : Option UInt64 :=
  if second = 0 then none else some (first % second)

theorem plus_toNat (first second : UInt64) (fits : first.toNat + second.toNat < 2 ^ 64) :
    ∃ sum, plus? first second = some sum ∧ sum.toNat = first.toNat + second.toNat := by
  refine ⟨first + second, if_pos fits, ?_⟩
  rw [UInt64.toNat_add, Nat.mod_eq_of_lt fits]

theorem minus_toNat (first second : UInt64) (fits : second.toNat ≤ first.toNat) :
    ∃ difference, minus? first second = some difference ∧
      difference.toNat = first.toNat - second.toNat :=
  ⟨first - second, if_pos fits, UInt64.toNat_sub_of_le first second fits⟩

theorem modulo_toNat (first second : UInt64) (positive : 0 < second.toNat) :
    ∃ rest, modulo? first second = some rest ∧ rest.toNat = first.toNat % second.toNat := by
  refine ⟨first % second, if_neg ?_, UInt64.toNat_mod first second⟩
  rintro rfl
  exact absurd positive (Nat.lt_irrefl 0)

end Word

structure WordRing (Item : Type) where
  slots : Array (Option Item)
  front : UInt64
  rear : UInt64
  size : UInt64

namespace WordRing

variable {Item : Type}

def capacity (ring : WordRing Item) : UInt64 := UInt64.ofNat ring.slots.size

def slot? (place : UInt64) (ring : WordRing Item) : Option (Option Item) :=
  ring.slots[place.toNat]?

def write? (place : UInt64) (value : Option Item) (ring : WordRing Item) :
    Option (Array (Option Item)) :=
  if place.toNat < ring.slots.size then some (ring.slots.setIfInBounds place.toNat value) else none

def new? (capacity : UInt64) : Option (WordRing Item) := do
  let capacity := if capacity = 0 then 1 else capacity
  let rear ← Word.minus? capacity 1
  some ⟨Array.replicate capacity.toNat none, 0, rear, 0⟩

def next? (place : UInt64) (ring : WordRing Item) : Option UInt64 := do
  let next ← Word.plus? place 1
  Word.modulo? next ring.capacity

def previous? (place : UInt64) (ring : WordRing Item) : Option UInt64 := do
  let round ← Word.plus? place ring.capacity
  let previous ← Word.minus? round 1
  Word.modulo? previous ring.capacity

def enqueue? (item : Item) (ring : WordRing Item) : Option (Except QueueError (WordRing Item)) :=
  if ring.size = ring.capacity then some (.error (.full ring.capacity.toNat))
  else do
    let rear ← ring.next? ring.rear
    let slots ← ring.write? rear (some item)
    let size ← Word.plus? ring.size 1
    some (.ok { ring with slots, rear, size })

def dequeue? (ring : WordRing Item) : Option (Except QueueError (Item × WordRing Item)) :=
  if ring.size = 0 then some (.error .empty)
  else do
    let found ← ring.slot? ring.front
    match found with
    | none => some (.error .empty)
    | some item =>
        let slots ← ring.write? ring.front none
        let front ← ring.next? ring.front
        let size ← Word.minus? ring.size 1
        some (.ok (item, { ring with slots, front, size }))

def push? (item : Item) (ring : WordRing Item) : Option (Except QueueError (WordRing Item)) :=
  if ring.size = ring.capacity then some (.error (.full ring.capacity.toNat))
  else do
    let front ← ring.previous? ring.front
    let slots ← ring.write? front (some item)
    let size ← Word.plus? ring.size 1
    some (.ok { ring with slots, front, size })

def peek? (ring : WordRing Item) : Option (Except QueueError Item) :=
  if ring.size = 0 then some (.error .empty)
  else do
    let found ← ring.slot? ring.front
    match found with
    | none => some (.error .empty)
    | some item => some (.ok item)

def serve? (request : Request Item) (ring : WordRing Item) : Option (Reply Item × WordRing Item) :=
  match request with
  | .enqueue item => (ring.enqueue? item).map fun
    | .ok after => (.done, after)
    | .error cause => (.refused cause, ring)
  | .push item => (ring.push? item).map fun
    | .ok after => (.done, after)
    | .error cause => (.refused cause, ring)
  | .dequeue => ring.dequeue?.map fun
    | .ok (item, after) => (.item item, after)
    | .error cause => (.refused cause, ring)
  | .peek => ring.peek?.map fun
    | .ok item => (.item item, ring)
    | .error cause => (.refused cause, ring)
  | .len => some (.number ring.size.toNat, ring)
  | .isEmpty => some (.flag (ring.size == 0), ring)
  | .isFull => some (.flag (ring.size == ring.capacity), ring)
  | .capacity => some (.number ring.capacity.toNat, ring)

def run? : List (Request Item) → WordRing Item → Option (List (Reply Item) × WordRing Item)
  | [], ring => some ([], ring)
  | request :: rest, ring => do
      let first ← ring.serve? request
      let later ← run? rest first.2
      some (first.1 :: later.1, later.2)

def toRing (ring : WordRing Item) : Ring Item :=
  ⟨ring.slots, ring.front.toNat, ring.rear.toNat, ring.size.toNat⟩

end WordRing

namespace Ring

variable {Item : Type} {ring : Ring Item} {items : List Item}

/-- The places that are filled lie behind each other from the front, and the last of them is the rear. -/
structure LaidOut (capacity : Nat) (ring : Ring Item) : Prop where
  slots_size : ring.slots.size = capacity
  front_lt : ring.front < capacity
  rear_lt : ring.rear < capacity
  size_le : ring.size ≤ capacity
  rear_eq : ring.rear = (ring.front + ring.size + capacity - 1) % capacity
  filled_iff : ∀ place < capacity, (ring.slot place).isSome = true ↔
    ∃ offset < ring.size, place = (ring.front + offset) % capacity

/-- What is computed of places is a word, and ends inside the slots. -/
structure InWords (capacity : Nat) (ring : Ring Item) : Prop where
  next_rear : ring.rear + 1 < 2 ^ 64
  next_front : ring.front + 1 < 2 ^ 64
  round_front : ring.front + capacity < 2 ^ 64
  previous_front : 1 ≤ ring.front + capacity
  next_size : ring.size + 1 < 2 ^ 64
  read : ring.front < ring.slots.size
  enqueued : (ring.rear + 1) % capacity < ring.slots.size
  pushed : (ring.front + capacity - 1) % capacity < ring.slots.size

theorem exists_index (holds : ring.Holds items) {place : Nat} (inside : place < ring.capacity) :
    ∃ offset < ring.capacity, ring.index offset = place := by
  have front := holds.front_lt
  by_cases behind : ring.front ≤ place
  · refine ⟨place - ring.front, by omega, ?_⟩
    rw [index, Nat.add_sub_cancel' behind, Nat.mod_eq_of_lt inside]
  · refine ⟨place + ring.capacity - ring.front, by omega, ?_⟩
    have round : ring.front + (place + ring.capacity - ring.front) = place + ring.capacity := by omega
    rw [index, round, Nat.add_mod_right, Nat.mod_eq_of_lt inside]

theorem laidOut_of_holds (holds : ring.Holds items) : ring.LaidOut ring.capacity where
  slots_size := rfl
  front_lt := holds.front_lt
  rear_lt := by
    rw [holds.rear_eq]
    exact Nat.mod_lt _ (Nat.zero_lt_of_lt holds.front_lt)
  size_le := holds.size_eq ▸ holds.fits
  rear_eq := holds.rear_eq
  filled_iff place inside := by
    -- each place is met at one offset only, and is filled if an item has that place in the list
    obtain ⟨offset, within, rfl⟩ := exists_index holds inside
    rw [holds.slot_eq offset within]
    constructor
    · intro filled
      have taken : offset < items.length := by simpa using filled
      exact ⟨offset, holds.size_eq ▸ taken, rfl⟩
    · rintro ⟨other, filled, same⟩
      have fits := holds.fits
      rw [holds.size_eq] at filled
      obtain rfl := index_injective within (by omega) same
      simpa using filled

theorem LaidOut.inWords {capacity : Nat} (laid : ring.LaidOut capacity) (bounded : capacity < 2 ^ 63) :
    ring.InWords capacity := by
  obtain ⟨slots, front, rear, size, _, _⟩ := laid
  constructor
  case enqueued | pushed =>
    rw [slots]
    exact Nat.mod_lt _ (Nat.zero_lt_of_lt front)
  all_goals omega

end Ring

namespace WordRing

variable {Item : Type} {ring : WordRing Item}

theorem capacity_toNat (bounded : ring.toRing.capacity < 2 ^ 63) :
    ring.capacity.toNat = ring.toRing.capacity :=
  UInt64.toNat_ofNat_of_lt' (Nat.lt_trans bounded (by decide))

theorem isFull_toRing (bounded : ring.toRing.capacity < 2 ^ 63) :
    ring.toRing.isFull = (ring.size == ring.capacity) := by
  rw [Bool.eq_iff_iff, Ring.isFull, beq_iff_eq, beq_iff_eq, ← UInt64.toNat_inj,
    capacity_toNat bounded]
  rfl

theorem isEmpty_toRing (ring : WordRing Item) : ring.toRing.isEmpty = (ring.size == 0) := by
  rw [Bool.eq_iff_iff, Ring.isEmpty, beq_iff_eq, beq_iff_eq, ← UInt64.toNat_inj]
  rfl

theorem slot_toRing (inside : ring.toRing.front < ring.toRing.slots.size) :
    ring.slot? ring.front = some (ring.toRing.slot ring.toRing.front) := by
  rw [slot?, Ring.slot, Array.getElem?_eq_getElem inside]
  exact Array.getElem?_eq_getElem inside

theorem next_toNat (bounded : ring.toRing.capacity < 2 ^ 63) {place : UInt64}
    (inside : place.toNat < ring.toRing.capacity) :
    ∃ next, ring.next? place = some next ∧
      next.toNat = (place.toNat + 1) % ring.toRing.capacity := by
  have roomy := capacity_toNat bounded
  obtain ⟨sum, summed, sumIs⟩ := Word.plus_toNat place 1
    (show place.toNat + 1 < 2 ^ 64 by omega)
  obtain ⟨rest, wrapped, restIs⟩ := Word.modulo_toNat sum ring.capacity (by omega)
  refine ⟨rest, by simp [next?, summed, wrapped], ?_⟩
  rw [restIs, sumIs, roomy]
  rfl

theorem previous_toNat (bounded : ring.toRing.capacity < 2 ^ 63) {place : UInt64}
    (inside : place.toNat < ring.toRing.capacity) :
    ∃ previous, ring.previous? place = some previous ∧
      previous.toNat = (place.toNat + ring.toRing.capacity - 1) % ring.toRing.capacity := by
  have roomy := capacity_toNat bounded
  obtain ⟨sum, summed, sumIs⟩ := Word.plus_toNat place ring.capacity (by omega)
  obtain ⟨less, taken, lessIs⟩ := Word.minus_toNat sum 1
    (show 1 ≤ sum.toNat by omega)
  obtain ⟨rest, wrapped, restIs⟩ := Word.modulo_toNat less ring.capacity (by omega)
  refine ⟨rest, by simp [previous?, summed, taken, wrapped], ?_⟩
  rw [restIs, lessIs, sumIs, roomy]
  rfl

section Laid
variable (laid : ring.toRing.LaidOut ring.toRing.capacity) (bounded : ring.toRing.capacity < 2 ^ 63)
include laid bounded

theorem enqueue_toRing (item : Item) :
    (ring.enqueue? item).map (Except.map toRing) = some (ring.toRing.enqueue item) := by
  have words := laid.inWords bounded
  unfold enqueue? Ring.enqueue
  rw [isFull_toRing bounded]
  by_cases full : ring.size = ring.capacity
  · simp [full, capacity_toNat bounded, Except.map]
  · obtain ⟨rear, moved, rearIs⟩ := next_toNat bounded laid.rear_lt
    obtain ⟨size, counted, sizeIs⟩ := Word.plus_toNat ring.size 1 words.next_size
    have written : ring.write? rear (some item) =
        some (ring.slots.setIfInBounds rear.toNat (some item)) :=
      if_pos (rearIs ▸ words.enqueued)
    simp [full, moved, counted, written, toRing, rearIs, sizeIs, Except.map]

theorem push_toRing (item : Item) :
    (ring.push? item).map (Except.map toRing) = some (ring.toRing.push item) := by
  have words := laid.inWords bounded
  unfold push? Ring.push
  rw [isFull_toRing bounded]
  by_cases full : ring.size = ring.capacity
  · simp [full, capacity_toNat bounded, Except.map]
  · obtain ⟨front, moved, frontIs⟩ := previous_toNat bounded laid.front_lt
    obtain ⟨size, counted, sizeIs⟩ := Word.plus_toNat ring.size 1 words.next_size
    have written : ring.write? front (some item) =
        some (ring.slots.setIfInBounds front.toNat (some item)) :=
      if_pos (frontIs ▸ words.pushed)
    simp [full, moved, counted, written, toRing, frontIs, sizeIs, Except.map]

theorem dequeue_toRing :
    ring.dequeue?.map (Except.map (Prod.map id toRing)) = some ring.toRing.dequeue := by
  have words := laid.inWords bounded
  unfold dequeue? Ring.dequeue
  rw [isEmpty_toRing, slot_toRing words.read]
  by_cases empty : ring.size = 0
  · simp [empty, Except.map]
  · cases ring.toRing.slot ring.toRing.front with
    | none => simp [empty, Except.map]
    | some item =>
        obtain ⟨front, moved, frontIs⟩ := next_toNat bounded laid.front_lt
        have nonempty : ring.size.toNat ≠ 0 := fun none => empty (UInt64.toNat_inj.mp none)
        obtain ⟨size, counted, sizeIs⟩ := Word.minus_toNat ring.size 1
          (Nat.one_le_iff_ne_zero.mpr nonempty)
        have written : ring.write? ring.front none =
            some (ring.slots.setIfInBounds ring.front.toNat none) := if_pos words.read
        simp [empty, moved, counted, written, toRing, frontIs, sizeIs, Except.map]

theorem peek_toRing : ring.peek? = some ring.toRing.peek := by
  have words := laid.inWords bounded
  unfold peek? Ring.peek
  rw [isEmpty_toRing, slot_toRing words.read]
  by_cases empty : ring.size = 0
  · simp [empty]
  · cases ring.toRing.slot ring.toRing.front with
    | none => simp [empty]
    | some item => simp [empty]

theorem serve_toRing (request : Request Item) :
    (ring.serve? request).map (Prod.map id toRing) = some (ring.toRing.serve request) := by
  cases request with
  | enqueue item =>
      obtain ⟨outcome, answered, same⟩ := Option.map_eq_some_iff.mp (enqueue_toRing laid bounded item)
      simp only [serve?, answered, Ring.serve, ← same]
      cases outcome <;> rfl
  | push item =>
      obtain ⟨outcome, answered, same⟩ := Option.map_eq_some_iff.mp (push_toRing laid bounded item)
      simp only [serve?, answered, Ring.serve, ← same]
      cases outcome <;> rfl
  | dequeue =>
      obtain ⟨outcome, answered, same⟩ := Option.map_eq_some_iff.mp (dequeue_toRing laid bounded)
      simp only [serve?, answered, Ring.serve, ← same]
      cases outcome <;> rfl
  | peek =>
      simp only [serve?, peek_toRing laid bounded, Ring.serve]
      cases ring.toRing.peek <;> rfl
  | len => rfl
  | isEmpty => simp [serve?, Ring.serve, isEmpty_toRing]
  | isFull => simp [serve?, Ring.serve, isFull_toRing bounded]
  | capacity => simp [serve?, Ring.serve, capacity_toNat bounded]

end Laid

theorem new_toRing {capacity : Nat} (bounded : capacity < 2 ^ 63) :
    (new? (UInt64.ofNat capacity)).map toRing = some (Ring.new capacity : Ring Item) := by
  have given : (UInt64.ofNat capacity).toNat = capacity :=
    UInt64.toNat_ofNat_of_lt' (Nat.lt_trans bounded (by decide))
  generalize UInt64.ofNat capacity = word at given
  subst given
  have slots : (if word = 0 then 1 else word).toNat = max word.toNat 1 := by
    by_cases zero : word = 0
    · subst zero
      rfl
    · have positive : word.toNat ≠ 0 := fun none => zero (UInt64.toNat_inj.mp none)
      rw [if_neg zero]
      omega
  obtain ⟨rear, taken, rearIs⟩ := Word.minus_toNat (if word = 0 then 1 else word) 1
    (slots ▸ Nat.le_max_right word.toNat 1)
  simp [new?, taken, toRing, Ring.new, slots, rearIs]

/-- The machine goes through all requests, and is the ring throughout. -/
theorem run_toRing {items : List Item} (holds : ring.toRing.Holds items)
    (bounded : ring.toRing.capacity < 2 ^ 63) (requests : List (Request Item)) :
    (run? requests ring).map (Prod.map id toRing) =
      some (replies Ring.serve requests ring.toRing, served Ring.serve requests ring.toRing) := by
  -- that the ring holds some list lasts, and with it the layout in which a step is one of the ring
  induction requests generalizing ring items with
  | nil => rfl
  | cons request rest ih =>
      obtain ⟨first, answered, same⟩ := Option.map_eq_some_iff.mp
        (serve_toRing (Ring.laidOut_of_holds holds) bounded request)
      obtain ⟨_, capacity, after⟩ := Ring.serve_holds holds request
      rw [← same] at capacity after
      obtain ⟨later, went, final⟩ := Option.map_eq_some_iff.mp (ih after (capacity ▸ bounded))
      have later_eq := Prod.mk.inj final
      simp [run?, answered, went, replies, served, ← same, ← later_eq.1, ← later_eq.2]

end WordRing

namespace Ring

variable {Item : Type} {capacity : Nat}

/-- A ring whose capacity leaves one bit of a word free is laid out from its front, with no item in any other
slot, whatever was asked of it and refused. All that is computed of its places is a word and ends inside the
slots, and a machine that has words only and stops where one is left goes through all requests, with the
answers of the ring and the ring at the end. -/
theorem laid_out_in_words (roomy : 1 ≤ capacity) (bounded : capacity ≤ 2 ^ 63 - 1)
    (requests : List (Request Item)) :
    let ring := served serve requests (new capacity)
    ring.LaidOut capacity ∧ ring.InWords capacity ∧
      ((WordRing.new? (UInt64.ofNat capacity)).bind (WordRing.run? requests)).map
          (Prod.map id WordRing.toRing) =
        some (replies serve requests (new capacity), ring) := by
  intro ring
  have less : capacity < 2 ^ 63 := by omega
  have size : (new capacity : Ring Item).capacity = capacity :=
    Array.size_replicate.trans (Nat.max_eq_left roomy)
  have start : (new capacity : Ring Item).Holds [] := new_holds capacity
  have laid : ring.LaidOut capacity := by
    have final := laidOut_of_holds (served_holds start requests).2
    rw [served_capacity start, size] at final
    exact final
  refine ⟨laid, laid.inWords less, ?_⟩
  have begun : (WordRing.new? (UInt64.ofNat capacity)).map WordRing.toRing =
      some (new capacity : Ring Item) := WordRing.new_toRing less
  obtain ⟨machine, made, same⟩ := Option.map_eq_some_iff.mp begun
  rw [made, Option.bind_some, WordRing.run_toRing (same ▸ start) (by rw [same, size]; exact less), same]

def wrapping : List (Request Nat) :=
  [.enqueue 1, .enqueue 2, .enqueue 3, .push 4, .dequeue, .dequeue, .enqueue 5]

/-- The last item lies in the first slot then, and the slot between it and the front is empty. -/
theorem wrapping_laid_out :
    1 ≤ 3 ∧ 3 ≤ 2 ^ 63 - 1 ∧
      served serve wrapping (new 3) = ⟨#[some 5, none, some 3], 2, 0, 2⟩ ∧
      (⟨#[some 5, none, some 3], 2, 0, 2⟩ : Ring Nat).LaidOut 3 ∧
      (⟨#[some 5, none, some 3], 2, 0, 2⟩ : Ring Nat).InWords 3 := by
  obtain ⟨laid, words, _⟩ := laid_out_in_words (show 1 ≤ 3 by decide) (by decide) wrapping
  exact ⟨by decide, by decide, rfl, laid, words⟩

end Ring

end Landscape

import Landscape.Failure

/-!
A bounded queue kept in a ring of slots. Items are appended at the rear and taken from the front;
an item that was taken may be pushed back in front of all others. A full ring refuses both ways of
adding and an empty one both ways of looking, and a refusal changes nothing. The list view reads
the occupied slots from the front.
-/

namespace Landscape

structure Ring (Item : Type) where
  slots : Array (Option Item)
  front : Nat
  rear : Nat
  size : Nat
  deriving Repr

namespace Ring

variable {Item : Type}

/-- A ring needs a slot, so a capacity of zero counts as one. -/
def new (capacity : Nat) : Ring Item where
  slots := Array.replicate (max capacity 1) none
  front := 0
  rear := max capacity 1 - 1
  size := 0

def capacity (ring : Ring Item) : Nat := ring.slots.size

def isFull (ring : Ring Item) : Bool := ring.size == ring.capacity

def isEmpty (ring : Ring Item) : Bool := ring.size == 0

def slot (ring : Ring Item) (index : Nat) : Option Item :=
  (ring.slots[index]?).join

def enqueue (item : Item) (ring : Ring Item) : Except QueueError (Ring Item) :=
  if ring.isFull then .error (.full ring.capacity)
  else
    let rear := (ring.rear + 1) % ring.capacity
    .ok { ring with
      slots := ring.slots.setIfInBounds rear (some item), rear, size := ring.size + 1 }

def dequeue (ring : Ring Item) : Except QueueError (Item × Ring Item) :=
  if ring.isEmpty then .error .empty
  else match ring.slot ring.front with
    | none => .error .empty
    | some item => .ok (item, { ring with
        slots := ring.slots.setIfInBounds ring.front none
        front := (ring.front + 1) % ring.capacity
        size := ring.size - 1 })

def push (item : Item) (ring : Ring Item) : Except QueueError (Ring Item) :=
  if ring.isFull then .error (.full ring.capacity)
  else
    let front := (ring.front + ring.capacity - 1) % ring.capacity
    .ok { ring with
      slots := ring.slots.setIfInBounds front (some item), front, size := ring.size + 1 }

def peek (ring : Ring Item) : Except QueueError Item :=
  if ring.isEmpty then .error .empty
  else match ring.slot ring.front with
    | none => .error .empty
    | some item => .ok item

def index (ring : Ring Item) (offset : Nat) : Nat :=
  (ring.front + offset) % ring.capacity

def toList (ring : Ring Item) : List Item :=
  (List.range ring.size).filterMap fun offset => ring.slot (ring.index offset)

end Ring

end Landscape

import Landscape.Proofs.Ring
import Mathlib.Data.List.Perm.Basic

/-!
The bounded queue as a bounded list. Whatever is asked of a queue, from when it was made, is answered as
the list of its items answers it: appending at the back, putting back in front, taking and looking at the
head, and refusing what does not fit or is not there. What was accepted is at any time what was taken and
what waits, and a queue to which nothing is put back hands out what it accepted in the same order.
-/

namespace Landscape

inductive Request (Item : Type) where
  | enqueue (item : Item)
  | push (item : Item)
  | dequeue
  | peek
  | len
  | isEmpty
  | isFull
  | capacity

inductive Reply (Item : Type) where
  | done
  | item (item : Item)
  | number (value : Nat)
  | flag (value : Bool)
  | refused (cause : QueueError)
  deriving DecidableEq

section Serving
variable {Item State : Type}

def replies (serve : Request Item → State → Reply Item × State) :
    List (Request Item) → State → List (Reply Item)
  | [], _ => []
  | request :: rest, state => (serve request state).1 :: replies serve rest (serve request state).2

def served (serve : Request Item → State → Reply Item × State) :
    List (Request Item) → State → State
  | [], state => state
  | request :: rest, state => served serve rest (serve request state).2

namespace Request

def accepted? : Request Item → Reply Item → Option Item
  | enqueue item, .done | push item, .done => some item
  | _, _ => none

def taken? : Request Item → Reply Item → Option Item
  | dequeue, .item item => some item
  | _, _ => none

end Request

def accepted (requests : List (Request Item)) (answers : List (Reply Item)) : List Item :=
  (requests.zip answers).filterMap fun (request, reply) => request.accepted? reply

def taken (requests : List (Request Item)) (answers : List (Reply Item)) : List Item :=
  (requests.zip answers).filterMap fun (request, reply) => request.taken? reply

end Serving

namespace Ring

variable {Item : Type}

def serve (request : Request Item) (ring : Ring Item) : Reply Item × Ring Item :=
  match request with
  | .enqueue item => match ring.enqueue item with
    | .ok after => (.done, after)
    | .error cause => (.refused cause, ring)
  | .push item => match ring.push item with
    | .ok after => (.done, after)
    | .error cause => (.refused cause, ring)
  | .dequeue => match ring.dequeue with
    | .ok (item, after) => (.item item, after)
    | .error cause => (.refused cause, ring)
  | .peek => match ring.peek with
    | .ok item => (.item item, ring)
    | .error cause => (.refused cause, ring)
  | .len => (.number ring.size, ring)
  | .isEmpty => (.flag ring.isEmpty, ring)
  | .isFull => (.flag ring.isFull, ring)
  | .capacity => (.number ring.capacity, ring)

end Ring

/-- A list of at most so many items that is served at both ends. -/
def serveBounded {Item : Type} (bound : Nat) (request : Request Item) (items : List Item) :
    Reply Item × List Item :=
  match request, items with
  | .enqueue item, items =>
      if items.length = bound then (.refused (.full bound), items) else (.done, items ++ [item])
  | .push item, items =>
      if items.length = bound then (.refused (.full bound), items) else (.done, item :: items)
  | .dequeue, [] => (.refused .empty, [])
  | .dequeue, item :: rest => (.item item, rest)
  | .peek, [] => (.refused .empty, [])
  | .peek, item :: rest => (.item item, item :: rest)
  | .len, items => (.number items.length, items)
  | .isEmpty, items => (.flag items.isEmpty, items)
  | .isFull, items => (.flag (items.length = bound), items)
  | .capacity, items => (.number bound, items)

namespace Ring

section One
variable {Item : Type} {ring : Ring Item} {items : List Item}

theorem isEmpty_eq (holds : ring.Holds items) : ring.isEmpty = items.isEmpty := by
  rw [isEmpty, holds.size_eq]
  cases items <;> rfl

theorem isFull_eq (holds : ring.Holds items) :
    ring.isFull = decide (items.length = ring.capacity) := by
  rw [isFull, holds.size_eq]
  rfl

/-- One request is answered as the list answers it, and leaves a queue of what it leaves of the list. -/
theorem serve_holds (holds : ring.Holds items) (request : Request Item) :
    (ring.serve request).1 = (serveBounded ring.capacity request items).1 ∧
      (ring.serve request).2.capacity = ring.capacity ∧
      (ring.serve request).2.Holds (serveBounded ring.capacity request items).2 := by
  cases request with
  | enqueue item =>
      by_cases full : items.length = ring.capacity
      · simp only [serve, serveBounded, enqueue_full holds full, full, if_true]
        exact ⟨trivial, trivial, holds⟩
      · have room : items.length < ring.capacity := Nat.lt_of_le_of_ne holds.fits full
        simp only [serve, serveBounded, enqueue_eq holds room, full, if_false]
        exact ⟨trivial, capacity_extended item ring, extended_holds holds room item⟩
  | push item =>
      by_cases full : items.length = ring.capacity
      · simp only [serve, serveBounded, push_full holds full, full, if_true]
        exact ⟨trivial, trivial, holds⟩
      · have room : items.length < ring.capacity := Nat.lt_of_le_of_ne holds.fits full
        simp only [serve, serveBounded, push_eq holds room, full, if_false]
        exact ⟨trivial, capacity_prepended item ring, prepended_holds holds room item⟩
  | dequeue =>
      cases items with
      | nil =>
          simp only [serve, serveBounded, dequeue_nil holds]
          exact ⟨trivial, trivial, holds⟩
      | cons item rest =>
          simp only [serve, serveBounded, dequeue_eq holds]
          exact ⟨trivial, capacity_shortened ring, shortened_holds holds⟩
  | peek =>
      cases items with
      | nil =>
          simp only [serve, serveBounded, peek_nil holds]
          exact ⟨trivial, trivial, holds⟩
      | cons item rest =>
          simp only [serve, serveBounded, peek_cons holds]
          exact ⟨trivial, trivial, holds⟩
  | len => exact ⟨congrArg Reply.number holds.size_eq, rfl, holds⟩
  | isEmpty => exact ⟨congrArg Reply.flag (isEmpty_eq holds), rfl, holds⟩
  | isFull => exact ⟨congrArg Reply.flag (isFull_eq holds), rfl, holds⟩
  | capacity => exact ⟨rfl, rfl, holds⟩

theorem served_holds (holds : ring.Holds items) (requests : List (Request Item)) :
    replies serve requests ring = replies (serveBounded ring.capacity) requests items ∧
      (served serve requests ring).Holds (served (serveBounded ring.capacity) requests items) := by
  induction requests generalizing ring items with
  | nil => exact ⟨rfl, holds⟩
  | cons request rest ih =>
      obtain ⟨answer, capacity, after⟩ := serve_holds holds request
      obtain ⟨answers, final⟩ := ih after
      rw [capacity] at answers final
      refine ⟨?_, final⟩
      rw [replies, replies, answer, answers]

theorem served_capacity (holds : ring.Holds items) (requests : List (Request Item)) :
    (served serve requests ring).capacity = ring.capacity := by
  induction requests generalizing ring items with
  | nil => rfl
  | cons request rest ih =>
      obtain ⟨_, capacity, after⟩ := serve_holds holds request
      exact (ih after).trans capacity

theorem front_occupied (holds : ring.Holds items) (occupied : ring.isEmpty = false) :
    (ring.slot ring.front).isSome := by
  have front := holds.slot_eq 0 (Nat.zero_lt_of_lt holds.front_lt)
  rw [index_zero holds] at front
  rw [isEmpty_eq holds] at occupied
  cases items with
  | nil => cases occupied
  | cons item rest => rw [front]; rfl

theorem push_dequeue (holds : ring.Holds items) {item : Item} {pushed : Ring Item}
    (taken : ring.push item = .ok pushed) :
    ∃ rest, pushed.dequeue = .ok (item, rest) ∧ rest.toList = items := by
  have front := push_holds holds taken
  exact ⟨_, dequeue_eq front, toList_eq (shortened_holds front)⟩

end One

end Ring

section Conservation
variable {Item : Type} (bound : Nat)

/-- A request that puts nothing back keeps the order of what goes in, comes out and is kept. -/
theorem served_in_order {request : Request Item} (forward : ∀ item, request ≠ .push item)
    (items : List Item) :
    items ++ (request.accepted? (serveBounded bound request items).1).toList =
      (request.taken? (serveBounded bound request items).1).toList ++
        (serveBounded bound request items).2 := by
  cases request with
  | enqueue item =>
      by_cases full : items.length = bound
      · simp [serveBounded, full, Request.accepted?, Request.taken?]
      · simp [serveBounded, full, Request.accepted?, Request.taken?]
  | push item => exact (forward item rfl).elim
  | dequeue | peek =>
      cases items <;> simp [serveBounded, Request.accepted?, Request.taken?]
  | _ => simp [serveBounded, Request.accepted?, Request.taken?]

theorem served_one (request : Request Item) (items : List Item) :
    (items ++ (request.accepted? (serveBounded bound request items).1).toList).Perm
      ((request.taken? (serveBounded bound request items).1).toList ++
        (serveBounded bound request items).2) := by
  by_cases forward : ∀ item, request ≠ .push item
  · exact List.Perm.of_eq (served_in_order bound forward items)
  · obtain ⟨item, put⟩ := Classical.not_forall.mp forward
    obtain rfl : request = .push item := Classical.not_not.mp put
    by_cases full : items.length = bound
    · simp [serveBounded, full, Request.accepted?, Request.taken?]
    · simp [serveBounded, full, Request.accepted?, Request.taken?]

theorem accepted_cons (request : Request Item) (rest : List (Request Item)) (reply : Reply Item)
    (later : List (Reply Item)) :
    accepted (request :: rest) (reply :: later) =
      (request.accepted? reply).toList ++ accepted rest later := by
  cases taken : request.accepted? reply <;> simp [accepted, taken]

theorem taken_cons (request : Request Item) (rest : List (Request Item)) (reply : Reply Item)
    (later : List (Reply Item)) :
    taken (request :: rest) (reply :: later) = (request.taken? reply).toList ++ taken rest later := by
  cases given : request.taken? reply <;> simp [taken, given]

theorem served_conserves (requests : List (Request Item)) (items : List Item) :
    (items ++ accepted requests (replies (serveBounded bound) requests items)).Perm
      (taken requests (replies (serveBounded bound) requests items) ++
        served (serveBounded bound) requests items) := by
  induction requests generalizing items with
  | nil => simp [accepted, taken, served]
  | cons request rest ih =>
      rw [replies, accepted_cons, taken_cons, served, List.append_assoc, ← List.append_assoc]
      have first := (served_one bound request items).append_right
        (accepted rest (replies (serveBounded bound) rest (serveBounded bound request items).2))
      rw [List.append_assoc (request.taken? _).toList] at first
      exact first.trans ((ih _).append_left _)

theorem served_ordered (requests : List (Request Item)) (forward : ∀ item, .push item ∉ requests)
    (items : List Item) :
    items ++ accepted requests (replies (serveBounded bound) requests items) =
      taken requests (replies (serveBounded bound) requests items) ++
        served (serveBounded bound) requests items := by
  induction requests generalizing items with
  | nil => simp [accepted, taken, served]
  | cons request rest ih =>
      have first := served_in_order bound
        (fun item same => forward item (same ▸ List.mem_cons_self)) items
      have later := ih (fun item member => forward item (List.mem_cons_of_mem request member))
        (serveBounded bound request items).2
      rw [replies, accepted_cons, taken_cons, served, ← List.append_assoc, first, List.append_assoc,
        later, List.append_assoc]

end Conservation

/-- A queue of any capacity, where zero counts as one, answers whatever it is asked as a list of at most so
many items answers it, and holds what that list holds; the front of a queue that is not empty is occupied,
an item that is put back is the next one out, and nothing is lost, repeated or reordered. -/
theorem Ring.serves_as_list {Item : Type} (capacity : Nat) (requests : List (Request Item)) :
    let bound := max capacity 1
    let answers := replies Ring.serve requests (Ring.new capacity)
    let ring := served Ring.serve requests (Ring.new capacity)
    let items := served (serveBounded bound) requests []
    answers = replies (serveBounded bound) requests [] ∧
      ring.toList = items ∧
      (ring.isEmpty = false → (ring.slot ring.front).isSome) ∧
      (∀ item pushed, ring.push item = .ok pushed →
        ∃ rest, pushed.dequeue = .ok (item, rest) ∧ rest.toList = items) ∧
      (accepted requests answers).Perm (taken requests answers ++ items) ∧
      ((∀ item, .push item ∉ requests) →
        accepted requests answers = taken requests answers ++ items) := by
  intro bound answers ring items
  have roomy : (Ring.new capacity : Ring Item).capacity = bound := Array.size_replicate
  obtain ⟨same, holds⟩ := Ring.served_holds (Ring.new_holds capacity) requests
  rw [roomy] at same holds
  have listed : answers = replies (serveBounded bound) requests [] := same
  refine ⟨listed, Ring.toList_eq holds, Ring.front_occupied holds,
    fun item pushed taken => Ring.push_dequeue holds taken, ?_, fun forward => ?_⟩
  · rw [listed]
    exact served_conserves bound requests []
  · rw [listed]
    exact served_ordered bound requests forward []

example : replies Ring.serve [.enqueue 1, .push 2, .enqueue 3, .dequeue, .enqueue 4, .dequeue, .peek]
    (Ring.new 2) = [.done, .done, .refused (.full 2), .item 2, .done, .item 1, .item 4] := by decide

end Landscape

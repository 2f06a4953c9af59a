import Landscape.Proofs.Delivery.Pass

/-!
The size of a batch. A pass is a loop that ends when its batch is full, when the queue is empty, or when a
delivery fails, and it keeps nothing for itself: two passes in a row, of which the first did not fail, are one
pass of both sizes. What was delivered, what waits, and all that the transport did are the same. As long as
the transport on the queue only appends, a delivery is all that can fail.
-/

namespace Landscape

namespace Estate

variable {Outside : Type}

def proceed (more : Estate Outside → Except EventError Nat × Estate Outside) :
    Except EventError Nat × Estate Outside → Except EventError Nat × Estate Outside
  | (.ok delivered, middle) => ((more middle).1.map (delivered + ·), (more middle).2)
  | (.error cause, after) => (.error cause, after)

theorem proceed_counted (more : Estate Outside → Except EventError Nat × Estate Outside)
    (outcome : Except EventError Nat × Estate Outside) :
    proceed more (outcome.1.map (· + 1), outcome.2) =
      ((proceed more outcome).1.map (· + 1), (proceed more outcome).2) := by
  obtain ⟨answer, after⟩ := outcome
  cases answer with
  | error cause => rfl
  | ok delivered =>
      simp only [proceed, Except.map]
      cases (more after).1 with
      | error cause => rfl
      | ok others => simp only [Nat.add_right_comm]

theorem dispatchUpTo_drained (carry : Carry Outside) {dispatcher : Dispatcher} {estate : Estate Outside}
    (drained : (estate.queue? dispatcher.forwarder).map Ring.peek = none ∨
      (estate.queue? dispatcher.forwarder).map Ring.peek = some (.error .empty)) (most : Nat) :
    estate.dispatchUpTo carry dispatcher most = (.ok 0, estate) := by
  cases most with
  | zero => rfl
  | succ most => rcases drained with front | front <;> rw [dispatchUpTo, front]

/-- A pass may be cut anywhere: the rest of it is a pass from where the first part stopped. -/
theorem dispatchUpTo_add (carry : Carry Outside) (dispatcher : Dispatcher) (former latter : Nat)
    (estate : Estate Outside) :
    estate.dispatchUpTo carry dispatcher (former + latter) =
      proceed (dispatchUpTo carry dispatcher latter)
        (estate.dispatchUpTo carry dispatcher former) := by
  -- on the first part, and in each round along all the ways in which the loop can go
  induction former generalizing estate with
  | zero =>
      rw [Nat.zero_add, dispatchUpTo, proceed]
      cases estate.dispatchUpTo carry dispatcher latter with
      | mk answer after => cases answer <;> simp [Except.map]
  | succ former ih =>
      rw [Nat.succ_add, dispatchUpTo, dispatchUpTo]
      split
      · next front =>
          rw [proceed, dispatchUpTo_drained carry (.inl front)]
          rfl
      · next front =>
          rw [proceed, dispatchUpTo_drained carry (.inr front)]
          rfl
      · rfl
      · split
        · rfl
        · split
          · rfl
          · next left _ =>
              rw [ih left]
              exact (proceed_counted _ _).symm

end Estate

namespace Dispatcher

variable {Outside : Type} {dispatcher : Dispatcher} {estate : Estate Outside}
  {items rest : List ForwardedEvent} {event : ForwardedEvent}

def Queues (dispatcher : Dispatcher) (items : List ForwardedEvent) (estate : Estate Outside) : Prop :=
  ∃ ring, estate.queue? dispatcher.forwarder = some ring ∧ ring.Holds items

/-- On the dispatcher's queue the transport only appends, whatever else it does. -/
def Appending (dispatcher : Dispatcher) (carry : Carry Outside) : Prop :=
  ∀ url event estate items, dispatcher.Queues items estate →
    ∃ more, dispatcher.Queues (items ++ more) (carry url event estate).2

theorem carryToAll_queues {carry : Carry Outside} (appending : dispatcher.Appending carry)
    (event : ForwardedEvent) (urls : List String) (queues : dispatcher.Queues items estate) :
    ∃ more, dispatcher.Queues (items ++ more) (estate.carryToAll carry event urls).2 := by
  induction urls generalizing estate items with
  | nil => exact ⟨[], by rwa [List.append_nil]⟩
  | cons url urls ih =>
      obtain ⟨first, carried⟩ := appending url event estate items queues
      rw [Estate.carryToAll]
      split
      · next same =>
          rw [same] at carried
          obtain ⟨others, offered⟩ := ih carried
          exact ⟨first ++ others, by rwa [← List.append_assoc]⟩
      · next same =>
          rw [same] at carried
          exact ⟨first, carried⟩

theorem retire_queues (queues : dispatcher.Queues (event :: rest) estate) :
    ∃ next, estate.retire dispatcher = (.ok (), next) ∧ dispatcher.Queues rest next := by
  obtain ⟨ring, queue, holds⟩ := queues
  refine ⟨(estate.setQueue dispatcher.forwarder ring.shortened).modifyManager dispatcher.manager
    Manager.increment, ?_, ring.shortened, queue_setQueue queue, Ring.shortened_holds holds⟩
  simp only [Estate.retire, queue, Ring.dequeue_eq holds]

theorem receive_queues (queues : dispatcher.Queues items estate) (event : Event) :
    ∃ more, dispatcher.Queues (items ++ more) (estate.sinkReceives dispatcher.forwarder event).2 := by
  obtain ⟨ring, queue, holds⟩ := queues
  rcases receive_cases queue event with ⟨item, next, _, enqueued, received⟩ | ⟨_, refused⟩
  · rw [received]
    exact ⟨[item], next, queue_setQueue queue, Ring.enqueue_holds holds enqueued⟩
  · rw [refused]
    exact ⟨[], ring, queue, by rwa [List.append_nil]⟩

theorem failed_delivery {carry : Carry Outside} (appending : dispatcher.Appending carry) {most : Nat}
    (queues : dispatcher.Queues items estate) {cause : EventError}
    (failed : (estate.dispatchUpTo carry dispatcher most).1 = .error cause) :
    ∃ url reason, cause = .delivery url reason := by
  induction most generalizing estate items with
  | zero => cases failed
  | succ most ih =>
      have ⟨ring, queue, holds⟩ := queues
      rw [Estate.dispatchUpTo, queue, Option.map_some] at failed
      cases items with
      | nil =>
          rw [Ring.peek_nil holds] at failed
          cases failed
      | cons event rest =>
          obtain ⟨more, carried⟩ :=
            carryToAll_queues appending event (estate.subscribers dispatcher.manager) queues
          rw [Ring.peek_cons holds] at failed
          dsimp only at failed
          split at failed
          · next url reason _ _ =>
              cases failed
              exact ⟨url, reason, rfl⟩
          · next middle same =>
              rw [same] at carried
              obtain ⟨left, retired, queued⟩ := retire_queues carried
              rw [retired] at failed
              cases later : (left.dispatchUpTo carry dispatcher most).1 with
              | ok delivered =>
                  simp only [later] at failed
                  cases failed
              | error refusal =>
                  simp only [later] at failed
                  cases failed
                  exact ih queued later

def withBatch (size : Nat) (dispatcher : Dispatcher) : Dispatcher :=
  dispatcher.withSettings { dispatcher.settings with maxBatch := size }

theorem dispatchUpTo_withBatch (carry : Carry Outside) (dispatcher : Dispatcher) (size most : Nat)
    (estate : Estate Outside) :
    estate.dispatchUpTo carry (dispatcher.withBatch size) most =
      estate.dispatchUpTo carry dispatcher most := by
  induction most generalizing estate with
  | zero => rfl
  | succ most ih =>
      simp only [Estate.dispatchUpTo, ih]
      rfl

theorem dispatchPending_withBatch (carry : Carry Outside) (dispatcher : Dispatcher) {size : Nat}
    (positive : 1 ≤ size) (estate : Estate Outside) :
    estate.dispatchPending carry (dispatcher.withBatch size) =
      estate.dispatchUpTo carry dispatcher size := by
  have full : max size 1 = size := Nat.max_eq_left positive
  rw [Estate.dispatchPending, dispatchUpTo_withBatch]
  exact congrArg (fun most => estate.dispatchUpTo carry dispatcher most) full

/-- Two passes in a row, of which the first finished, and one pass of both sizes leave the same: queue,
sequence, subscribers, and all that the transport did and keeps. The single pass passes on what both did, or
fails as the second one did; and if the transport on the queue only appends, that is a failed delivery. -/
theorem batches_add (carry : Carry Outside) (dispatcher : Dispatcher) {former latter delivered : Nat}
    (former_pos : 1 ≤ former) (latter_pos : 1 ≤ latter) {start middle : Estate Outside}
    (finished : start.dispatchPending carry (dispatcher.withBatch former) = (.ok delivered, middle)) :
    let second := middle.dispatchPending carry (dispatcher.withBatch latter)
    let single := start.dispatchPending carry (dispatcher.withBatch (former + latter))
    single.2 = second.2 ∧
      (∀ others, second.1 = .ok others → single.1 = .ok (delivered + others)) ∧
      ∀ cause, second.1 = .error cause → single.1 = .error cause ∧
        (dispatcher.Appending carry → ∀ items, dispatcher.Queues items start →
          ∃ url reason, cause = .delivery url reason) := by
  intro second single
  have uncut : single = start.dispatchUpTo carry dispatcher (former + latter) :=
    dispatchPending_withBatch carry dispatcher (Nat.le_add_right_of_le former_pos) start
  have merged : single = (second.1.map (delivered + ·), second.2) := by
    rw [dispatchPending_withBatch carry dispatcher former_pos] at finished
    rw [uncut, Estate.dispatchUpTo_add, finished, Estate.proceed,
      ← dispatchPending_withBatch carry dispatcher latter_pos]
  have answers : single.1 = second.1.map (delivered + ·) := congrArg Prod.fst merged
  refine ⟨by rw [merged], fun others answered => ?_, fun cause failed => ?_⟩
  · rw [answers, answered, Except.map]
  · have alike : single.1 = .error cause := by rw [answers, failed, Except.map]
    exact ⟨alike, fun appending items queues => failed_delivery appending queues (uncut ▸ alike)⟩

end Dispatcher

namespace Delivery

theorem refilling_appending (settings : DispatcherSettings) :
    (Dispatcher.mk settings 0 ⟨0⟩).Appending refilling := by
  intro url event estate items queues
  obtain ⟨more, received⟩ := Dispatcher.receive_queues queues ⟨.entity .node, .update, .nil, []⟩
  refine ⟨more, ?_⟩
  simp only [refilling]
  split <;> exact received

/-- Two passes over a queue that is refilled meanwhile, each of one event: the second one cannot reach the
second subscriber, and no more can one pass of two. -/
theorem refilled_batches_add :
    ∃ middle cause, watch.Appending refilling ∧ (∃ items, watch.Queues items manned) ∧
      manned.dispatchPending refilling (watch.withBatch 1) = (.ok 1, middle) ∧
      (middle.dispatchPending refilling (watch.withBatch 1)).1 = .error cause ∧
      (manned.dispatchPending refilling (watch.withBatch 2)).1 = .error cause ∧
      (manned.dispatchPending refilling (watch.withBatch 2)).2 =
        (middle.dispatchPending refilling (watch.withBatch 1)).2 ∧
      ∃ url reason, cause = .delivery url reason := by
  obtain ⟨middle, finished, failed⟩ : ∃ middle,
      manned.dispatchPending refilling (watch.withBatch 1) = (.ok 1, middle) ∧
      (middle.dispatchPending refilling (watch.withBatch 1)).1 =
        .error (.delivery "b" "unreachable") := ⟨_, rfl, rfl⟩
  have appending : watch.Appending refilling := refilling_appending _
  have queues : watch.Queues [⟨.entity .node, .create, .nil, []⟩] manned :=
    ⟨_, rfl, Ring.extended_holds (Ring.new_holds 2) (by decide) _⟩
  obtain ⟨same, _, alike⟩ :=
    Dispatcher.batches_add refilling watch (Nat.le_refl 1) (Nat.le_refl 1) finished
  obtain ⟨single, delivery⟩ := alike _ failed
  exact ⟨middle, _, appending, ⟨_, queues⟩, finished, failed, single, same,
    delivery appending _ queues⟩

end Delivery

end Landscape

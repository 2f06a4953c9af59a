import Landscape.Proofs.Delivery.Post
import Landscape.Proofs.Effect
import Mathlib.Data.List.Infix

/-!
What is done around a dispatcher, with books of what its forwarder accepted. Every event that was accepted
either waits in the queue or was passed on, and is counted by the sequence; a forwarder that accepts and a
dispatcher that takes an event out keep that balance, and so do passes, whatever the transport does on its way
as long as it keeps it.
-/

namespace Landscape

inductive Errand where
  | call (wanted : Call)
  | post (event : Event)
  | pass (settings : DispatcherSettings)

structure Receipt where
  errand : Errand
  start : Estate (List ForwardedEvent)
  answer : Call.Answer
  final : Estate (List ForwardedEvent)

/-- What the forwarder has accepted, how many deliveries a transport has begun, and the errands so far. -/
structure Books where
  accepted : List ForwardedEvent
  deliveries : Nat
  receipts : List Receipt

/-- What is done around one dispatcher, as a finite tree. Other sinks make calls of their own and give an
answer, and so does the transport from one delivery to the next; anybody may hand the forwarder an event. -/
inductive Traffic where
  | done
  | call (wanted : Call) (inner : Traffic) (verdict : Except EventError Unit) (rest : Traffic)
  | post (event : Event) (rest : Traffic)
  | pass (settings : DispatcherSettings) (rounds : Nat → Traffic) (answers : Nat → Except String Unit)
      (rest : Traffic)

def Call.Answer.ofPass : Except EventError Nat → Call.Answer
  | .ok delivered => number delivered
  | .error cause => unreceived cause

namespace Estate

def accept (index : Nat) (event : Event) (estate : Estate Books) : Outcome EventError Books :=
  match event.forwarded estate.entity?, estate.sinkReceives index event with
  | .ok item, (.ok (), after) =>
      (.ok (), after.onOutside fun books => { books with accepted := books.accepted ++ [item] })
  | _, outcome => outcome

def seen (estate : Estate Books) : Estate (List ForwardedEvent) :=
  estate.amid estate.outside.accepted

def receipted (estate : Estate Books) (errand : Errand) (start : Estate (List ForwardedEvent))
    (answer : Call.Answer) : Estate Books :=
  estate.onOutside fun books =>
    { books with receipts := books.receipts ++ [⟨errand, start, answer, estate.seen⟩] }

end Estate

namespace Dispatcher

def hearing (dispatcher : Dispatcher) (verdict : Except EventError Unit)
    (inner : Estate Books → Estate Books) : Deliver Books := fun sink event found =>
  if sink = .made dispatcher.forwarder then found.accept dispatcher.forwarder event
  else (verdict, inner found)

def carrying (rounds : Nat → Estate Books → Estate Books) (answers : Nat → Except String Unit) :
    Carry Books := fun _ _ estate =>
  (answers estate.outside.deliveries, rounds estate.outside.deliveries
    (estate.onOutside fun books => { books with deliveries := books.deliveries + 1 }))

end Dispatcher

def Traffic.run (dispatcher : Dispatcher) : Traffic → Estate Books → Estate Books
  | done, estate => estate
  | call wanted inner verdict rest, estate =>
      let outcome := wanted.perform (dispatcher.hearing verdict (inner.run dispatcher)) estate
      rest.run dispatcher (outcome.2.receipted (.call wanted) estate.seen outcome.1)
  | post event rest, estate =>
      let outcome := estate.accept dispatcher.forwarder event
      rest.run dispatcher (outcome.2.receipted (.post event) estate.seen (.ofReceive outcome.1))
  | pass settings rounds answers rest, estate =>
      let outcome := estate.dispatchPending
        (Dispatcher.carrying (fun turn => (rounds turn).run dispatcher) answers)
        (dispatcher.withSettings settings)
      rest.run dispatcher (outcome.2.receipted (.pass settings) estate.seen (.ofPass outcome.1))

/-- A queue of this capacity accounts for what was accepted: that is what the sequence counts and what waits,
and what waits was accepted last, in this order. -/
structure Ring.Accounts (capacity : Nat) (accepted : List ForwardedEvent) (sequence : UInt64)
    (ring : Ring ForwardedEvent) : Prop where
  counted : accepted.length < 2 ^ 64 → accepted.length = sequence.toNat + ring.size
  within : ring.size ≤ accepted.length
  waiting : ring.toList = accepted.drop (accepted.length - ring.size)
  fits : ring.size ≤ ring.capacity
  roomy : ring.capacity = max capacity 1

def Conserves (dispatcher : Dispatcher) (capacity : Nat) (estate : Estate (List ForwardedEvent)) : Prop :=
  ∃ ring, estate.queue? dispatcher.forwarder = some ring ∧
    ring.Accounts capacity estate.outside (estate.sequence dispatcher.manager)

def Call.subject? {Outside : Type} (model : ModelRef) (estate : Estate Outside) :
    Call → Option (ResourceType × ResourceId)
  | .add owner entity =>
      if owner = model then (estate.entity? entity).map fun found => (.entity found.kind, found.id)
      else none
  | .delete owner kind id => if owner = model then some (.entity kind, id) else none
  | _ => none

/-- A write has contributed one event about its subject if it succeeded, and none if it was refused. -/
def Contributed (subject : ResourceType × ResourceId) (start : List ForwardedEvent) (answer : Call.Answer)
    (final : List ForwardedEvent) : Prop :=
  (answer = .done ∧ ∃ event, final = start ++ [event] ∧
    (event.resourceType, event.resourceId) = subject) ∨
  ∃ cause, answer = .refused cause ∧ final = start

namespace Receipt

def Contributes (model : ModelRef) (receipt : Receipt) : Prop :=
  ∀ wanted subject, receipt.errand = .call wanted → wanted.subject? model receipt.start = some subject →
    Contributed subject receipt.start.outside receipt.answer receipt.final.outside

def Fair (dispatcher : Dispatcher) (receipt : Receipt) : Prop :=
  ∀ sinks managers held, receipt.errand = .call (.elsewhere sinks managers held) →
    sinks[dispatcher.forwarder]? = receipt.start.sink? dispatcher.forwarder ∧
    (managers[dispatcher.manager.index]?.map Manager.sequence) =
      (receipt.start.manager? dispatcher.manager).map Manager.sequence

/-- The states before and after the errand conserve, it contributed what it should, and that is part of what
was accepted since. -/
structure Stands (dispatcher : Dispatcher) (capacity : Nat) (model : ModelRef)
    (accepted : List ForwardedEvent) (receipt : Receipt) : Prop where
  start : Conserves dispatcher capacity receipt.start
  final : Conserves dispatcher capacity receipt.final
  contributes : receipt.Contributes model
  part : receipt.final.outside <+: accepted

theorem Stands.later {dispatcher : Dispatcher} {capacity : Nat} {model : ModelRef}
    {accepted more : List ForwardedEvent} {receipt : Receipt}
    (stands : receipt.Stands dispatcher capacity model accepted) (goesOn : accepted <+: more) :
    receipt.Stands dispatcher capacity model more :=
  { stands with part := stands.part.trans goesOn }

end Receipt

namespace Estate

structure Balanced {Outside : Type} (dispatcher : Dispatcher) (capacity : Nat)
    (gone items : List ForwardedEvent) (estate : Estate Outside) : Prop where
  queue : ∃ ring, estate.queue? dispatcher.forwarder = some ring ∧ ring.Holds items ∧
    ring.capacity = max capacity 1
  sequence : (estate.manager? dispatcher.manager).map Manager.sequence =
    some (UInt64.ofNat gone.length)

variable {dispatcher : Dispatcher} {capacity : Nat} {model : ModelRef}

theorem queue_of_sinks {Outside Other : Type} {before : Estate Outside} {after : Estate Other}
    (sinks : after.sinks = before.sinks) (index : Nat) : after.queue? index = before.queue? index := by
  rw [queue?, sink?, sinks]
  rfl

theorem Balanced.of_sameSinks {Outside Other : Type} {gone items : List ForwardedEvent}
    {before : Estate Outside} {after : Estate Other}
    (balanced : before.Balanced dispatcher capacity gone items)
    (sinks : after.sinks = before.sinks) (managers : after.managers = before.managers) :
    after.Balanced dispatcher capacity gone items where
  queue := by
    rw [queue_of_sinks sinks]
    exact balanced.queue
  sequence := by
    rw [manager?, managers]
    exact balanced.sequence

theorem Balanced.conserves {gone items : List ForwardedEvent} {estate : Estate (List ForwardedEvent)}
    (balanced : estate.Balanced dispatcher capacity gone items)
    (accepted : estate.outside = gone ++ items) : Conserves dispatcher capacity estate := by
  obtain ⟨ring, queue, holds, roomy⟩ := balanced.queue
  have length : estate.outside.length = gone.length + ring.size := by
    rw [accepted, List.length_append, holds.size_eq]
  have sequence : estate.sequence dispatcher.manager = UInt64.ofNat gone.length := by
    rw [Estate.sequence, balanced.sequence]
    rfl
  refine ⟨ring, queue, ?_, ?_, ?_, ?_, roomy⟩
  · intro few
    rw [sequence, UInt64.toNat_ofNat', Nat.mod_eq_of_lt (by omega)]
    exact length
  · omega
  · rw [Ring.toList_eq holds, length, Nat.add_sub_cancel, accepted, List.drop_left]
  · rw [holds.size_eq]
    exact holds.fits

/-- The books are in order: the balance is right, the model reports to the forwarder, and every receipt so
far stands. -/
structure InOrder (dispatcher : Dispatcher) (capacity : Nat) (model : ModelRef)
    (estate : Estate Books) : Prop where
  balanced : ∃ gone items, estate.outside.accepted = gone ++ items ∧
    estate.Balanced dispatcher capacity gone items
  reports : (estate.model? model).map Model.sink = some (.made dispatcher.forwarder)
  receipts : ∀ receipt ∈ estate.outside.receipts,
    receipt.Stands dispatcher capacity model estate.outside.accepted

theorem InOrder.conserves {estate : Estate Books} (inOrder : estate.InOrder dispatcher capacity model) :
    Conserves dispatcher capacity estate.seen := by
  obtain ⟨gone, items, accepted, balanced⟩ := inOrder.balanced
  exact (balanced.of_sameSinks rfl rfl : estate.seen.Balanced _ _ _ _).conserves accepted

/-- What is accepted and what is receipted goes on, and if all was fair the books stay in order. -/
structure Runs (dispatcher : Dispatcher) (capacity : Nat) (model : ModelRef)
    (before after : Estate Books) : Prop where
  accepts : before.outside.accepted <+: after.outside.accepted
  records : before.outside.receipts <+: after.outside.receipts
  keeps : (∀ receipt ∈ after.outside.receipts, receipt.Fair dispatcher) →
    before.InOrder dispatcher capacity model → after.InOrder dispatcher capacity model

theorem Runs.refl (estate : Estate Books) : estate.Runs dispatcher capacity model estate :=
  ⟨List.prefix_rfl, List.prefix_rfl, fun _ inOrder => inOrder⟩

theorem Runs.trans {first second third : Estate Books}
    (former : first.Runs dispatcher capacity model second)
    (latter : second.Runs dispatcher capacity model third) :
    first.Runs dispatcher capacity model third where
  accepts := former.accepts.trans latter.accepts
  records := former.records.trans latter.records
  keeps fair inOrder :=
    latter.keeps fair
      (former.keeps (fun receipt member => fair receipt (latter.records.subset member)) inOrder)

theorem accept_cases {index : Nat} {estate : Estate Books} {ring : Ring ForwardedEvent}
    (queue : estate.queue? index = some ring) (event : Event) :
    (∃ item next, event.forwarded estate.entity? = .ok item ∧ ring.enqueue item = .ok next ∧
      estate.accept index event = (.ok (), (estate.setQueue index next).onOutside fun books =>
        { books with accepted := books.accepted ++ [item] })) ∨
    ∃ refusal, estate.accept index event = (.error refusal, estate) := by
  rcases Dispatcher.receive_cases queue event with
    ⟨item, next, rendered, enqueued, received⟩ | ⟨refusal, refused⟩
  · exact .inl ⟨item, next, rendered, enqueued, by simp only [accept, rendered, received]⟩
  · refine .inr ⟨refusal, ?_⟩
    rw [accept, refused]
    split
    · next same => cases same
    · rfl

theorem sinkReceives_outside {Outside : Type} (index : Nat) (event : Event) (estate : Estate Outside) :
    (estate.sinkReceives index event).2.outside = estate.outside := by
  unfold sinkReceives
  split
  · rfl
  · split <;> rfl

theorem accept_outside (index : Nat) (event : Event) (estate : Estate Books) :
    ∃ more, (estate.accept index event).2.outside =
      { estate.outside with accepted := estate.outside.accepted ++ more } := by
  have kept := sinkReceives_outside index event estate
  unfold accept
  split
  · next item after _ received =>
      rw [received] at kept
      exact ⟨[item], by rw [onOutside, kept]⟩
  · exact ⟨[], by rw [kept, List.append_nil]⟩

theorem accept_runs (event : Event) (estate : Estate Books) :
    estate.Runs dispatcher capacity model (estate.accept dispatcher.forwarder event).2 := by
  obtain ⟨more, outside⟩ := accept_outside dispatcher.forwarder event estate
  refine ⟨?_, ?_, fun _ inOrder => ?_⟩
  · rw [outside]
    exact List.prefix_append _ _
  · rw [outside]
  · obtain ⟨gone, items, accepted, balanced⟩ := inOrder.balanced
    obtain ⟨ring, queue, holds, roomy⟩ := balanced.queue
    rcases accept_cases queue event with ⟨item, next, _, enqueued, taken⟩ | ⟨_, refused⟩
    · rw [taken]
      refine ⟨⟨gone, items ++ [item], ?_, ⟨next, ?_, ?_, ?_⟩, balanced.sequence⟩, inOrder.reports, ?_⟩
      · rw [← List.append_assoc, ← accepted]
        rfl
      · exact Dispatcher.queue_setQueue queue
      · exact Ring.enqueue_holds holds enqueued
      · exact (Ring.enqueue_capacity holds enqueued).trans roomy
      · intro receipt member
        exact (inOrder.receipts receipt member).later (List.prefix_append _ [item])
    · rw [refused]
      exact inOrder

theorem retire_runs (settings : DispatcherSettings) (estate : Estate Books) :
    estate.Runs dispatcher capacity model (estate.retire (dispatcher.withSettings settings)).2 := by
  have outside : (estate.retire (dispatcher.withSettings settings)).2.outside = estate.outside := by
    unfold retire
    repeat' split
    all_goals rfl
  refine ⟨?_, ?_, fun _ inOrder => ?_⟩
  · rw [outside]
  · rw [outside]
  · obtain ⟨gone, items, accepted, balanced⟩ := inOrder.balanced
    obtain ⟨ring, queue, holds, roomy⟩ := balanced.queue
    have known : estate.queue? (dispatcher.withSettings settings).forwarder = some ring := queue
    unfold retire
    rw [known]
    cases dequeued : ring.dequeue with
    | error cause =>
        simp only [dequeued]
        exact inOrder
    | ok taken =>
        obtain ⟨item, next⟩ := taken
        simp only [dequeued]
        obtain ⟨rest, rfl, held, same⟩ := Ring.dequeue_holds holds dequeued
        -- the event in front no longer waits, and is the last of those that are gone
        refine ⟨⟨gone ++ [item], rest, ?_, ⟨next, ?_, held, same.trans roomy⟩, ?_⟩, inOrder.reports,
          inOrder.receipts⟩
        · rw [List.append_assoc]
          exact accepted
        · exact Dispatcher.queue_setQueue queue
        · obtain ⟨manager, here, counts⟩ := Option.map_eq_some_iff.mp balanced.sequence
          have there : (estate.setQueue dispatcher.forwarder next).manager? dispatcher.manager =
              some manager := here
          have moved := Dispatcher.manager_modifyManager (estate.setQueue dispatcher.forwarder next)
            dispatcher.manager Manager.increment
          rw [there] at moved
          refine (congrArg (Option.map Manager.sequence) moved).trans ?_
          rw [List.length_append, List.length_singleton, UInt64.ofNat_add, ← counts]
          rfl

theorem counted_runs (estate : Estate Books) :
    estate.Runs dispatcher capacity model
      (estate.onOutside fun books => { books with deliveries := books.deliveries + 1 }) := by
  refine ⟨List.prefix_rfl, List.prefix_rfl, fun _ inOrder => ?_⟩
  obtain ⟨gone, items, accepted, balanced⟩ := inOrder.balanced
  exact ⟨⟨gone, items, accepted, balanced.of_sameSinks rfl rfl⟩, inOrder.reports, inOrder.receipts⟩

section Passes
variable {carry : Carry Books}
  (carries : ∀ url event (estate : Estate Books),
    estate.Runs dispatcher capacity model (carry url event estate).2)
include carries

theorem carryToAll_runs (event : ForwardedEvent) (urls : List String) (estate : Estate Books) :
    estate.Runs dispatcher capacity model (carryToAll carry event urls estate).2 := by
  induction urls generalizing estate with
  | nil => exact .refl estate
  | cons url rest ih =>
      have carried := carries url event estate
      rw [carryToAll]
      split
      · next same =>
          rw [same] at carried
          exact carried.trans (ih _)
      · next same =>
          rw [same] at carried
          exact carried

theorem dispatchUpTo_runs (settings : DispatcherSettings) (most : Nat) (estate : Estate Books) :
    estate.Runs dispatcher capacity model
      (dispatchUpTo carry (dispatcher.withSettings settings) most estate).2 := by
  induction most generalizing estate with
  | zero => exact .refl estate
  | succ most ih =>
      rw [dispatchUpTo]
      split
      · exact .refl estate
      · exact .refl estate
      · exact .refl estate
      · next event _ =>
          have carried := carryToAll_runs carries event
            (estate.subscribers (dispatcher.withSettings settings).manager) estate
          split
          · next same =>
              rw [same] at carried
              exact carried
          · next middle same =>
              rw [same] at carried
              have retired : middle.Runs dispatcher capacity model
                  (middle.retire (dispatcher.withSettings settings)).2 := retire_runs settings middle
              split
              · next refused =>
                  rw [refused] at retired
                  exact carried.trans retired
              · next left gone =>
                  rw [gone] at retired
                  exact (carried.trans retired).trans (ih left)

end Passes

end Estate

end Landscape

import Landscape.Proofs.Delivery.Post
import Landscape.Proofs.Deque
import Landscape.Proofs.Effect
import Landscape.Proofs.Wire

/-!
Events that wait are snapshots. A forwarder renders the objects of an event when it receives it and queues
their texts, so nothing that happens to an entity or to a store afterwards reaches them: whenever the event
comes to the front it is what was received, and its text reads back with every object as it was.
-/

namespace Landscape

structure Snapshot.Shows (found : Entity) (snapshot : Snapshot) : Prop where
  id : snapshot.id = found.id
  displayName : snapshot.displayName = found.displayName
  absent : snapshot.description = none ↔ found.description = ""
  description : snapshot.description.getD "" = found.description
  annotations : (snapshot.annotations.map fun entry => (entry.key, entry.value)) = found.annotations.pairs

theorem Entity.snapshot_shows (found : Entity) : found.snapshot.Shows found where
  id := rfl
  displayName := rfl
  absent := by simp [snapshot]
  description := by
    by_cases empty : found.description = ""
    · simp [snapshot, empty]
    · simp [snapshot, empty]
  annotations := by
    rw [snapshot, List.map_map]
    exact List.map_id _

namespace Payload

/-- What the text of an object tells, given the entities as they were, to a reader of such texts. -/
def ReadsBy (readSnapshot : String → Option Snapshot) (readEntry : String → Option AnnotationEntry)
    (entityAt : EntityRef → Option Entity) (object : String) : Payload → Prop
  | resource entity => ∀ found, entityAt entity = some found →
      ∃ snapshot, readSnapshot object = some snapshot ∧ snapshot.Shows found
  | entry key value => readEntry object = some ⟨key, value⟩
  | entryKey key => object = key
  | text words => object = words
  | other => False

def ReadsAs (entityAt : EntityRef → Option Entity) (object : String) (payload : Payload) : Prop :=
  payload.ReadsBy Snapshot.ofWire? AnnotationEntry.ofWire? entityAt object

variable {entityAt : EntityRef → Option Entity}

theorem readsBy_rendered (snapshots : Codec Snapshot) (entries : Codec AnnotationEntry) {payload : Payload}
    {object : String} (rendered : payload.renderedBy snapshots.write entries.write entityAt = .ok object) :
    payload.ReadsBy snapshots.read? entries.read? entityAt object := by
  cases payload with
  | resource entity =>
      intro found here
      obtain rfl : snapshots.write found.snapshot = object := by
        rw [Payload.renderedBy, here] at rendered
        exact Except.ok.inj rendered
      exact ⟨found.snapshot, snapshots.reads found.snapshot, found.snapshot_shows⟩
  | entry key value =>
      obtain rfl := Except.ok.inj rendered
      exact entries.reads ⟨key, value⟩
  | entryKey key => exact (Except.ok.inj rendered).symm
  | text words => exact (Except.ok.inj rendered).symm
  | other => cases rendered

theorem readsAs_rendered {payload : Payload} {object : String}
    (rendered : payload.rendered entityAt = .ok object) : payload.ReadsAs entityAt object := by
  rw [Payload.rendered, ← Snapshot.codec_wire, ← AnnotationEntry.codec_wire] at rendered
  rw [ReadsAs, ← Snapshot.codec_ofWire, ← AnnotationEntry.codec_ofWire]
  exact readsBy_rendered _ _ rendered

theorem readsAs_renderAll {payloads : List Payload} {objects : List String}
    (rendered : renderAll entityAt payloads = .ok objects) :
    List.Forall₂ (fun payload object => payload.ReadsAs entityAt object) payloads objects := by
  induction payloads generalizing objects with
  | nil =>
      obtain rfl := Except.ok.inj rendered
      exact .nil
  | cons payload rest ih =>
      rw [renderAll] at rendered
      cases first : payload.rendered entityAt with
      | error refusal =>
          rw [first] at rendered
          cases rendered
      | ok object =>
          rw [first] at rendered
          cases others : renderAll entityAt rest with
          | error refusal =>
              rw [others] at rendered
              cases rendered
          | ok later =>
              rw [others] at rendered
              obtain rfl := Except.ok.inj rendered
              exact .cons (readsAs_rendered first) (ih others)

end Payload

namespace Estate

variable {Outside : Type}

/-- What may happen while an event waits in a forwarder, with so many events ahead of it in the beginning
and in the end: anything that leaves the forwarder alone, further events, and requests of its queue. -/
inductive Waits (index : Nat) : Nat → Estate Outside → Nat → Estate Outside → Prop where
  | now {ahead estate} : Waits index ahead estate ahead estate
  | elsewhere {ahead before now last after} (same : now.sink? index = before.sink? index)
      (later : Waits index ahead now last after) : Waits index ahead before last after
  | received {ahead before last after} (event : Event)
      (later : Waits index ahead (before.sinkReceives index event).2 last after) :
      Waits index ahead before last after
  | taken {ahead before last after ring first next} (queue : before.queue? index = some ring)
      (dequeued : ring.dequeue = .ok (first, next))
      (later : Waits index ahead (before.setQueue index next) last after) :
      Waits index (ahead + 1) before last after
  | putBack {ahead before last after ring first next} (queue : before.queue? index = some ring)
      (pushed : ring.push first = .ok next)
      (later : Waits index (ahead + 1) (before.setQueue index next) last after) :
      Waits index ahead before last after

variable {estate before after : Estate Outside} {index ahead last : Nat} {item : ForwardedEvent}

theorem Waits.trans {first second third : Estate Outside} {most middle least : Nat}
    (former : Waits index most first middle second) (latter : Waits index middle second least third) :
    Waits index most first least third := by
  induction former with
  | now => exact latter
  | elsewhere same _ ih => exact .elsewhere same (ih latter)
  | received event _ ih => exact .received event (ih latter)
  | taken queue dequeued _ ih => exact .taken queue dequeued (ih latter)
  | putBack queue pushed _ ih => exact .putBack queue pushed (ih latter)

theorem waits_of_same (same : after.sink? index = before.sink? index) :
    Waits index ahead before ahead after :=
  .elsewhere same .now

def Queued (index : Nat) (item : ForwardedEvent) (ahead : Nat) (estate : Estate Outside) : Prop :=
  ∃ ring items, estate.queue? index = some ring ∧ ring.Holds items ∧ items[ahead]? = some item

theorem queued_received (queued : estate.Queued index item ahead) (event : Event) :
    (estate.sinkReceives index event).2.Queued index item ahead := by
  obtain ⟨ring, items, queue, holds, here⟩ := queued
  rcases Dispatcher.receive_cases queue event with ⟨more, next, _, enqueued, received⟩ | ⟨_, refused⟩
  · rw [received]
    refine ⟨next, items ++ [more], Dispatcher.queue_setQueue queue, Ring.enqueue_holds holds enqueued, ?_⟩
    -- what comes later stands behind
    rw [List.getElem?_append_left (List.getElem?_eq_some_iff.mp here).1]
    exact here
  · rw [refused]
    exact ⟨ring, items, queue, holds, here⟩

/-- The event keeps waiting as it is, whatever happens meanwhile. -/
theorem Waits.queued (waits : Waits index ahead before last after)
    (queued : before.Queued index item ahead) : after.Queued index item last := by
  induction waits with
  | now => exact queued
  | elsewhere same _ ih =>
      apply ih
      rw [Queued, queue?, same]
      exact queued
  | received event _ ih => exact ih (queued_received queued event)
  | taken queue dequeued _ ih =>
      obtain ⟨ring, items, known, holds, here⟩ := queued
      obtain rfl := Option.some.inj (known.symm.trans queue)
      obtain ⟨rest, rfl, held, _⟩ := Ring.dequeue_holds holds dequeued
      exact ih ⟨_, rest, Dispatcher.queue_setQueue queue, held, here⟩
  | putBack queue pushed _ ih =>
      obtain ⟨ring, items, known, holds, here⟩ := queued
      obtain rfl := Option.some.inj (known.symm.trans queue)
      exact ih ⟨_, _, Dispatcher.queue_setQueue queue, Ring.push_holds holds pushed, here⟩

theorem queued_dequeues (queued : estate.Queued index item 0) :
    ∃ ring next, estate.queue? index = some ring ∧ ring.dequeue = .ok (item, next) := by
  obtain ⟨ring, items, queue, holds, here⟩ := queued
  cases items with
  | nil => cases here
  | cons first rest =>
      obtain rfl := Option.some.inj here
      exact ⟨ring, _, queue, Ring.dequeue_eq holds⟩

end Estate

open Estate

def Deliver.Spares {Outside : Type} (index : Nat) (deliver : Deliver Outside) : Prop :=
  ∀ sink event found ahead, Waits index ahead found ahead (deliver sink event found).2

theorem Call.perform_waits {Outside : Type} {index : Nat} {deliver : Deliver Outside}
    (spares : deliver.Spares index) (call : Call) (here : call.isElsewhere = false)
    (estate : Estate Outside) (ahead : Nat) :
    Waits index ahead estate ahead (call.perform deliver estate).2 := by
  let related (before after : Estate Outside) := Waits index ahead before ahead after
  have kept : ∀ before after : Estate Outside, before.SameSinks after → related before after := by
    intro before after same
    apply waits_of_same
    rw [sink?, same.sinks, sink?]
  have waits : (call.opening estate).Satisfies (related estate) related :=
    (call.opening_sameSinks here estate).imp (kept estate) kept
  rw [perform_opening]
  exact waits.finishes (fun sink event found => spares sink event found ahead) Waits.trans

/-- Entries, snapshots and forwarded events read back from their texts. An event that a forwarder of any
past takes, whatever happens until it is the next one out, reads back from its text as it was received,
every entity that it carries with the identity, the name, the description and the annotations of then. -/
theorem wire_loses_nothing :
    (∀ entry : AnnotationEntry, AnnotationEntry.ofWire? entry.wire = some entry) ∧
    (∀ snapshot : Snapshot, Snapshot.ofWire? snapshot.wire = some snapshot) ∧
    (∀ event : ForwardedEvent, ForwardedEvent.ofWire? event.wire = some event) ∧
    ∀ {Outside : Type} (index capacity : Nat) (requests : List (Request ForwardedEvent))
      (event : Event) (start accepted final : Estate Outside),
      start.queue? index = some (served Ring.serve requests (Ring.new capacity)) →
      start.sinkReceives index event = (.ok (), accepted) →
      Waits index (served Ring.serve requests (Ring.new capacity)).size accepted 0 final →
      ∃ ring next item read, final.queue? index = some ring ∧ ring.dequeue = .ok (item, next) ∧
        ForwardedEvent.ofWire? item.wire = some read ∧ read.resourceType = event.resourceType ∧
        read.operation = event.operation ∧ read.resourceId = event.resourceId ∧
        List.Forall₂ (fun payload object => payload.ReadsAs start.entity? object) event.payload
          read.objectsJson := by
  refine ⟨AnnotationEntry.ofWire_wire, Snapshot.ofWire_wire, ForwardedEvent.ofWire_wire, ?_⟩
  intro Outside index capacity requests event start accepted final queue took waits
  obtain ⟨_, holds⟩ := Ring.served_holds (Ring.new_holds capacity) requests
  generalize served Ring.serve requests (Ring.new capacity) = ring at queue holds waits
  rcases Dispatcher.receive_cases queue event with ⟨item, next, rendered, enqueued, received⟩ | ⟨_, refused⟩
  · obtain rfl : start.setQueue index next = accepted := congrArg Prod.snd (received.symm.trans took)
    -- the new event stands behind all that waited before
    have queued : (start.setQueue index next).Queued index item ring.size := by
      refine ⟨next, _, Dispatcher.queue_setQueue queue, Ring.enqueue_holds holds enqueued, ?_⟩
      rw [holds.size_eq, List.getElem?_concat_length]
    obtain ⟨front, rest, last, dequeued⟩ := queued_dequeues (waits.queued queued)
    obtain ⟨type, operation, id, objects⟩ := Dispatcher.forwarded_names rendered
    exact ⟨front, rest, item, item, last, dequeued, item.ofWire_wire, type, operation, id,
      Payload.readsAs_renderAll objects⟩
  · rw [refused] at took
    cases took

def forwardingTo {Outside : Type} (index : Nat) : Deliver Outside :=
  fun _ event found => found.sinkReceives index event

theorem forwardingTo_spares {Outside : Type} (index : Nat) :
    (forwardingTo index : Deliver Outside).Spares index :=
  fun _ event _ _ => .received event .now

def billing : Entity :=
  { Entity.new ⟨0⟩ .system (.repeating 3) with
    registration := .registered
    displayName := "billing"
    description := "say \"invoices\"" }

def office : Estate Unit :=
  { Estate.empty () with
    entities := [billing]
    models := [.new (.made 0)]
    sinks := [.forwarder (served Ring.serve
      [.enqueue ⟨.entity .node, .delete, .repeating 1, []⟩] (Ring.new 2))]
    held := [.model ⟨0⟩] }

def renamedOffice : Estate Unit :=
  ((Call.change ⟨0⟩ (.displayName "payments")).perform (forwardingTo 0)
    (office.sinkReceives 0 (updateEvent ⟨0⟩ billing)).2).2

/-- Once the deletion was taken, the update comes out with the system as it was. -/
theorem renamed_reads_back : ∃ final : Estate Unit,
    (final.entity? ⟨0⟩).map Entity.displayName = some "payments" ∧
    ∃ ring next item read, final.queue? 0 = some ring ∧ ring.dequeue = .ok (item, next) ∧
      ForwardedEvent.ofWire? item.wire = some read ∧
      read.resourceType = .entity .system ∧ read.operation = .update ∧
      read.resourceId = .repeating 3 ∧
      List.Forall₂ (fun (payload : Payload) object => payload.ReadsAs office.entity? object)
        [.resource ⟨0⟩] read.objectsJson := by
  have renamed : Waits 0 1 (office.sinkReceives 0 (updateEvent ⟨0⟩ billing)).2 1 renamedOffice :=
    Call.perform_waits (forwardingTo_spares 0) _ rfl _ 1
  have waits := renamed.trans (.taken rfl rfl .now)
  exact ⟨_, rfl, wire_loses_nothing.2.2.2 0 2 [.enqueue ⟨.entity .node, .delete, .repeating 1, []⟩]
    (updateEvent ⟨0⟩ billing) office _ _ rfl rfl waits⟩

end Landscape

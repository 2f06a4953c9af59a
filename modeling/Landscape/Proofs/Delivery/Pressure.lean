import Landscape.Proofs.Delivery.Snapshots
import Landscape.Proofs.Delivery.Traffic
import Landscape.Proofs.Entity.Notes
import Landscape.Proofs.Store.Refusal

/-!
Back-pressure. A forwarder queues an event with all its objects, or refuses it and stays as it is: for an
object that it cannot render in the first place, and then for a full queue. Whatever has to be reported to a
model that reports to a forwarder holds only objects that can be rendered, so it is refused just when the
queue is full, and whoever reported it answers with that refusal. A write of the store is taken back then; a
change of an entity or of annotations stays.
-/

namespace Landscape

namespace Payload

variable {entityAt : EntityRef → Option Entity} {payloads : List Payload}

/-- One object that cannot be rendered keeps all of them back, wherever it stands. -/
theorem renderAll_other (odd : other ∈ payloads) :
    renderAll entityAt payloads = .error (.unsupportedPayload "opaque") := by
  induction payloads with
  | nil => cases odd
  | cons first rest ih =>
      rw [renderAll]
      rcases List.mem_cons.mp odd with rfl | later
      · rfl
      · cases first with
        | other => rfl
        | resource | entry | entryKey | text => simp only [rendered, renderedBy, ih later, Except.map]

theorem renderAll_plain (plain : other ∉ payloads) :
    ∃ objects, renderAll entityAt payloads = .ok objects ∧
      List.Forall₂ (fun payload object => payload.rendered entityAt = .ok object) payloads objects := by
  induction payloads with
  | nil => exact ⟨[], rfl, .nil⟩
  | cons first rest ih =>
      obtain ⟨objects, others, each⟩ := ih fun later => plain (List.mem_cons_of_mem first later)
      obtain ⟨object, here⟩ : ∃ object, first.rendered entityAt = .ok object := by
        cases first with
        | other => exact absurd List.mem_cons_self plain
        | resource | entry | entryKey | text => exact ⟨_, rfl⟩
      exact ⟨object :: objects, by rw [renderAll, here, others]; rfl, .cons here each⟩

end Payload

namespace Estate

variable {Outside : Type} {index : Nat} {ring : Ring ForwardedEvent} {items : List ForwardedEvent}
  {estate found : Estate Outside} {event : Event}

/-- What a forwarder does with an event: it looks at the objects before it looks at the queue, and refuses
without a trace, or else it queues the event with a text for each object. -/
structure Forwards (index : Nat) (ring : Ring ForwardedEvent) (event : Event) (estate : Estate Outside) :
    Prop where
  odd : .other ∈ event.payload →
    estate.sinkReceives index event = (.error (.unsupportedPayload "opaque"), estate)
  full : .other ∉ event.payload → ring.isFull = true →
    estate.sinkReceives index event = (.error (.queue (.full ring.capacity)), estate)
  room : .other ∉ event.payload → ring.isFull = false → ∃ objects next,
    List.Forall₂ (fun payload object => payload.rendered estate.entity? = .ok object) event.payload
      objects ∧
    estate.sinkReceives index event = (.ok (), estate.setQueue index next) ∧
    next.toList = ring.toList ++ [⟨event.resourceType, event.operation, event.resourceId, objects⟩]

theorem receive_forwards (queue : estate.queue? index = some ring) (holds : ring.Holds items)
    (event : Event) : estate.Forwards index ring event := by
  have sink := Dispatcher.sink_of_queue queue
  have isFull := Ring.isFull_eq holds
  refine ⟨fun odd => ?_, fun plain full => ?_, fun plain room => ?_⟩
  · simp only [sinkReceives, sink, Sink.receive, Sink.forward, Event.forwarded,
      Payload.renderAll_other odd, Except.map]
  · obtain ⟨objects, rendered, _⟩ := @Payload.renderAll_plain estate.entity? _ plain
    have refused := Ring.enqueue_full holds (of_decide_eq_true (isFull.symm.trans full))
    simp only [sinkReceives, sink, Sink.receive, Sink.forward, Event.forwarded, rendered, refused,
      Except.map, Except.mapError]
  · obtain ⟨objects, rendered, each⟩ := Payload.renderAll_plain plain
    have below : items.length < ring.capacity :=
      Nat.lt_of_le_of_ne holds.fits (of_decide_eq_false (isFull.symm.trans room))
    have taken := Ring.enqueue_eq holds below
    refine ⟨objects,
      ring.extended ⟨event.resourceType, event.operation, event.resourceId, objects⟩, each, ?_, ?_⟩
    · simp only [sinkReceives, sink, Sink.receive, Sink.forward, Event.forwarded, rendered, taken,
        Except.map, Except.mapError, setQueue]
    · rw [Ring.toList_eq (Ring.extended_holds holds below _), Ring.toList_eq holds]

end Estate

def Deliver.Forwarding {Outside : Type} (index : Nat) (deliver : Deliver Outside) : Prop :=
  ∀ event (found : Estate Outside), (found.queue? index).isSome →
    deliver (.made index) event found = found.sinkReceives index event

theorem Call.noteWrite_event {call : Call} {place : NotesPlace}
    {write : Records → Option (Records × Event)} {found records : Records} {event : Event}
    (writes : call.noteWrite? = some (place, write)) (busy : write found = some (records, event)) :
    event.resourceType = .annotations ∧ .other ∉ event.payload := by
  cases call with
  | annotate noted key value =>
      cases writes
      rw [Records.annotated] at busy
      split at busy
      · cases busy
      · cases busy
        exact ⟨rfl, by simp [Estate.noteEvent]⟩
  | unannotate noted key =>
      cases writes
      rw [Records.unannotated] at busy
      split at busy
      · cases busy
        exact ⟨rfl, by simp [Estate.noteEvent]⟩
      · cases busy
  | _ => cases writes

namespace Estate

variable {Outside : Type} {index : Nat} {ring : Ring ForwardedEvent} {items : List ForwardedEvent}
  {deliver : Deliver Outside} {model : ModelRef} {owner : Model} {estate found : Estate Outside}
  {event : Event}

/-- A write that was taken back: the store is as it was, and so is who is registered. -/
structure TakenBack (model : ModelRef) (before after : Estate Outside) : Prop where
  store : before.SameStore model after
  registration : ∀ entity,
    (after.entity? entity).map Entity.registration = (before.entity? entity).map Entity.registration

/-- The forwarder of a model, or a registered entity of the model, which passes changes of annotations on. -/
inductive Leads (index : Nat) (model : ModelRef) (estate : Estate Outside) : SinkRef → Prop where
  | straight : Leads index model estate (.made index)
  | through {entity : EntityRef} {found : Entity} (here : estate.entity? entity = some found)
      (own : found.model = model) (registered : found.isRegistered = true)
      (lives : estate.modelLives model = true) : Leads index model estate (.entity entity)

/-- What has to be reported to the forwarder of a model: additions of what may be added, deletions of what is
stored, changes of registered entities, and changes of annotations that stand on their own and lead there.
Each with what it leaves behind when the report is refused. -/
inductive Owes (index : Nat) (model : ModelRef) (estate : Estate Outside) :
    Call → (Estate Outside → Prop) → Prop where
  | add {entity : EntityRef} {found : Entity} (here : estate.entity? entity = some found)
      (given : found.id.isNil = false) (own : found.model = model) :
      Owes index model estate (.add model entity) (estate.TakenBack model)
  | delete {kind : Kind} {id : ResourceId} {removed : EntityRef}
      (present : estate.stored model kind id = some removed) :
      Owes index model estate (.delete model kind id) (estate.TakenBack model)
  | edit {entity : EntityRef} {found : Entity} (edit : Edit) (here : estate.entity? entity = some found)
      (own : found.model = model) (registered : found.isRegistered = true)
      (lives : estate.modelLives model = true) (awake : estate.entityLives entity = true)
      (busy : edit.isIdle found = false) (fits : edit.Fits estate) :
      Owes index model estate (edit.call entity) fun after =>
        after = estate.modifyEntity entity fun _ => edit.change estate found
  | note {call : Call} {notes : NotesRef} {write : Records → Option (Records × Event)} {found : Notes}
      {records : Records} {event : Event} (writes : call.noteWrite? = some (.free notes, write))
      (there : estate.notes? notes = some found) (busy : write found.records = some (records, event))
      (awake : estate.sinkLives found.sink = true) (leads : estate.Leads index model found.sink) :
      Owes index model estate call fun after => after = estate.putRecords (.free notes) records

/-- How a call ends that had to report to a forwarder: refused when the queue was full, and then the queue is
as it was; done otherwise, with one event more in the queue. -/
structure Pressed (index : Nat) (ring : Ring ForwardedEvent) (left : Estate Outside → Prop)
    (reply : Call.Answer × Estate Outside) : Prop where
  full : ring.isFull = true → reply.1 = .refused (.event (.queue (.full ring.capacity))) ∧
    reply.2.queue? index = some ring ∧ left reply.2
  room : ring.isFull = false → reply.1 = .done ∧
    ∃ item next, reply.2.queue? index = some next ∧ next.toList = ring.toList ++ [item]

theorem pressed_of {reply : Call.Answer × Estate Outside} {left : Estate Outside → Prop} (event : Event)
    (forwarding : deliver.Forwarding index) (holds : ring.Holds items)
    (queue : found.queue? index = some ring) (plain : .other ∉ event.payload)
    (follows : ∀ verdict after, deliver (.made index) event found = (verdict, after) →
      reply.1 = .ofChange (verdict.mapError .event) ∧ reply.2.sinks = after.sinks ∧
        ∀ refusal, verdict = .error refusal → after = found → left reply.2) :
    Pressed index ring left reply := by
  have forwards := receive_forwards queue holds event
  have heard : deliver (.made index) event found = found.sinkReceives index event :=
    forwarding event found (queue ▸ rfl)
  constructor
  · intro full
    obtain ⟨answer, sinks, kept⟩ := follows _ _ (heard.trans (forwards.full plain full))
    exact ⟨answer, (queue_of_sinks sinks index).trans queue, kept _ rfl rfl⟩
  · intro room
    obtain ⟨objects, next, _, taken, appended⟩ := forwards.room plain room
    obtain ⟨answer, sinks, _⟩ := follows _ _ (heard.trans taken)
    have longer := (queue_of_sinks sinks index).trans (Dispatcher.queue_setQueue queue)
    exact ⟨answer, _, next, longer, appended⟩

theorem registration_bindSlots (bound other : EntityRef) (estate : Estate Outside) :
    ((estate.bindSlots bound).entity? other).map Entity.registration =
      (estate.entity? other).map Entity.registration := by
  refine bindSlots_keeps (fun later => (later.entity? other).map Entity.registration =
    (estate.entity? other).map Entity.registration) bound (fun later slot target kept => ?_) estate rfl
  rw [← kept, entity_modifyEntity]
  split
  · rw [Option.map_map]
    congr 1
    funext found
    exact (registration_learnTarget slot target found).2
  · rfl

theorem handOver_leads (deliver : Deliver Outside) (made : estate.model? model = some owner)
    (sink : owner.sink = .made index) {sinkRef : SinkRef} (leads : estate.Leads index model sinkRef)
    {event : Event} (annotations : event.resourceType = .annotations) (plain : .other ∉ event.payload)
    (more : List Holding) :
    ∃ told holdings, .other ∉ told.payload ∧ ∀ verdict after,
      deliver (.made index) told ((estate.hold more).hold holdings) = (verdict, after) →
        (estate.hold more).handOver deliver sinkRef event = (verdict, after.release holdings) := by
  cases leads with
  | straight => exact ⟨event, [], plain, fun verdict after reply => reply⟩
  | @through entity found here own registered lives =>
      subst own
      refine ⟨updateEvent entity found, [.model found.model, .entity entity], by simp [updateEvent],
        fun verdict after reply => ?_⟩
      rw [← sink] at reply
      rw [handOver, entityReceives, if_pos annotations]
      exact announce_delivers here made registered (modelLives_hold lives more) reply

section Pressing
variable (forwarding : deliver.Forwarding index) (holds : ring.Holds items)
  (queue : estate.queue? index = some ring) (made : estate.model? model = some owner)
  (sink : owner.sink = .made index)
include forwarding holds queue made sink

theorem add_pressed (sound : ∀ kind, (estate.registry model kind).Sound) {entity : EntityRef}
    {found : Entity} (here : estate.entity? entity = some found) (given : found.id.isNil = false)
    (own : found.model = model) :
    Pressed index ring (estate.TakenBack model) ((Call.add model entity).perform deliver estate) := by
  have sinks : (estate.onAdd model entity found).sinks = estate.sinks :=
    (bindSlots_aside entity estate).sinks
  refine pressed_of (storedEvent entity found (estate.stored model found.kind found.id)) forwarding holds
    ((queue_of_sinks sinks index).trans queue) (by simp [storedEvent]) fun verdict after reply => ?_
  rw [← sink] at reply
  have performed := add_delivers here made given own reply
  rw [Call.perform, performed]
  cases verdict with
  | ok _ => exact ⟨rfl, rfl, fun _ refused => by cases refused⟩
  | error refusal =>
      refine ⟨rfl, rfl, fun _ _ same => ?_⟩
      subst same
      obtain ⟨final, refused, _, _, store⟩ :=
        add_refused here made given own reply ((undisturbed_refl _).1 model) sound
      obtain rfl := congrArg Prod.snd (performed.symm.trans refused)
      exact ⟨store, fun other => registration_bindSlots entity other estate⟩

theorem delete_pressed (sound : ∀ kind, (estate.registry model kind).Sound) {kind : Kind}
    {id : ResourceId} {removed : EntityRef} (present : estate.stored model kind id = some removed) :
    Pressed index ring (estate.TakenBack model)
      ((Call.delete model kind id).perform deliver estate) := by
  have waiting : (estate.onDelete model kind id removed).queue? index = some ring := queue
  refine pressed_of (deletedEvent kind id) forwarding holds waiting (by simp [deletedEvent])
    fun verdict after reply => ?_
  rw [← sink] at reply
  have performed := delete_delivers made present reply
  rw [Call.perform, performed]
  cases verdict with
  | ok _ => exact ⟨rfl, rfl, fun _ refused => by cases refused⟩
  | error refusal =>
      refine ⟨rfl, rfl, fun _ _ same => ?_⟩
      subst same
      obtain ⟨final, refused, _, _, store⟩ :=
        delete_refused made present reply ((undisturbed_refl _).1 model) sound
      obtain rfl := congrArg Prod.snd (performed.symm.trans refused)
      exact ⟨store, fun _ => rfl⟩

theorem edit_pressed {entity : EntityRef} {found : Entity} {edit : Edit}
    (here : estate.entity? entity = some found) (own : found.model = model)
    (registered : found.isRegistered = true) (lives : estate.modelLives model = true)
    (awake : estate.entityLives entity = true) (busy : edit.isIdle found = false)
    (fits : edit.Fits estate) :
    Pressed index ring (fun after => after = estate.modifyEntity entity fun _ => edit.change estate found)
      ((edit.call entity).perform deliver estate) := by
  subst own
  have waiting : (edit.scene entity found estate).queue? index = some ring := queue
  refine pressed_of (updateEvent entity found) forwarding holds waiting (by simp [updateEvent])
    fun verdict after reply => ?_
  rw [← sink] at reply
  rw [Edit.perform_registered here made registered lives awake busy fits reply]
  refine ⟨rfl, rfl, fun _ _ same => ?_⟩
  rw [same]
  exact release_hold (edit.holds entity found.model) _

theorem note_pressed {call : Call} {notes : NotesRef} {write : Records → Option (Records × Event)}
    {found : Notes} {records : Records} {event : Event}
    (writes : call.noteWrite? = some (.free notes, write)) (there : estate.notes? notes = some found)
    (busy : write found.records = some (records, event)) (awake : estate.sinkLives found.sink = true)
    (leads : estate.Leads index model found.sink) :
    Pressed index ring (fun after => after = estate.putRecords (.free notes) records)
      (call.perform deliver estate) := by
  obtain ⟨annotations, plain⟩ := Call.noteWrite_event writes busy
  obtain ⟨written, same⟩ : ∃ written, written = estate.putRecords (.free notes) records := ⟨_, rfl⟩
  have alive : written.sinkLives found.sink = true := same ▸ awake
  have leading : written.Leads index model found.sink := by
    rw [same]
    generalize found.sink = sinkRef at leads
    cases leads with
    | straight => exact .straight
    | through here own registered lives => exact .through here own registered lives
  have performed : call.perform deliver estate =
      Call.answering .ofChange (written.reportNotes deliver found event) := by
    have found_there : estate.notesAt? (.free notes) = some found := there
    rw [← Call.through_handOver, Call.through, writes]
    simp only [writeOpening, found_there, busy, report_handOver, same]
  have owned : written.model? model = some owner := same ▸ made
  obtain ⟨told, holdings, rendered, reports⟩ :=
    handOver_leads deliver owned sink leading annotations plain (written.notesHolds found)
  have waiting : ((written.hold (written.notesHolds found)).hold holdings).queue? index = some ring := by
    rw [same]
    exact queue
  refine pressed_of told forwarding holds waiting rendered fun verdict after reply => ?_
  have handed := reports verdict after reply
  rw [performed, report_handOver, tellOpening, if_pos alive, Opening.finish, handed]
  refine ⟨rfl, rfl, fun _ _ unchanged => ?_⟩
  rw [unchanged, ← same]
  show ((((written.hold _).hold holdings).release holdings).release _) = written
  rw [release_hold, release_hold]

theorem Owes.pressed (sound : ∀ kind, (estate.registry model kind).Sound) {call : Call}
    {left : Estate Outside → Prop} (owes : estate.Owes index model call left) :
    Pressed index ring left (call.perform deliver estate) := by
  cases owes with
  | add here given own => exact add_pressed forwarding holds queue made sink sound here given own
  | delete present => exact delete_pressed forwarding holds queue made sink sound present
  | edit edit here own registered lives awake busy fits =>
      exact edit_pressed forwarding holds queue made sink here own registered lives awake busy fits
  | note writes there busy awake leads =>
      exact note_pressed forwarding holds queue made sink writes there busy awake leads

end Pressing

/-- A forwarder of any past refuses an object that it cannot render, whatever else comes along and even when
the queue is full; then it refuses everything when the queue is full; and else it queues the event with a text
for each object in order. So whatever has to be reported to it is refused just when the queue was full, and
for no other reason: additions and deletions are taken back then, and changes stay. -/
theorem back_pressure {capacity : Nat} {requests : List (Request ForwardedEvent)}
    (past : served Ring.serve requests (Ring.new capacity) = ring)
    (queue : estate.queue? index = some ring) :
    ring.capacity = max capacity 1 ∧ (∀ event, estate.Forwards index ring event) ∧
    ∀ (deliver : Deliver Outside) (model : ModelRef) (owner : Model), deliver.Forwarding index →
      estate.model? model = some owner → owner.sink = .made index →
      (∀ kind, (estate.registry model kind).Sound) →
      ∀ call left, estate.Owes index model call left →
        let reply := call.perform deliver estate
        (reply.1 = .refused (.event (.queue (.full ring.capacity))) ↔ ring.isFull = true) ∧
        (∀ cause, reply.1 = .refused (.event cause) → cause = .queue (.full ring.capacity)) ∧
        (ring.isFull = true → reply.2.queue? index = some ring ∧ left reply.2) ∧
        (ring.isFull = false → reply.1 = .done ∧
          ∃ item next, reply.2.queue? index = some next ∧ next.toList = ring.toList ++ [item]) := by
  obtain ⟨_, holds⟩ := Ring.served_holds (Ring.new_holds capacity) requests
  have bound := Ring.served_capacity (Ring.new_holds capacity) requests
  rw [past] at holds bound
  refine ⟨bound.trans (Array.size_replicate ..), fun event => receive_forwards queue holds event, ?_⟩
  intro deliver model owner forwarding made sink sound call left owes reply
  have pressed : Pressed index ring left reply := owes.pressed forwarding holds queue made sink sound
  cases state : ring.isFull with
  | true =>
      obtain ⟨refused, kept, leaves⟩ := pressed.full state
      refine ⟨iff_of_true refused rfl, fun cause answered => ?_, fun _ => ⟨kept, leaves⟩, nofun⟩
      cases refused.symm.trans answered
      rfl
  | false =>
      obtain ⟨done, longer⟩ := pressed.room state
      refine ⟨iff_of_false (fun refused => ?_) nofun, fun cause answered => ?_, nofun,
        fun _ => ⟨done, longer⟩⟩
      · cases done.symm.trans refused
      · cases done.symm.trans answered

end Estate

def jam : Ring ForwardedEvent :=
  served Ring.serve [.enqueue ⟨.entity .node, .delete, .repeating 1, []⟩] (Ring.new 1)

def jammed : Estate Unit :=
  { Estate.empty () with
    entities := [billing, .new ⟨0⟩ .node (.repeating 1)]
    models := [Model.setRegistry .system (Registry.empty.insert (.repeating 3) ⟨0⟩) (.new (.made 0))]
    sinks := [.forwarder jam]
    notes := [⟨⟨0⟩, .entity ⟨0⟩, .empty⟩]
    held := [.model ⟨0⟩, .entity ⟨1⟩] }

/-- An object that cannot be rendered is refused for what it is. The node is refused and not stored; the
annotations are refused, by way of the system, and keep what is noted. -/
theorem jammed_presses :
    jammed.sinkReceives 0 ⟨.entity .context, .create, .repeating 2, [.text "ok", .other]⟩ =
      (.error (.unsupportedPayload "opaque"), jammed) ∧
    (∃ after, (Call.add ⟨0⟩ ⟨1⟩).perform (forwardingTo 0) jammed =
        (.refused (.event (.queue (.full 1))), after) ∧
      jammed.TakenBack ⟨0⟩ after ∧ after.queue? 0 = some jam) ∧
    (Call.annotate (.free ⟨0⟩) "zone" "a").perform (forwardingTo 0) jammed =
      (.refused (.event (.queue (.full 1))),
        jammed.putRecords (.free ⟨0⟩) (Records.empty.insert "zone" "a")) := by
  have past : served Ring.serve [.enqueue ⟨.entity .node, .delete, .repeating 1, []⟩] (.new 1) = jam := rfl
  obtain ⟨_, forwards, reports⟩ := Estate.back_pressure past (show jammed.queue? 0 = some jam from rfl)
  have refuses := reports (forwardingTo 0) ⟨0⟩ _ (fun _ _ _ => rfl) rfl rfl
    (Model.sound_new (Registry.sound_insert Registry.sound_empty _ _) _ _)
  obtain ⟨added, _, undone, _⟩ := refuses (.add ⟨0⟩ ⟨1⟩) _ (.add rfl rfl rfl)
  obtain ⟨noted, _, kept, _⟩ := refuses (.annotate (.free ⟨0⟩) "zone" "a") _
    (.note rfl rfl rfl (by decide +kernel) (.through rfl rfl rfl rfl))
  have refused := Prod.ext (added.mpr rfl) rfl
  refine ⟨(forwards _).odd (by decide), ⟨_, refused, (undone rfl).2, (undone rfl).1⟩, ?_⟩
  exact Prod.ext (noted.mpr rfl) (kept rfl).2

end Landscape

import Landscape.Proofs.Calls

/-!
A call cut in two where a sink hears of it. Up to there a call either is over, or has an event to hand over
in a certain estate; what it does with the sink's answer, and with the estate that the sink leaves, comes
after. Every call hands over at most one event, so performing it is this opening, then the sink, then the
closing; what a sink finds and what a call does without the sink can be told apart in this way.
-/

namespace Landscape

inductive Opening (Outside Value : Type) where
  | ended (value : Value) (estate : Estate Outside)
  | handing (sink : SinkRef) (event : Event) (found : Estate Outside)
      (close : Except EventError Unit → Estate Outside → Value × Estate Outside)

namespace Opening

variable {Outside Value Other : Type}

def finish (deliver : Deliver Outside) : Opening Outside Value → Value × Estate Outside
  | ended value estate => (value, estate)
  | handing sink event found close =>
      let reply := deliver sink event found
      close reply.1 reply.2

def andThen (more : Value → Estate Outside → Other × Estate Outside) :
    Opening Outside Value → Opening Outside Other
  | ended value estate => ended (more value estate).1 (more value estate).2
  | handing sink event found close => handing sink event found fun verdict after =>
      more (close verdict after).1 (close verdict after).2

theorem finish_andThen (deliver : Deliver Outside) (opening : Opening Outside Value)
    (more : Value → Estate Outside → Other × Estate Outside) :
    (opening.andThen more).finish deliver =
      more (opening.finish deliver).1 (opening.finish deliver).2 := by
  cases opening <;> rfl

/-- What holds where the opening ends, and from where the sink ends to where the call ends. -/
def Satisfies (opens : Estate Outside → Prop) (closes : Estate Outside → Estate Outside → Prop) :
    Opening Outside Value → Prop
  | ended _ after => opens after
  | handing _ _ found close => opens found ∧ ∀ verdict after, closes after (close verdict after).2

theorem satisfies_andThen {opens : Estate Outside → Prop}
    {closes : Estate Outside → Estate Outside → Prop} {opening : Opening Outside Value}
    {more : Value → Estate Outside → Other × Estate Outside}
    (first : opening.Satisfies opens closes)
    (ends : ∀ value after, opens after → opens (more value after).2)
    (heard : ∀ value after middle, closes after middle → closes after (more value middle).2) :
    (opening.andThen more).Satisfies opens closes := by
  cases opening with
  | ended value after => exact ends value after first
  | handing sink event found close =>
      exact ⟨first.1, fun verdict after => heard _ _ _ (first.2 verdict after)⟩

/-- What composes holds of a call as a whole if it holds up to where a sink hears, while the sink hears, and
from there on. -/
theorem Satisfies.finishes {related : Estate Outside → Estate Outside → Prop}
    {opening : Opening Outside Value} {start : Estate Outside} {deliver : Deliver Outside}
    (satisfies : opening.Satisfies (related start) related)
    (hears : ∀ sink event found, related found (deliver sink event found).2)
    (composes : ∀ {first second third : Estate Outside},
      related first second → related second third → related first third) :
    related start (opening.finish deliver).2 := by
  cases opening with
  | ended value after => exact satisfies
  | handing sink event found close =>
      exact composes satisfies.1 (composes (hears sink event found) (satisfies.2 _ _))

end Opening

namespace Estate

variable {Outside : Type}

def conclude {Value Other : Type} (view : Value → Other) (holdings : List Holding) (value : Value)
    (estate : Estate Outside) : Other × Estate Outside :=
  (view value, estate.release holdings)

def announceOpening (entity : EntityRef) (estate : Estate Outside) :
    Opening Outside (Except EventError Unit) :=
  match estate.entity? entity with
  | none => .ended (.ok ()) estate
  | some found =>
      match estate.model? found.model with
      | none => .ended (.ok ()) estate
      | some model =>
          if found.isRegistered && estate.modelLives found.model then
            .handing model.sink (updateEvent entity found)
              (estate.hold [.model found.model, .entity entity])
              (conclude id [.model found.model, .entity entity])
          else .ended (.ok ()) estate

theorem announce_opening (deliver : Deliver Outside) (entity : EntityRef) (estate : Estate Outside) :
    estate.announce deliver entity = (estate.announceOpening entity).finish deliver := by
  cases here : estate.entity? entity with
  | none => simp only [announce, announceOpening, here, Opening.finish]
  | some found =>
      cases made : estate.model? found.model with
      | none => simp only [announce, announceOpening, here, made, Opening.finish]
      | some model =>
          by_cases heard : (found.isRegistered && estate.modelLives found.model) = true
          · simp only [announce, announceOpening, here, made, heard, if_true]
            rfl
          · simp only [announce, announceOpening, here, made, heard, Opening.finish]
            rfl

def updateOpening (entity : EntityRef) (change : Entity → Entity) (estate : Estate Outside) :
    Opening Outside (Except ModelError Unit) :=
  ((estate.modifyEntity entity change).announceOpening entity).andThen
    (conclude (Except.mapError .event) [])

theorem update_opening (deliver : Deliver Outside) (entity : EntityRef) (change : Entity → Entity)
    (estate : Estate Outside) :
    estate.update deliver entity change = (estate.updateOpening entity change).finish deliver := by
  rw [update, announce_opening, updateOpening, Opening.finish_andThen]
  rfl

def receivesOpening (entity : EntityRef) (event : Event) (estate : Estate Outside) :
    Opening Outside (Except EventError Unit) :=
  if event.resourceType = .annotations then estate.announceOpening entity
  else .ended (.error (.unsupportedResourceType
    (((estate.entity? entity).map fun found => found.kind.name).getD "") event.resourceType)) estate

theorem receives_opening (deliver : Deliver Outside) (entity : EntityRef) (event : Event)
    (estate : Estate Outside) :
    estate.entityReceives deliver entity event =
      (estate.receivesOpening entity event).finish deliver := by
  unfold entityReceives receivesOpening
  split
  · exact announce_opening deliver entity estate
  · rfl

def handOverOpening (sink : SinkRef) (event : Event) (estate : Estate Outside) :
    Opening Outside (Except EventError Unit) :=
  match sink with
  | .entity entity => estate.receivesOpening entity event
  | .made index => .handing (.made index) event estate (conclude id [])

theorem handOver_opening (deliver : Deliver Outside) (sink : SinkRef) (event : Event)
    (estate : Estate Outside) :
    estate.handOver deliver sink event = (estate.handOverOpening sink event).finish deliver := by
  cases sink with
  | entity entity => exact receives_opening deliver entity event estate
  | made index => rfl

def notesHolds (notes : Notes) (estate : Estate Outside) : List Holding :=
  (if estate.modelLives notes.model then [Holding.model notes.model] else []) ++ [.sink notes.sink]

def reportOpening (notes : Notes) (event : Event) (estate : Estate Outside) :
    Opening Outside (Except ModelError Unit) :=
  if estate.sinkLives notes.sink then
    ((estate.hold (estate.notesHolds notes)).handOverOpening notes.sink event).andThen
      (conclude (Except.mapError .event) (estate.notesHolds notes))
  else .ended (.ok ()) estate

theorem report_opening (deliver : Deliver Outside) (notes : Notes) (event : Event)
    (estate : Estate Outside) :
    estate.reportNotes deliver notes event = (estate.reportOpening notes event).finish deliver := by
  unfold reportNotes reportOpening
  split
  · rw [Opening.finish_andThen, ← handOver_opening]
    rfl
  · rfl

def addOpening (model : ModelRef) (entity : EntityRef) (estate : Estate Outside) :
    Opening Outside (Except ModelError Unit) :=
  match estate.entity? entity, estate.model? model with
  | some found, some owner =>
      if found.id.isNil then .ended (.error .identityNotSet) estate
      else if found.model ≠ model then .ended (.error (.modelMismatch found.id)) estate
      else
        let previous := estate.stored model found.kind found.id
        .handing owner.sink (storedEvent entity found previous) (estate.onAdd model entity found)
          fun verdict after => settle model found.kind found.id previous
            (modifyEntity entity Entity.register) (after.release (addHolds model entity previous))
            verdict
  | _, _ => .ended (.ok ()) estate

theorem add_opening (deliver : Deliver Outside) (model : ModelRef) (entity : EntityRef)
    (estate : Estate Outside) :
    estate.add deliver model entity = (estate.addOpening model entity).finish deliver := by
  cases here : estate.entity? entity with
  | none => simp only [add, addOpening, here, Opening.finish]
  | some found =>
      cases made : estate.model? model with
      | none => simp only [add, addOpening, here, made, Opening.finish]
      | some owner =>
          by_cases unset : found.id.isNil = true
          · simp only [add_nil deliver here made unset, addOpening, here, made, unset, if_true,
              Opening.finish]
          have given : found.id.isNil = false := by simpa using unset
          by_cases own : found.model = model
          · obtain ⟨⟨verdict, after⟩, reply⟩ : ∃ reply, deliver owner.sink
                (storedEvent entity found (estate.stored model found.kind found.id))
                (estate.onAdd model entity found) = reply := ⟨_, rfl⟩
            simp only [add_delivers here made given own reply, addOpening, here, made, given, own,
              ne_eq, not_true_eq_false, if_false, Bool.false_eq_true, Opening.finish, reply]
          · simp only [add_foreign deliver here made given own, addOpening, here, made, given, own,
              ne_eq, not_false_eq_true, if_true, if_false, Bool.false_eq_true, Opening.finish]

def deleteOpening (model : ModelRef) (kind : Kind) (id : ResourceId) (estate : Estate Outside) :
    Opening Outside (Except ModelError Unit) :=
  match estate.model? model with
  | none => .ended (.ok ()) estate
  | some owner =>
      match estate.stored model kind id with
      | none => .ended (.error (.notFound (.entity kind) id)) estate
      | some removed =>
          .handing owner.sink (deletedEvent kind id) (estate.onDelete model kind id removed)
            fun verdict after => settle model kind id (some removed) (fun released => released)
              (after.release (deleteHolds model removed)) verdict

theorem delete_opening (deliver : Deliver Outside) (model : ModelRef) (kind : Kind)
    (id : ResourceId) (estate : Estate Outside) :
    estate.delete deliver model kind id = (estate.deleteOpening model kind id).finish deliver := by
  cases made : estate.model? model with
  | none => simp only [delete, deleteOpening, made, Opening.finish]
  | some owner =>
      cases present : estate.stored model kind id with
      | none =>
          simp only [delete_absent deliver made present, deleteOpening, made, present,
            Opening.finish]
      | some removed =>
          obtain ⟨⟨verdict, after⟩, reply⟩ : ∃ reply, deliver owner.sink (deletedEvent kind id)
              (estate.onDelete model kind id removed) = reply := ⟨_, rfl⟩
          simp only [delete_delivers made present reply, deleteOpening, made, present,
            Opening.finish, reply]

def namedTarget (entity : EntityRef) (slot : Slot) (id : ResourceId) (estate : Estate Outside) :
    Option EntityRef :=
  (estate.entity? entity).bind fun found =>
    (found.kind.target? slot).bind fun kind => estate.storedFor found kind id

end Estate

namespace Call

open Estate

variable {Outside : Type}

def opening (call : Call) (estate : Estate Outside) : Opening Outside Answer :=
  match call with
  | .add model entity => (estate.addOpening model entity).andThen (conclude .ofChange [])
  | .delete model kind id => (estate.deleteOpening model kind id).andThen (conclude .ofChange [])
  | .change entity wanted =>
      match estate.entity? entity with
      | none => .ended .done estate
      | some found =>
          if found.absorbs wanted then .ended .done estate
          else (estate.updateOpening entity (Entity.change wanted)).andThen (conclude .ofChange [])
  | .pointById entity slot id =>
      (estate.updateOpening entity
        (Entity.setLink slot ⟨id, estate.namedTarget entity slot id⟩)).andThen (conclude .ofChange [])
  | .pointAt entity slot target =>
      match estate.entity? target with
      | none => .ended .done estate
      | some found =>
          (estate.updateOpening entity (Entity.setLink slot ⟨found.id, some target⟩)).andThen
            (conclude .ofChange [])
  | .receive entity event =>
      (estate.receivesOpening entity event).andThen (conclude .ofReceive [])
  | .annotate place key value =>
      match estate.notesAt? place with
      | none => .ended .done estate
      | some notes =>
          if notes.records.get? key = some value then .ended .done estate
          else ((estate.putRecords place (notes.records.insert key value)).reportOpening notes
            (noteEvent (if notes.records.contains key then .update else .create)
              (.entry key value))).andThen (conclude .ofChange [])
  | .unannotate place key =>
      match estate.notesAt? place with
      | none => .ended .done estate
      | some notes =>
          if notes.records.contains key then
            ((estate.putRecords place (notes.records.erase key)).reportOpening notes
              (noteEvent .delete (.entryKey key))).andThen (conclude .ofChange [])
          else .ended .done estate
  | .newModel sink => .ended .done (estate.addModel (.new sink)).2
  | .newEntity model kind id =>
      .ended (.entity (some (estate.addEntity (.new model kind id)).1))
        (estate.addEntity (.new model kind id)).2
  | .newNotes model sink => .ended .done (estate.addNotes ⟨model, sink, .empty⟩).2
  | .find model kind id => .ended (.entity (estate.stored model kind id)) estate
  | .list model kind => .ended (.entities (estate.listOf model kind).1) (estate.listOf model kind).2
  | .count model type => .ended (.number (estate.countOf model type)) estate
  | .follow entity slot =>
      .ended (.ofFollow (estate.follow entity slot).1) (estate.follow entity slot).2
  | .elsewhere sinks managers held => .ended .done { estate with sinks, managers, held }

/-- Performing a call is its opening, then the sink, then its closing. -/
theorem perform_opening (deliver : Deliver Outside) (call : Call) (estate : Estate Outside) :
    call.perform deliver estate = (call.opening estate).finish deliver := by
  cases call with
  | add model entity =>
      rw [perform, answering, add_opening, opening, Opening.finish_andThen]
      rfl
  | delete model kind id =>
      rw [perform, answering, delete_opening, opening, Opening.finish_andThen]
      rfl
  | change entity wanted =>
      cases here : estate.entity? entity with
      | none =>
          simp only [perform, answering, Estate.change, opening, here]
          rfl
      | some found =>
          by_cases absorbed : found.absorbs wanted = true
          · simp only [perform, answering, Estate.change, opening, here, absorbed, if_true]
            rfl
          · simp only [perform, answering, Estate.change, opening, here, absorbed,
              Bool.false_eq_true, if_false, update_opening, Opening.finish_andThen]
            rfl
  | pointById entity slot id =>
      rw [perform, answering, opening, Opening.finish_andThen, ← update_opening]
      rfl
  | pointAt entity slot target =>
      cases there : estate.entity? target with
      | none =>
          simp only [perform, answering, Estate.pointAt, opening, there]
          rfl
      | some found =>
          simp only [perform, answering, Estate.pointAt, opening, there, update_opening,
            Opening.finish_andThen]
          rfl
  | receive entity event =>
      rw [perform, answering, receives_opening, opening, Opening.finish_andThen]
      rfl
  | annotate place key value =>
      cases there : estate.notesAt? place with
      | none =>
          simp only [perform, answering, Estate.annotate, opening, there]
          rfl
      | some notes =>
          by_cases same : notes.records.get? key = some value
          · simp only [perform, answering, Estate.annotate, opening, there, same, if_true]
            rfl
          · simp only [perform, answering, Estate.annotate, opening, there, same, if_false,
              report_opening, Opening.finish_andThen]
            rfl
  | unannotate place key =>
      cases there : estate.notesAt? place with
      | none =>
          simp only [perform, answering, Estate.unannotate, opening, there]
          rfl
      | some notes =>
          by_cases present : notes.records.contains key = true
          · simp only [perform, answering, Estate.unannotate, opening, there, present, if_true,
              report_opening, Opening.finish_andThen]
            rfl
          · simp only [perform, answering, Estate.unannotate, opening, there, present,
              Bool.false_eq_true, if_false]
            rfl
  | _ => rfl

end Call

end Landscape

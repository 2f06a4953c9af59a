import Landscape.Receive
import Landscape.Proofs.Store.Writes

/-!
The operations of the library as data. A call names what it works on; performing it answers and changes
the estate, and every event that it has to report goes to a sink that is given from outside. Apart from
the two writes of a store, a call leaves every model alone, before and after the one report that it may
make.
-/

namespace Landscape

inductive Call where
  -- making things
  | newModel (sink : SinkRef)
  | newEntity (model : ModelRef) (kind : Kind) (id : ResourceId)
  | newNotes (model : ModelRef) (sink : SinkRef)
  -- the store of a model
  | add (model : ModelRef) (entity : EntityRef)
  | delete (model : ModelRef) (kind : Kind) (id : ResourceId)
  | find (model : ModelRef) (kind : Kind) (id : ResourceId)
  | list (model : ModelRef) (kind : Kind)
  | count (model : ModelRef) (type : ResourceType)
  -- entities and annotations
  | change (entity : EntityRef) (change : Change)
  | pointById (entity : EntityRef) (slot : Slot) (id : ResourceId)
  | pointAt (entity : EntityRef) (slot : Slot) (target : EntityRef)
  | follow (entity : EntityRef) (slot : Slot)
  | receive (entity : EntityRef) (event : Event)
  | annotate (place : NotesPlace) (key value : String)
  | unannotate (place : NotesPlace) (key : String)
  | elsewhere (sinks : List Sink) (managers : List Manager) (held : List Holding)

namespace Call

inductive Answer where
  | done
  | entity (found : Option EntityRef)
  | entities (found : List EntityRef)
  | number (value : Nat)
  | refused (cause : ModelError)
  | unreceived (cause : EventError)
  deriving DecidableEq

def Answer.ofChange : Except ModelError Unit → Answer
  | .ok () => done
  | .error cause => refused cause

def Answer.ofReceive : Except EventError Unit → Answer
  | .ok () => done
  | .error cause => unreceived cause

def Answer.ofFollow : Except ModelError (Option EntityRef) → Answer
  | .ok found => entity found
  | .error cause => refused cause

variable {Outside : Type}

def answering {Value : Type} (view : Value → Answer) (outcome : Value × Estate Outside) :
    Answer × Estate Outside :=
  (view outcome.1, outcome.2)

def perform (deliver : Deliver Outside) (call : Call) (estate : Estate Outside) :
    Answer × Estate Outside :=
  match call with
  | .newModel sink => (.done, (estate.addModel (.new sink)).2)
  | .newEntity model kind id =>
      answering (.entity ∘ some) (estate.addEntity (.new model kind id))
  | .newNotes model sink => (.done, (estate.addNotes ⟨model, sink, .empty⟩).2)
  | .add model entity => answering .ofChange (estate.add deliver model entity)
  | .delete model kind id => answering .ofChange (estate.delete deliver model kind id)
  | .find model kind id => (.entity (estate.stored model kind id), estate)
  | .list model kind => answering .entities (estate.listOf model kind)
  | .count model type => (.number (estate.countOf model type), estate)
  | .change entity wanted => answering .ofChange (estate.change deliver entity wanted)
  | .pointById entity slot id => answering .ofChange (estate.pointById deliver entity slot id)
  | .pointAt entity slot target => answering .ofChange (estate.pointAt deliver entity slot target)
  | .follow entity slot => answering .ofFollow (estate.follow entity slot)
  | .receive entity event => answering .ofReceive (estate.entityReceives deliver entity event)
  | .annotate place key value => answering .ofChange (estate.annotate deliver place key value)
  | .unannotate place key => answering .ofChange (estate.unannotate deliver place key)
  | .elsewhere sinks managers held => (.done, { estate with sinks, managers, held })

def isWrite : Call → Bool
  | .add _ _ | .delete _ _ _ => true
  | _ => false

def sender (estate : Estate Outside) : Call → Option ModelRef
  | .add model _ | .delete model _ _ => some model
  | .change entity _ | .pointById entity _ _ | .pointAt entity _ _ | .receive entity _ =>
      (estate.entity? entity).map Entity.model
  | .annotate place _ _ | .unannotate place _ =>
      match (estate.notesAt? place).map Notes.sink with
      | some (.entity entity) => (estate.entity? entity).map Entity.model
      | _ => none
  | _ => none

end Call

structure Handed where
  sink : SinkRef
  event : Event
  verdict : Except EventError Unit

/-- The same sinks, with a record of what they are handed and how they take it. -/
def Deliver.noting {Outside : Type} (deliver : Deliver Outside) : Deliver (Outside × List Handed) :=
  fun sink event estate =>
    let reply := deliver sink event (estate.amid estate.outside.1)
    (reply.1, reply.2.amid (reply.2.outside, estate.outside.2 ++ [⟨sink, event, reply.1⟩]))

theorem Deliver.noting_amid {Outside : Type} (deliver : Deliver Outside) (sink : SinkRef)
    (event : Event) (found : Estate Outside) (noted : List Handed) :
    deliver.noting sink event (found.amid (found.outside, noted)) =
      let reply := deliver sink event found
      (reply.1, reply.2.amid (reply.2.outside, noted ++ [⟨sink, event, reply.1⟩])) := rfl

def Call.handed {Outside : Type} (deliver : Deliver Outside) (call : Call)
    (estate : Estate Outside) : List Handed :=
  (call.perform deliver.noting (estate.amid (estate.outside, []))).2.outside.2

namespace Call

variable {Outside : Type} {model : ModelRef} {owner : Model} {entity : EntityRef} {found : Entity}
  {kind : Kind} {id : ResourceId} {removed : EntityRef} {estate : Estate Outside}

theorem handed_still {deliver : Deliver Outside} {call : Call}
    (still : (call.perform deliver.noting (estate.amid (estate.outside, []))).2 =
      estate.amid (estate.outside, [])) : call.handed deliver estate = [] := by
  rw [handed, still]
  rfl

theorem perform_add_nil (deliver : Deliver Outside) (here : estate.entity? entity = some found)
    (made : estate.model? model = some owner) (unset : found.id.isNil = true) :
    (add model entity).perform deliver estate = (.refused .identityNotSet, estate) := by
  rw [perform, answering, Estate.add_nil deliver here made unset]
  rfl

theorem perform_add_foreign (deliver : Deliver Outside) (here : estate.entity? entity = some found)
    (made : estate.model? model = some owner) (given : found.id.isNil = false)
    (foreign : found.model ≠ model) :
    (add model entity).perform deliver estate = (.refused (.modelMismatch found.id), estate) := by
  rw [perform, answering, Estate.add_foreign deliver here made given foreign]
  rfl

theorem perform_delete_absent (deliver : Deliver Outside) (made : estate.model? model = some owner)
    (absent : estate.stored model kind id = none) :
    (delete model kind id).perform deliver estate =
      (.refused (.notFound (.entity kind) id), estate) := by
  rw [perform, answering, Estate.delete_absent deliver made absent]
  rfl

theorem handed_add_nil (deliver : Deliver Outside) (here : estate.entity? entity = some found)
    (made : estate.model? model = some owner) (unset : found.id.isNil = true) :
    (add model entity).handed deliver estate = [] := by
  have amidst : (estate.amid (estate.outside, ([] : List Handed))).entity? entity = some found := here
  exact handed_still (congrArg Prod.snd (perform_add_nil deliver.noting amidst made unset))

theorem handed_add_foreign (deliver : Deliver Outside) (here : estate.entity? entity = some found)
    (made : estate.model? model = some owner) (given : found.id.isNil = false)
    (foreign : found.model ≠ model) : (add model entity).handed deliver estate = [] := by
  have amidst : (estate.amid (estate.outside, ([] : List Handed))).entity? entity = some found := here
  exact handed_still (congrArg Prod.snd (perform_add_foreign deliver.noting amidst made given foreign))

theorem handed_delete_absent (deliver : Deliver Outside) (made : estate.model? model = some owner)
    (absent : estate.stored model kind id = none) :
    (delete model kind id).handed deliver estate = [] := by
  have amidst : (estate.amid (estate.outside, ([] : List Handed))).model? model = some owner := made
  exact handed_still (congrArg Prod.snd (perform_delete_absent deliver.noting amidst absent))

theorem handed_add {deliver : Deliver Outside} {verdict : Except EventError Unit}
    {after : Estate Outside} (here : estate.entity? entity = some found)
    (made : estate.model? model = some owner) (given : found.id.isNil = false)
    (own : found.model = model)
    (reply : deliver owner.sink
        (Estate.storedEvent entity found (estate.stored model found.kind found.id))
        (estate.onAdd model entity found) = (verdict, after)) :
    (add model entity).handed deliver estate =
      [⟨owner.sink, Estate.storedEvent entity found (estate.stored model found.kind found.id),
        verdict⟩] := by
  have noted := Deliver.noting_amid deliver owner.sink
    (Estate.storedEvent entity found (estate.stored model found.kind found.id))
    (estate.onAdd model entity found) []
  rw [reply, Estate.outside_onAdd, ← Estate.onAdd_amid] at noted
  have amidst : (estate.amid (estate.outside, ([] : List Handed))).entity? entity = some found := here
  rw [handed, perform, answering, Estate.add_delivers amidst made given own noted]
  cases verdict <;> rfl

theorem handed_delete {deliver : Deliver Outside} {verdict : Except EventError Unit}
    {after : Estate Outside} (made : estate.model? model = some owner)
    (present : estate.stored model kind id = some removed)
    (reply : deliver owner.sink (Estate.deletedEvent kind id)
      (estate.onDelete model kind id removed) = (verdict, after)) :
    (delete model kind id).handed deliver estate =
      [⟨owner.sink, Estate.deletedEvent kind id, verdict⟩] := by
  have noted := Deliver.noting_amid deliver owner.sink (Estate.deletedEvent kind id)
    (estate.onDelete model kind id removed) []
  rw [reply] at noted
  have amidst : (estate.amid (estate.outside, ([] : List Handed))).model? model = some owner := made
  rw [handed, perform, answering, Estate.delete_delivers amidst present noted]
  cases verdict <;> rfl

end Call

namespace Estate

variable {Outside : Type}

def Reporting (event : Event) : Prop :=
  event.operation = .update ∨ event.resourceType = .annotations

/-- Models are left alone, except by the sink while it hears of at most one report. -/
def OneReport (start : Estate Outside) (final : Deliver Outside → Estate Outside) : Prop :=
  (∃ after, (∀ deliver, final deliver = after) ∧ start.Undisturbed after) ∨
    ∃ sink event found, Reporting event ∧ start.Undisturbed found ∧
      ∀ deliver : Deliver Outside, (deliver sink event found).2.Undisturbed (final deliver)

theorem OneReport.quiet {start after : Estate Outside} (undisturbed : start.Undisturbed after) :
    start.OneReport fun _ => after :=
  .inl ⟨after, fun _ => rfl, undisturbed⟩

theorem OneReport.before {start middle : Estate Outside} {final : Deliver Outside → Estate Outside}
    (undisturbed : start.Undisturbed middle) (report : middle.OneReport final) :
    start.OneReport final := by
  rcases report with ⟨after, same, rest⟩ | ⟨sink, event, found, reporting, rest, handed⟩
  · exact .inl ⟨after, same, undisturbed.trans rest⟩
  · exact .inr ⟨sink, event, found, reporting, undisturbed.trans rest, handed⟩

theorem OneReport.after {start : Estate Outside} {final : Deliver Outside → Estate Outside}
    (report : start.OneReport final) (finish : Estate Outside → Estate Outside)
    (undisturbed : ∀ estate : Estate Outside, estate.Undisturbed (finish estate)) :
    start.OneReport fun deliver => finish (final deliver) := by
  rcases report with ⟨after, same, rest⟩ | ⟨sink, event, found, reporting, rest, handed⟩
  · exact .inl ⟨finish after, fun deliver => congrArg finish (same deliver),
      rest.trans (undisturbed after)⟩
  · exact .inr ⟨sink, event, found, reporting, rest,
      fun deliver => (handed deliver).trans (undisturbed _)⟩

theorem undisturbed_refl (estate : Estate Outside) : estate.Undisturbed estate :=
  undisturbed_of_same rfl rfl rfl

theorem undisturbed_hold (holdings : List Holding) (estate : Estate Outside) :
    estate.Undisturbed (estate.hold holdings) :=
  undisturbed_of_same rfl rfl rfl

theorem undisturbed_release (holdings : List Holding) (estate : Estate Outside) :
    estate.Undisturbed (estate.release holdings) :=
  undisturbed_of_same rfl rfl rfl

theorem OneReport.holding {Answer : Type} {start : Estate Outside} (holdings : List Holding)
    {act : Deliver Outside → Estate Outside → Answer × Estate Outside}
    (report : (start.hold holdings).OneReport fun deliver => (act deliver (start.hold holdings)).2) :
    start.OneReport fun deliver => (start.holding holdings (act deliver)).2 :=
  (report.after (Estate.release holdings) (undisturbed_release holdings)).before
    (undisturbed_hold holdings start)

theorem announce_reports (entity : EntityRef) (estate : Estate Outside) :
    estate.OneReport fun deliver => (estate.announce deliver entity).2 := by
  unfold announce
  split
  · exact .quiet (undisturbed_refl estate)
  · split
    · exact .quiet (undisturbed_refl estate)
    · split
      · exact .holding _ (.inr ⟨_, _, _, .inl rfl, undisturbed_refl _, fun _ => undisturbed_refl _⟩)
      · exact .quiet (undisturbed_refl estate)

theorem update_reports (entity : EntityRef) (change : Entity → Entity)
    (keeps : ∀ found, (change found).card = found.card ∧
      (change found).registration = found.registration) (estate : Estate Outside) :
    estate.OneReport fun deliver => (estate.update deliver entity change).2 :=
  (announce_reports entity _).before (undisturbed_modifyEntity estate entity change keeps)

theorem entityReceives_reports (entity : EntityRef) (event : Event) (estate : Estate Outside) :
    estate.OneReport fun deliver => (estate.entityReceives deliver entity event).2 := by
  unfold entityReceives
  split
  · exact announce_reports entity estate
  · exact .quiet (undisturbed_refl estate)

theorem handOver_reports (sink : SinkRef) (event : Event)
    (annotations : event.resourceType = .annotations) (estate : Estate Outside) :
    estate.OneReport fun deliver => (estate.handOver deliver sink event).2 := by
  cases sink with
  | entity entity => exact entityReceives_reports entity event estate
  | made index =>
      exact .inr ⟨.made index, event, estate, .inr annotations, undisturbed_refl estate,
        fun _ => undisturbed_refl _⟩

theorem reportNotes_reports (notes : Notes) (event : Event)
    (annotations : event.resourceType = .annotations) (estate : Estate Outside) :
    estate.OneReport fun deliver => (estate.reportNotes deliver notes event).2 := by
  unfold reportNotes
  split
  · exact .holding _ (handOver_reports notes.sink event annotations _)
  · exact .quiet (undisturbed_refl estate)

theorem undisturbed_putRecords (place : NotesPlace) (records : Records)
    (estate : Estate Outside) : estate.Undisturbed (estate.putRecords place records) := by
  cases place with
  | ofEntity entity => exact undisturbed_modifyEntity estate entity _ fun _ => ⟨rfl, rfl⟩
  | free notes => exact undisturbed_of_same rfl rfl rfl

theorem card_change (change : Change) (entity : Entity) :
    (entity.change change).card = entity.card ∧
      (entity.change change).registration = entity.registration := by
  cases change <;> exact ⟨rfl, rfl⟩

theorem card_setLink (slot : Slot) (link : Link) (entity : Entity) :
    (entity.setLink slot link).card = entity.card ∧
      (entity.setLink slot link).registration = entity.registration :=
  ⟨rfl, rfl⟩

theorem undisturbed_addModel (sink : SinkRef) (estate : Estate Outside) :
    estate.Undisturbed (estate.addModel (.new sink)).2 := by
  refine ⟨?_, rfl⟩
  intro model
  constructor
  · intro owner here
    have inside : model.index < estate.models.length := (List.getElem?_eq_some_iff.mp here).1
    exact ⟨owner, (List.getElem?_append_left inside).trans here, rfl⟩
  · intro kind
    left
    by_cases inside : model.index < estate.models.length
    · have same : (estate.addModel (.new sink)).2.model? model = estate.model? model :=
        List.getElem?_append_left inside
      rw [Estate.registry, same, Estate.registry]
    · -- the new model itself, or one that is still missing: either holds nothing
      have missing : estate.model? model = none := List.getElem?_eq_none (Nat.le_of_not_lt inside)
      have added : (estate.addModel (.new sink)).2.model? model =
          [Model.new sink][model.index - estate.models.length]? :=
        List.getElem?_append_right (Nat.le_of_not_lt inside)
      rw [Estate.registry, added, Estate.registry, missing]
      cases model.index - estate.models.length <;> rfl
  · intro entity card known
    exact known
  · intro entity
    rfl

theorem undisturbed_addEntity {entity : Entity} (fresh : entity.registration = .unregistered)
    (estate : Estate Outside) : estate.Undisturbed (estate.addEntity entity).2 := by
  have former : ∀ other found, estate.entity? other = some found →
      (estate.addEntity entity).2.entity? other = some found := by
    intro other found here
    exact (List.getElem?_append_left (List.getElem?_eq_some_iff.mp here).1).trans here
  refine ⟨?_, rfl⟩
  intro model
  constructor
  · intro owner here
    exact ⟨owner, here, rfl⟩
  · intro kind
    exact .inl rfl
  · intro other card known
    obtain ⟨found, here, same⟩ := Option.map_eq_some_iff.mp known
    exact Option.map_eq_some_iff.mpr ⟨found, former other found here, same⟩
  · intro other
    constructor
    · rintro ⟨found, here, own, registered⟩
      refine ⟨found, ?_, own, registered⟩
      by_cases inside : other.index < estate.entities.length
      · exact (List.getElem?_append_left inside).symm.trans here
      · -- only the new entity is behind the others, and it is not registered
        have added := (List.getElem?_append_right (Nat.le_of_not_lt inside)).symm.trans here
        obtain rfl : found = entity := List.mem_singleton.mp (List.mem_of_getElem? added)
        simp [Entity.isRegistered, fresh] at registered
    · rintro ⟨found, here, rest⟩
      exact ⟨found, former other found here, rest⟩

theorem undisturbed_listOf (model : ModelRef) (kind : Kind) (estate : Estate Outside) :
    estate.Undisturbed (estate.listOf model kind).2 := by
  refine ⟨?_, rfl⟩
  intro other
  constructor
  · intro owner here
    have sinks := sink_setRegistry estate model other kind (estate.registry model kind).list.2
    rw [here] at sinks
    exact Option.map_eq_some_iff.mp sinks
  · intro otherKind
    cases made : estate.model? model with
    | none => exact .inl (setRegistry_missing estate made other kind otherKind _)
    | some owner =>
        have written := registry_setRegistry estate made other kind otherKind
          (estate.registry model kind).list.2
        by_cases same : other = model ∧ otherKind = kind
        · obtain ⟨rfl, rfl⟩ := same
          exact .inr (written.trans (if_pos ⟨rfl, rfl⟩))
        · exact .inl (written.trans (if_neg same))
  · intro entity card known
    exact known
  · intro entity
    rfl

theorem undisturbed_follow (entity : EntityRef) (slot : Slot) (estate : Estate Outside) :
    estate.Undisturbed (estate.follow entity slot).2 := by
  unfold follow
  repeat' split
  all_goals first
    | exact undisturbed_refl estate
    | exact undisturbed_modifyEntity estate entity _ fun found =>
        ⟨card_learnTarget _ _ found, (registration_learnTarget _ _ found).2⟩

end Estate

open Estate

/-- A call that is no write makes at most one report and leaves every model alone. -/
theorem Call.perform_reports {Outside : Type} (call : Call) (reads : call.isWrite = false)
    (estate : Estate Outside) :
    estate.OneReport fun deliver => (call.perform deliver estate).2 := by
  cases call with
  | add | delete => cases reads
  | newModel sink => exact .quiet (undisturbed_addModel sink estate)
  | newEntity model kind id => exact .quiet (undisturbed_addEntity rfl estate)
  | newNotes | elsewhere => exact .quiet (undisturbed_of_same rfl rfl rfl)
  | find | count => exact .quiet (undisturbed_refl estate)
  | list model kind => exact .quiet (undisturbed_listOf model kind estate)
  | change entity wanted =>
      simp only [perform, answering, Estate.change]
      split
      · exact .quiet (undisturbed_refl estate)
      · split
        · exact .quiet (undisturbed_refl estate)
        · exact update_reports entity _ (card_change wanted) estate
  | pointById entity slot id => exact update_reports entity _ (card_setLink slot _) estate
  | pointAt entity slot target =>
      simp only [perform, answering, Estate.pointAt]
      split
      · exact .quiet (undisturbed_refl estate)
      · exact update_reports entity _ (card_setLink slot _) estate
  | follow entity slot => exact .quiet (undisturbed_follow entity slot estate)
  | receive entity event => exact entityReceives_reports entity event estate
  | annotate place key value =>
      simp only [perform, answering, Estate.annotate]
      split
      · exact .quiet (undisturbed_refl estate)
      · split
        · exact .quiet (undisturbed_refl estate)
        · exact (reportNotes_reports _ _ rfl _).before (undisturbed_putRecords place _ estate)
  | unannotate place key =>
      simp only [perform, answering, Estate.unannotate]
      split
      · exact .quiet (undisturbed_refl estate)
      · split
        · exact (reportNotes_reports _ _ rfl _).before (undisturbed_putRecords place _ estate)
        · exact .quiet (undisturbed_refl estate)

/-- A call that is a write makes at most that one write. -/
theorem Call.perform_writes {Outside : Type} (call : Call) (writes : call.isWrite = true)
    (estate : Estate Outside) :
    ∃ model, call.sender estate = some model ∧
      estate.OneWrite model fun deliver => (call.perform deliver estate).2 := by
  cases call with
  | add model entity => exact ⟨model, rfl, add_writes model entity estate⟩
  | delete model kind id => exact ⟨model, rfl, delete_writes model kind id estate⟩
  | _ => cases writes

end Landscape

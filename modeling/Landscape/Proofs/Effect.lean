import Landscape.Proofs.Opening

/-!
All that a call does to entities and models. Before its sink hears of it, a call changes at most one entity,
or writes one registry, or makes something new; afterwards it at most registers the entity that it added, or
puts back what its identity had. Holds, sinks, managers and free-standing annotations stand aside, and what
is to be kept in every run is checked against these two lists. To report to a sink changes nothing but what
is held meanwhile, so sinks and managers change only by what a sink or a carrier does in between.
-/

namespace Landscape

namespace Estate

variable {Outside : Type}

structure Beside (before after : Estate Outside) : Prop where
  entities : after.entities = before.entities
  models : after.models = before.models
  outside : after.outside = before.outside

theorem Beside.refl (estate : Estate Outside) : estate.Beside estate := ⟨rfl, rfl, rfl⟩

theorem Beside.trans {first second third : Estate Outside} (former : first.Beside second)
    (latter : second.Beside third) : first.Beside third :=
  ⟨latter.entities.trans former.entities, latter.models.trans former.models,
    latter.outside.trans former.outside⟩

structure SameSinks (before after : Estate Outside) : Prop where
  sinks : after.sinks = before.sinks
  managers : after.managers = before.managers

structure Aside (before after : Estate Outside) : Prop extends before.SameSinks after where
  notes : after.notes = before.notes

theorem Aside.refl (estate : Estate Outside) : estate.Aside estate := ⟨⟨rfl, rfl⟩, rfl⟩

theorem Aside.trans {first second third : Estate Outside} (former : first.Aside second)
    (latter : second.Aside third) : first.Aside third :=
  ⟨⟨latter.sinks.trans former.sinks, latter.managers.trans former.managers⟩,
    latter.notes.trans former.notes⟩

/-- Nothing but what is held may be different. -/
structure Still (before after : Estate Outside) : Prop extends before.Beside after, before.Aside after

theorem Still.refl (estate : Estate Outside) : estate.Still estate := ⟨.refl estate, .refl estate⟩

theorem Still.trans {first second third : Estate Outside} (former : first.Still second)
    (latter : second.Still third) : first.Still third :=
  ⟨former.toBeside.trans latter.toBeside, former.toAside.trans latter.toAside⟩

theorem still_held (estate : Estate Outside) (held : List Holding) :
    estate.Still { estate with held } :=
  ⟨⟨rfl, rfl, rfl⟩, ⟨⟨rfl, rfl⟩, rfl⟩⟩

end Estate

namespace Call

variable {Outside : Type}

/-- How a call changes an entity. -/
inductive Modifies (estate : Estate Outside) : Call → EntityRef → (Entity → Entity) → Prop where
  | change (entity : EntityRef) (wanted : Change) :
      Modifies estate (.change entity wanted) entity (Entity.change wanted)
  | pointById (entity : EntityRef) (slot : Slot) (id : ResourceId) :
      Modifies estate (.pointById entity slot id) entity
        (Entity.setLink slot ⟨id, estate.namedTarget entity slot id⟩)
  | pointAt (entity : EntityRef) (slot : Slot) {target : EntityRef} {found : Entity}
      (there : estate.entity? target = some found) :
      Modifies estate (.pointAt entity slot target) entity
        (Entity.setLink slot ⟨found.id, some target⟩)
  | follow {entity target : EntityRef} {slot : Slot} {found : Entity} {link : Link} {kind : Kind}
      (here : estate.entity? entity = some found) (set : found.links slot = some link)
      (typed : found.kind.target? slot = some kind) (unknown : estate.knownTarget link = none)
      (present : estate.stored found.model kind link.id = some target) :
      Modifies estate (.follow entity slot) entity (Entity.learnTarget slot target)
  | annotate (entity : EntityRef) (key value : String) (records : Records) :
      Modifies estate (.annotate (.ofEntity entity) key value) entity
        fun found => { found with annotations := records }
  | unannotate (entity : EntityRef) (key : String) (records : Records) :
      Modifies estate (.unannotate (.ofEntity entity) key) entity
        fun found => { found with annotations := records }

/-- What a call does to entities and models before its sink hears of it. -/
inductive Alters (estate : Estate Outside) : Call → Estate Outside → Prop where
  | nothing (call : Call) : Alters estate call estate
  | modifies {call : Call} {entity : EntityRef} {change : Entity → Entity}
      (modifies : call.Modifies estate entity change) :
      Alters estate call (estate.modifyEntity entity change)
  | enters {model : ModelRef} {owner : Model} {entity : EntityRef} {found : Entity}
      (here : estate.entity? entity = some found) (made : estate.model? model = some owner)
      (given : found.id.isNil = false) (own : found.model = model) :
      Alters estate (.add model entity) (estate.entered model entity found)
  | withdraws {model : ModelRef} {owner : Model} {kind : Kind} {id : ResourceId}
      (made : estate.model? model = some owner) :
      Alters estate (.delete model kind id) (estate.withdrawn model kind id)
  | lists (model : ModelRef) (kind : Kind) :
      Alters estate (.list model kind) (estate.listOf model kind).2
  | makesEntity (model : ModelRef) (kind : Kind) (id : ResourceId) :
      Alters estate (.newEntity model kind id) (estate.addEntity (.new model kind id)).2
  | makesModel (sink : SinkRef) : Alters estate (.newModel sink) (estate.addModel (.new sink)).2

/-- What a call does to entities and models after its sink has heard of it. -/
inductive Settles (estate after : Estate Outside) : Call → Estate Outside → Prop where
  | nothing (call : Call) : Settles estate after call after
  | registers {model : ModelRef} {entity : EntityRef} {found : Entity}
      (here : estate.entity? entity = some found) (given : found.id.isNil = false) :
      Settles estate after (.add model entity) (after.modifyEntity entity Entity.register)
  | restores (call : Call) (model : ModelRef) (kind : Kind) (id : ResourceId) :
      Settles estate after call (after.setRegistry model kind
        ((after.registry model kind).restore id (estate.stored model kind id)))

end Call

namespace Opening

variable {Outside Value Other : Type} {opens wider : Estate Outside → Prop}
  {closes looser : Estate Outside → Estate Outside → Prop} {opening : Opening Outside Value}

theorem Satisfies.imp (first : opening.Satisfies opens closes)
    (widens : ∀ now, opens now → wider now)
    (loosens : ∀ after final, closes after final → looser after final) :
    opening.Satisfies wider looser := by
  cases opening with
  | ended value after => exact widens _ first
  | handing sink event found close =>
      exact ⟨widens _ first.1, fun verdict after => loosens _ _ (first.2 verdict after)⟩

theorem Satisfies.and {alsoOpens : Estate Outside → Prop}
    {alsoCloses : Estate Outside → Estate Outside → Prop} (first : opening.Satisfies opens closes)
    (second : opening.Satisfies alsoOpens alsoCloses) :
    opening.Satisfies (fun now => opens now ∧ alsoOpens now)
      fun after final => closes after final ∧ alsoCloses after final := by
  cases opening with
  | ended value after => exact ⟨first, second⟩
  | handing sink event found close =>
      exact ⟨⟨first.1, second.1⟩, fun verdict after => ⟨first.2 verdict after, second.2 verdict after⟩⟩

theorem Satisfies.viewed (first : opening.Satisfies opens closes) (view : Value → Other) :
    (opening.andThen (Estate.conclude view [])).Satisfies opens closes := by
  cases opening <;> exact first

end Opening

namespace Estate

variable {Outside : Type} {estate : Estate Outside}

theorem announce_still (entity : EntityRef) (estate : Estate Outside) :
    (estate.announceOpening entity).Satisfies estate.Still Still := by
  unfold announceOpening
  split
  · exact .refl estate
  · split
    · exact .refl estate
    · split
      · exact ⟨still_held estate _, fun _ after => still_held after _⟩
      · exact .refl estate

theorem update_still (entity : EntityRef) (change : Entity → Entity) (estate : Estate Outside) :
    (estate.updateOpening entity change).Satisfies (estate.modifyEntity entity change).Still Still :=
  (announce_still entity _).viewed _

theorem receives_still (entity : EntityRef) (event : Event) (estate : Estate Outside) :
    (estate.receivesOpening entity event).Satisfies estate.Still Still := by
  unfold receivesOpening
  split
  · exact announce_still entity estate
  · exact .refl estate

theorem handOver_still (sink : SinkRef) (event : Event) (estate : Estate Outside) :
    (estate.handOverOpening sink event).Satisfies estate.Still Still := by
  cases sink with
  | entity entity => exact receives_still entity event estate
  | made index => exact ⟨.refl estate, fun _ after => still_held after _⟩

theorem report_still (notes : Notes) (event : Event) (estate : Estate Outside) :
    (estate.reportOpening notes event).Satisfies estate.Still Still := by
  unfold reportOpening
  split
  · have handed := handOver_still notes.sink event (estate.hold (estate.notesHolds notes))
    have kept : ∀ now, (estate.hold (estate.notesHolds notes)).Still now → estate.Still now :=
      fun now still => (still_held estate _).trans still
    exact Opening.satisfies_andThen (handed.imp kept fun _ _ => id)
      (fun _ after still => still.trans (still_held after _))
      (fun _ _ middle still => still.trans (still_held middle _))
  · exact .refl estate

end Estate

namespace Call

open Estate

variable {Outside : Type}

def Opens (estate : Estate Outside) (call : Call) (now : Estate Outside) : Prop :=
  ∃ middle, call.Alters estate middle ∧ middle.Beside now

def Closes (estate : Estate Outside) (call : Call) (after final : Estate Outside) : Prop :=
  ∃ middle, call.Settles estate after middle ∧ middle.Beside final

theorem opens_nothing {call : Call} {estate now : Estate Outside} (beside : estate.Beside now) :
    call.Opens estate now :=
  ⟨estate, .nothing call, beside⟩

theorem closes_nothing {call : Call} {estate after final : Estate Outside}
    (beside : after.Beside final) : call.Closes estate after final :=
  ⟨after, .nothing call, beside⟩

theorem putRecords_opens {call : Call} {place : NotesPlace} {records : Records}
    {estate now : Estate Outside}
    (modifies : ∀ entity, place = .ofEntity entity →
      call.Modifies estate entity fun found => { found with annotations := records })
    (beside : (estate.putRecords place records).Beside now) : call.Opens estate now := by
  cases place with
  | ofEntity entity => exact ⟨_, .modifies (modifies entity rfl), beside⟩
  | free notes => exact opens_nothing ⟨beside.entities, beside.models, beside.outside⟩

theorem follow_opens (entity : EntityRef) (slot : Slot) (estate : Estate Outside) :
    (follow entity slot).Opens estate (estate.follow entity slot).2 := by
  unfold Estate.follow
  split
  · exact opens_nothing (.refl estate)
  · next found here =>
      split
      · next link kind set typed =>
          split
          · exact opens_nothing (.refl estate)
          · next unknown =>
              split
              · split
                · next target present =>
                    exact ⟨_, .modifies (.follow here set typed unknown present), .refl _⟩
                · exact opens_nothing (.refl estate)
              · exact opens_nothing (.refl estate)
      · exact opens_nothing (.refl estate)

theorem add_effect (model : ModelRef) (entity : EntityRef) (estate : Estate Outside) :
    (estate.addOpening model entity).Satisfies ((add model entity).Opens estate)
      ((add model entity).Closes estate) := by
  unfold addOpening
  split
  · next found owner here made =>
      split
      · exact opens_nothing (.refl estate)
      · next unset =>
          have given : found.id.isNil = false := by simpa using unset
          split
          · exact opens_nothing (.refl estate)
          · next same =>
              have own : found.model = model := not_not.mp same
              refine ⟨⟨_, .enters here made given own, ⟨rfl, rfl, rfl⟩⟩, ?_⟩
              intro verdict after
              cases verdict with
              | ok _ => exact ⟨_, .registers here given, ⟨rfl, rfl, rfl⟩⟩
              | error refusal => exact ⟨_, .restores _ model found.kind found.id, ⟨rfl, rfl, rfl⟩⟩
  · exact opens_nothing (.refl estate)

theorem delete_effect (model : ModelRef) (kind : Kind) (id : ResourceId) (estate : Estate Outside) :
    (estate.deleteOpening model kind id).Satisfies ((delete model kind id).Opens estate)
      ((delete model kind id).Closes estate) := by
  unfold deleteOpening
  split
  · exact opens_nothing (.refl estate)
  · next owner made =>
      split
      · exact opens_nothing (.refl estate)
      · next removed present =>
          refine ⟨⟨_, .withdraws made, ⟨rfl, rfl, rfl⟩⟩, ?_⟩
          intro verdict after
          cases verdict with
          | ok _ => exact closes_nothing ⟨rfl, rfl, rfl⟩
          | error refusal =>
              rw [← present]
              exact ⟨_, .restores _ model kind id, ⟨rfl, rfl, rfl⟩⟩

/-- Every call does one thing of the first list, and afterwards one thing of the second. -/
theorem opening_effect (call : Call) (estate : Estate Outside) :
    (call.opening estate).Satisfies (call.Opens estate) (call.Closes estate) := by
  have still : call.Opens estate estate := opens_nothing (.refl estate)
  have settled : ∀ after final : Estate Outside, after.Still final →
      call.Closes estate after final := fun _ _ still => closes_nothing still.toBeside
  cases call with
  | newNotes | find | count | elsewhere => exact opens_nothing ⟨rfl, rfl, rfl⟩
  | newModel sink => exact ⟨_, .makesModel sink, .refl _⟩
  | newEntity model kind id => exact ⟨_, .makesEntity model kind id, .refl _⟩
  | list model kind => exact ⟨_, .lists model kind, .refl _⟩
  | follow entity slot => exact follow_opens entity slot estate
  | add model entity => exact (add_effect model entity estate).viewed _
  | delete model kind id => exact (delete_effect model kind id estate).viewed _
  | change entity wanted =>
      rw [opening]
      split
      · exact still
      · split
        · exact still
        · exact ((update_still entity _ estate).imp
            (fun now still => ⟨_, .modifies (.change entity wanted), still.toBeside⟩) settled).viewed _
  | pointById entity slot id =>
      exact ((update_still entity _ estate).imp
        (fun now still => ⟨_, .modifies (.pointById entity slot id), still.toBeside⟩) settled).viewed _
  | pointAt entity slot target =>
      rw [opening]
      split
      · exact still
      · next found there =>
          exact ((update_still entity _ estate).imp
            (fun now still => ⟨_, .modifies (.pointAt entity slot there), still.toBeside⟩)
            settled).viewed _
  | receive entity event =>
      exact ((receives_still entity event estate).imp (fun now still => opens_nothing still.toBeside)
        settled).viewed _
  | annotate place key value =>
      rw [opening]
      split
      · exact still
      · split
        · exact still
        · refine ((report_still _ _ _).imp (fun now still => putRecords_opens ?_ still.toBeside)
            settled).viewed _
          rintro entity rfl
          exact .annotate entity key value _
  | unannotate place key =>
      rw [opening]
      split
      · exact still
      · split
        · refine ((report_still _ _ _).imp (fun now still => putRecords_opens ?_ still.toBeside)
            settled).viewed _
          rintro entity rfl
          exact .unannotate entity key _
        · exact still

end Call

namespace Estate

variable {Outside : Type}

theorem bindSlots_aside (entity : EntityRef) (estate : Estate Outside) :
    estate.Aside (estate.bindSlots entity) :=
  bindSlots_keeps estate.Aside entity (fun _ _ _ aside => aside.trans ⟨⟨rfl, rfl⟩, rfl⟩) estate
    (.refl estate)

theorem update_aside (entity : EntityRef) (change : Entity → Entity) (estate : Estate Outside) :
    (estate.updateOpening entity change).Satisfies estate.Aside Aside :=
  (update_still entity change estate).imp (fun _ still => ⟨⟨still.sinks, still.managers⟩, still.notes⟩)
    (fun _ _ still => still.toAside)

theorem add_aside (model : ModelRef) (entity : EntityRef) (estate : Estate Outside) :
    (estate.addOpening model entity).Satisfies estate.Aside Aside := by
  unfold addOpening
  split
  · split
    · exact .refl estate
    · split
      · exact .refl estate
      · refine ⟨(bindSlots_aside entity estate).trans ⟨⟨rfl, rfl⟩, rfl⟩, ?_⟩
        intro verdict after
        cases verdict <;> exact ⟨⟨rfl, rfl⟩, rfl⟩
  · exact .refl estate

theorem delete_aside (model : ModelRef) (kind : Kind) (id : ResourceId) (estate : Estate Outside) :
    (estate.deleteOpening model kind id).Satisfies estate.Aside Aside := by
  unfold deleteOpening
  split
  · exact .refl estate
  · split
    · exact .refl estate
    · refine ⟨⟨⟨rfl, rfl⟩, rfl⟩, ?_⟩
      intro verdict after
      cases verdict <;> exact ⟨⟨rfl, rfl⟩, rfl⟩

theorem follow_aside (entity : EntityRef) (slot : Slot) (estate : Estate Outside) :
    estate.Aside (estate.follow entity slot).2 := by
  unfold follow
  repeat' split
  all_goals exact ⟨⟨rfl, rfl⟩, rfl⟩

end Estate

namespace Call

open Estate

variable {Outside : Type}

def staysAside : Call → Bool
  | .newNotes _ _ | .annotate _ _ _ | .unannotate _ _ | .elsewhere _ _ _ => false
  | _ => true

theorem opening_aside (call : Call) (stays : call.staysAside = true) (estate : Estate Outside) :
    (call.opening estate).Satisfies estate.Aside Aside := by
  cases call with
  | newNotes | annotate | unannotate | elsewhere => cases stays
  | newModel | newEntity | find | list | count => exact ⟨⟨rfl, rfl⟩, rfl⟩
  | follow entity slot => exact follow_aside entity slot estate
  | add model entity => exact (add_aside model entity estate).viewed _
  | delete model kind id => exact (delete_aside model kind id estate).viewed _
  | pointById entity slot id => exact (update_aside entity _ estate).viewed _
  | receive entity event =>
      exact ((receives_still entity event estate).imp (fun _ still => still.toAside)
        (fun _ _ still => still.toAside)).viewed _
  | change entity wanted =>
      rw [opening]
      split
      · exact .refl estate
      · split
        · exact .refl estate
        · exact (update_aside entity _ estate).viewed _
  | pointAt entity slot target =>
      rw [opening]
      split
      · exact .refl estate
      · exact (update_aside entity _ estate).viewed _

def isElsewhere : Call → Bool
  | .elsewhere _ _ _ => true
  | _ => false

theorem opening_sameSinks (call : Call) (here : call.isElsewhere = false) (estate : Estate Outside) :
    (call.opening estate).Satisfies estate.SameSinks SameSinks := by
  -- writing annotations touches neither, and to report them touches nothing at all
  have reported : ∀ (place : NotesPlace) (records : Records) (notes : Notes) (event : Event),
      (((estate.putRecords place records).reportOpening notes event).andThen
        (conclude Answer.ofChange [])).Satisfies estate.SameSinks SameSinks := by
    intro place records notes event
    refine ((report_still notes event (estate.putRecords place records)).imp ?_ ?_).viewed _
    · intro now still
      cases place <;> exact ⟨still.sinks, still.managers⟩
    · exact fun _ _ still => still.toSameSinks
  cases stays : call.staysAside with
  | true =>
      exact (call.opening_aside stays estate).imp (fun _ aside => aside.toSameSinks)
        (fun _ _ aside => aside.toSameSinks)
  | false =>
      cases call with
      | newNotes => exact ⟨rfl, rfl⟩
      | elsewhere => cases here
      | annotate place key value =>
          rw [opening]
          split
          · exact ⟨rfl, rfl⟩
          · split
            · exact ⟨rfl, rfl⟩
            · exact reported place _ _ _
      | unannotate place key =>
          rw [opening]
          split
          · exact ⟨rfl, rfl⟩
          · split
            · exact reported place _ _ _
            · exact ⟨rfl, rfl⟩
      | _ => cases stays

end Call

end Landscape

import Landscape.Proofs.Delivery.Post
import Landscape.Proofs.Entity.Frame
import Landscape.Proofs.Wire

/-!
A subscriber's copy of a model. The events that a forwarder takes are folded over an empty map from types
and identities to snapshots: what was created or updated is stored as its object tells, what was deleted is
removed. The copy mirrors the model while each step either leaves what is stored and what it shows as it
was and forwards nothing, or gives one place of the store a value and forwards one event that tells so.
-/

namespace Landscape

abbrev Copy := ResourceType → ResourceId → Option Snapshot

namespace Copy

def empty : Copy := fun _ _ => none

def write (type : ResourceType) (id : ResourceId) (value : Option Snapshot) (copy : Copy) : Copy :=
  fun otherType other => if otherType = type ∧ other = id then value else copy otherType other

def absorb (copy : Copy) (event : ForwardedEvent) : Copy :=
  match event.operation with
  | .create | .update =>
      copy.write event.resourceType event.resourceId (event.objectsJson.head?.bind Snapshot.ofWire?)
  | .delete => copy.write event.resourceType event.resourceId none
  | .unknown => copy

def rebuilt (events : List ForwardedEvent) : Copy :=
  events.foldl absorb empty

theorem rebuilt_append (former latter : List ForwardedEvent) :
    rebuilt (former ++ latter) = latter.foldl absorb (rebuilt former) :=
  List.foldl_append

theorem absorb_object {operation : Operation} (writes : operation = .create ∨ operation = .update)
    {text : String} {snapshot : Snapshot} (reads : Snapshot.ofWire? text = some snapshot)
    (type : ResourceType) (id : ResourceId) (copy : Copy) :
    copy.absorb ⟨type, operation, id, [text]⟩ = copy.write type id (some snapshot) := by
  rcases writes with rfl | rfl <;> rw [absorb, List.head?_cons, Option.bind_some, reads]

theorem absorb_snapshot {operation : Operation} (writes : operation = .create ∨ operation = .update)
    (type : ResourceType) (id : ResourceId) (snapshot : Snapshot) (copy : Copy) :
    copy.absorb ⟨type, operation, id, [snapshot.wire]⟩ = copy.write type id (some snapshot) :=
  absorb_object writes snapshot.ofWire_wire type id copy

end Copy

namespace Estate

section Stored
variable {Outside : Type}

def snapshot? (estate : Estate Outside) (entity : EntityRef) : Option Snapshot :=
  (estate.entity? entity).map Entity.snapshot

def shown (model : ModelRef) (estate : Estate Outside) : Copy := fun type id =>
  match type with
  | .entity kind => (estate.stored model kind id).bind estate.snapshot?
  | _ => none

theorem stored_lives {model : ModelRef} {kind : Kind} {id : ResourceId} {entity : EntityRef}
    {estate : Estate Outside} (lives : estate.modelLives model = true)
    (stored : estate.stored model kind id = some entity) : estate.entityLives entity = true := by
  obtain ⟨owner, made⟩ := made_of_stored stored
  have living : owner ∈ estate.livingModels := mem_livingModels.mpr ⟨model, lives, made⟩
  have kept : entity ∈ (owner.registries kind).members :=
    registry_of_model made kind ▸ Registry.mem_members_of_get stored
  have held : entity ∈ owner.holds :=
    List.mem_flatMap.mpr ⟨kind, kind.mem_all, List.mem_append_left _ kept⟩
  rw [entityLives, List.contains_iff_mem]
  exact List.mem_append_left _ (List.mem_append_right _ (List.mem_flatMap.mpr ⟨owner, living, held⟩))

end Stored

def forwarded (index : Nat) (estate : Estate (List ForwardedEvent)) : List ForwardedEvent :=
  estate.outside ++ ((estate.queue? index).map Ring.toList).getD []

theorem forwarded_eq {index : Nat} {estate : Estate (List ForwardedEvent)}
    {ring : Ring ForwardedEvent} {items : List ForwardedEvent}
    (queue : estate.queue? index = some ring) (holds : ring.Holds items) :
    estate.forwarded index = estate.outside ++ items := by
  rw [forwarded, queue, Option.map_some, Option.getD_some, Ring.toList_eq holds]

end Estate

open Estate

/-- The model reports to the forwarder, what it stores is registered and stored where it belongs, only what
was added is registered, and the copy is right. -/
structure Mirrors (model : ModelRef) (index : Nat) (added : List EntityRef)
    (estate : Estate (List ForwardedEvent)) : Prop where
  made : ∃ owner, estate.model? model = some owner ∧ owner.sink = .made index
  lives : estate.modelLives model = true
  queue : ∃ ring items, estate.queue? index = some ring ∧ ring.Holds items
  placed : ∀ kind id entity, estate.stored model kind id = some entity → ∃ found,
    estate.entity? entity = some found ∧ found.card = ⟨kind, id, model⟩ ∧ found.isRegistered = true
  known : ∀ entity, estate.Registered model entity → entity ∈ added
  rebuilt : Copy.rebuilt (estate.forwarded index) = estate.shown model

def Estate.KeepsSink (model : ModelRef) (before after : Estate (List ForwardedEvent)) : Prop :=
  ∀ owner, before.model? model = some owner →
    ∃ now, after.model? model = some now ∧ now.sink = owner.sink

namespace Mirrors

variable {model : ModelRef} {index : Nat} {added : List EntityRef}
  {before after estate : Estate (List ForwardedEvent)}
  {ring next : Ring ForwardedEvent} {items : List ForwardedEvent}

theorem made_later (mirrors : Mirrors model index added before)
    (made : before.KeepsSink model after) :
    ∃ owner, after.model? model = some owner ∧ owner.sink = .made index := by
  obtain ⟨owner, here, sink⟩ := mirrors.made
  obtain ⟨now, there, same⟩ := made owner here
  exact ⟨now, there, same.trans sink⟩

def Carries (model : ModelRef) (before after : Estate (List ForwardedEvent)) (entity : EntityRef) :
    Prop :=
  ∀ found, before.entity? entity = some found → found.model = model → found.isRegistered = true →
    ∃ now, after.entity? entity = some now ∧ now.snapshot = found.snapshot ∧ now.card = found.card ∧
      now.isRegistered = true

theorem carries_of_keeps {entity : EntityRef} (keeps : before.Keeps model entity after) :
    Carries model before after entity := by
  intro found here own registered
  obtain ⟨now, there, same⟩ := keeps found here own
  refine ⟨now, there, same.snapshot, same.card.1, ?_⟩
  rw [Entity.isRegistered, same.card.2]
  exact registered

theorem carried (mirrors : Mirrors model index added before) {kind : Kind} {id : ResourceId}
    {entity : EntityRef} (stored : before.stored model kind id = some entity)
    (carries : Carries model before after entity) :
    (∃ now, after.entity? entity = some now ∧ now.card = ⟨kind, id, model⟩ ∧
        now.isRegistered = true) ∧
      after.snapshot? entity = before.snapshot? entity := by
  obtain ⟨found, here, card, registered⟩ := mirrors.placed kind id entity stored
  obtain ⟨now, there, snapshot, sameCard, still⟩ :=
    carries found here (congrArg Card.model card) registered
  refine ⟨⟨now, there, sameCard.trans card, still⟩, ?_⟩
  rw [snapshot?, snapshot?, here, there, Option.map_some, Option.map_some, snapshot]

/-- Nothing about the model changes, and nothing is forwarded. -/
structure Rests (model : ModelRef) (index : Nat) (before after : Estate (List ForwardedEvent)) :
    Prop where
  made : before.KeepsSink model after
  lives : before.modelLives model = true → after.modelLives model = true
  queue : after.queue? index = before.queue? index
  outside : after.outside = before.outside
  stored : ∀ kind id, after.stored model kind id = before.stored model kind id
  registered : ∀ entity, after.Registered model entity → before.Registered model entity
  carries : ∀ entity, before.Registered model entity → Carries model before after entity

theorem rests_of_undisturbed (undisturbed : before.Undisturbed after)
    (sinks : after.sinks = before.sinks) (held : after.held = before.held)
    (carries : ∀ entity, before.Registered model entity → Carries model before after entity) :
    Rests model index before after where
  made := (undisturbed.1 model).made
  lives lives := by
    rw [modelLives, held]
    exact lives
  queue := by rw [queue?, queue?, sink?, sink?, sinks]
  outside := undisturbed.2
  stored := (undisturbed.1 model).stored
  registered entity := ((undisturbed.1 model).registered entity).mp
  carries := carries

theorem rests_of_same (undisturbed : before.Undisturbed after)
    (entities : after.entities = before.entities) (sinks : after.sinks = before.sinks)
    (held : after.held = before.held) : Rests model index before after :=
  rests_of_undisturbed undisturbed sinks held fun _ _ => carries_of_keeps (keeps_of_same entities)

theorem registered_stored (mirrors : Mirrors model index added estate) {kind : Kind}
    {id : ResourceId} {entity : EntityRef} (stored : estate.stored model kind id = some entity) :
    estate.Registered model entity := by
  obtain ⟨found, here, card, registered⟩ := mirrors.placed kind id entity stored
  exact ⟨found, here, congrArg Card.model card, registered⟩

theorem rests (mirrors : Mirrors model index added before) (rests : Rests model index before after) :
    Mirrors model index added after := by
  have carried := fun kind id entity (stored : before.stored model kind id = some entity) =>
    mirrors.carried stored (rests.carries entity (mirrors.registered_stored stored))
  constructor
  case made => exact mirrors.made_later rests.made
  case lives => exact rests.lives mirrors.lives
  case queue =>
    rw [rests.queue]
    exact mirrors.queue
  case placed =>
    intro kind id entity stored
    rw [rests.stored] at stored
    exact (carried kind id entity stored).1
  case known =>
    intro entity registered
    exact mirrors.known entity (rests.registered entity registered)
  case rebuilt =>
    rw [forwarded, rests.queue, rests.outside, ← forwarded, mirrors.rebuilt]
    funext type id
    cases type with
    | entity kind =>
        show _ = (after.stored model kind id).bind after.snapshot?
        rw [rests.stored, shown]
        cases stored : before.stored model kind id with
        | none => rfl
        | some entity => exact (carried kind id entity stored).2.symm
    | _ => rfl

/-- One place of the store is given a value. -/
structure Writes (model : ModelRef) (kind : Kind) (id : ResourceId) (value : Option EntityRef)
    (before after : Estate (List ForwardedEvent)) : Prop where
  made : before.KeepsSink model after
  lives : before.modelLives model = true → after.modelLives model = true
  outside : after.outside = before.outside
  stored : ∀ otherKind other, after.stored model otherKind other =
    if otherKind = kind ∧ other = id then value else before.stored model otherKind other
  own : ∀ entity, value = some entity → before.card? entity = some ⟨kind, id, model⟩ ∧
    after.card? entity = some ⟨kind, id, model⟩ ∧ after.Registered model entity
  registered : ∀ entity, after.Registered model entity →
    before.Registered model entity ∨ value = some entity
  carries : ∀ entity, value ≠ some entity → Carries model before after entity

theorem carried_aside (mirrors : Mirrors model index added before) {kind : Kind} {id : ResourceId}
    {value : Option EntityRef} (writes : Writes model kind id value before after) {otherKind : Kind}
    {other : ResourceId} {entity : EntityRef} (aside : ¬(otherKind = kind ∧ other = id))
    (stored : before.stored model otherKind other = some entity) :
    (∃ now, after.entity? entity = some now ∧ now.card = ⟨otherKind, other, model⟩ ∧
        now.isRegistered = true) ∧
      after.snapshot? entity = before.snapshot? entity := by
  -- an entity has one place, so what is stored aside is not the value that is written
  refine mirrors.carried stored (writes.carries entity fun same => aside ?_)
  obtain ⟨found, here, card, _⟩ := mirrors.placed otherKind other entity stored
  have known := (writes.own entity same).1
  rw [card?, here, Option.map_some, card] at known
  cases known
  exact ⟨rfl, rfl⟩

theorem writes (mirrors : Mirrors model index added before) {kind : Kind} {id : ResourceId}
    {value : Option EntityRef} (writes : Writes model kind id value before after)
    (queue : before.queue? index = some ring) (holds : ring.Holds items)
    (queueNext : after.queue? index = some next) {event : ForwardedEvent}
    (holdsNext : next.Holds (items ++ [event]))
    (tells : ∀ copy : Copy, copy.absorb event =
      copy.write (.entity kind) id (value.bind after.snapshot?)) {addedNext : List EntityRef}
    (wider : ∀ entity, entity ∈ added ∨ value = some entity → entity ∈ addedNext) :
    Mirrors model index addedNext after := by
  have aside := fun otherKind other entity (aside : ¬(otherKind = kind ∧ other = id))
    (stored : before.stored model otherKind other = some entity) =>
      mirrors.carried_aside writes aside stored
  constructor
  case made => exact mirrors.made_later writes.made
  case lives => exact writes.lives mirrors.lives
  case queue => exact ⟨next, _, queueNext, holdsNext⟩
  case placed =>
    intro otherKind other entity stored
    rw [writes.stored] at stored
    by_cases here : otherKind = kind ∧ other = id
    · obtain ⟨rfl, rfl⟩ := here
      rw [if_pos ⟨rfl, rfl⟩] at stored
      obtain ⟨_, card, found, there, _, registered⟩ := writes.own entity stored
      rw [card?, there, Option.map_some] at card
      exact ⟨found, there, Option.some.inj card, registered⟩
    · rw [if_neg here] at stored
      exact (aside otherKind other entity here stored).1
  case known =>
    intro entity registered
    exact wider entity ((writes.registered entity registered).imp_left (mirrors.known entity))
  case rebuilt =>
    rw [forwarded_eq queueNext holdsNext, writes.outside, ← List.append_assoc,
      ← forwarded_eq queue holds, Copy.rebuilt_append, mirrors.rebuilt, List.foldl_cons,
      List.foldl_nil, tells]
    -- the event writes the place in the copy too, and everything aside shows what it showed
    funext type other
    cases type with
    | entity otherKind =>
        show _ = (after.stored model otherKind other).bind after.snapshot?
        rw [writes.stored, Copy.write]
        by_cases here : otherKind = kind ∧ other = id
        · obtain ⟨rfl, rfl⟩ := here
          rw [if_pos ⟨rfl, rfl⟩, if_pos ⟨rfl, rfl⟩]
        · have apart : ¬(ResourceType.entity otherKind = .entity kind ∧ other = id) := by
            rintro ⟨same, rfl⟩
            exact here ⟨ResourceType.entity.inj same, rfl⟩
          rw [if_neg here, if_neg apart, shown]
          cases stored : before.stored model otherKind other with
          | none => rfl
          | some entity => exact (aside otherKind other entity here stored).2.symm
    | _ => exact if_neg fun here => by cases here.1

def Forwards (index : Nat) (deliver : Deliver (List ForwardedEvent)) : Prop :=
  ∀ event estate, deliver (.made index) event estate = estate.sinkReceives index event

theorem queued {deliver : Deliver (List ForwardedEvent)} (forwards : Forwards index deliver)
    {event : Event} {item : ForwardedEvent} (queue : estate.queue? index = some ring)
    (holds : ring.Holds items) (rendered : event.forwarded estate.entity? = .ok item)
    (reply : deliver (.made index) event estate = (.ok (), after)) :
    ∃ next, next.Holds (items ++ [item]) ∧ after = estate.setQueue index next := by
  rw [forwards] at reply
  rcases Dispatcher.receive_cases queue event with ⟨other, next, same, enqueued, received⟩ | ⟨_, refused⟩
  · obtain rfl := Except.ok.inj (rendered.symm.trans same)
    rw [received] at reply
    exact ⟨next, Ring.enqueue_holds holds enqueued, (congrArg Prod.snd reply).symm⟩
  · rw [refused] at reply
    cases reply

theorem forwarded_entity {entity : EntityRef} {found : Entity}
    (here : estate.entity? entity = some found) (type : ResourceType) (operation : Operation)
    (id : ResourceId) :
    (⟨type, operation, id, [.resource entity]⟩ : Event).forwarded estate.entity? =
      .ok ⟨type, operation, id, [found.snapshot.wire]⟩ := by
  simp [Event.forwarded, Payload.renderAll, Payload.rendered, Payload.renderedBy, here, Except.map]

end Mirrors

end Landscape

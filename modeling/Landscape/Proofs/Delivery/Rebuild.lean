import Landscape.Proofs.Delivery.Mirror

/-!
A subscriber that follows the events of a forwarder rebuilds the model. As long as the forwarder refuses
nothing, and entities are changed only before they are added or while they are stored, the copy is at any
time the map from what is stored to the snapshots of the entities there.
-/

namespace Landscape

open Estate

namespace Call

variable {Outside : Type} {deliver : Deliver Outside} {estate : Estate Outside} {call : Call}

/-- No sink refuses what it is handed while the call is performed. -/
def Accepted (deliver : Deliver Outside) (estate : Estate Outside) (call : Call) : Prop :=
  ∀ handed ∈ call.handed deliver estate, handed.verdict = .ok ()

theorem Accepted.verdict (accepted : call.Accepted deliver estate) {sink : SinkRef} {event : Event}
    {verdict : Except EventError Unit}
    (handed : call.handed deliver estate = [⟨sink, event, verdict⟩]) : verdict = .ok () := by
  refine accepted ⟨sink, event, verdict⟩ ?_
  rw [handed]
  exact List.mem_singleton_self _

def entering (answer : Answer) : Call → List EntityRef
  | .add _ entity => if answer = .done then [entity] else []
  | _ => []

end Call

namespace Mirrors

variable {model : ModelRef} {index : Nat} {added : List EntityRef}
  {deliver : Deliver (List ForwardedEvent)} {estate : Estate (List ForwardedEvent)}
  {entity : EntityRef} {found : Entity}

theorem snapshot_modified (here : estate.entity? entity = some found) (change : Entity → Entity) :
    (estate.modifyEntity entity change).snapshot? entity = some (change found).snapshot := by
  rw [snapshot?, entity_modified here, Option.map_some]

theorem released_queue (holdings : List Holding) (next : Ring ForwardedEvent)
    (estate : Estate (List ForwardedEvent)) :
    ((estate.hold holdings).setQueue index next).release holdings = estate.setQueue index next :=
  release_hold holdings (estate.setQueue index next)

theorem storedEvent_operation (entity : EntityRef) (found : Entity) (previous : Option EntityRef) :
    (storedEvent entity found previous).operation = .create ∨
      (storedEvent entity found previous).operation = .update := by
  cases previous with
  | none => exact .inl rfl
  | some _ => exact .inr rfl

theorem bindSlots_entities (entity : EntityRef) (estate : Estate (List ForwardedEvent)) :
    ∃ entities, estate.bindSlots entity = { estate with entities } :=
  bindSlots_keeps (fun later => ∃ entities, later = { estate with entities }) entity
    (fun later _ _ kept => by
      obtain ⟨entities, rfl⟩ := kept
      exact ⟨_, rfl⟩) estate ⟨estate.entities, rfl⟩

theorem queue_entered (model : ModelRef) (entity : EntityRef) (found : Entity) :
    (estate.entered model entity found).queue? index = estate.queue? index := by
  obtain ⟨entities, bound⟩ := bindSlots_entities entity estate
  rw [entered, bound]
  rfl

theorem add_writes (made : ∃ owner, estate.model? model = some owner)
    (here : estate.entity? entity = some found) (own : found.model = model)
    (next : Ring ForwardedEvent) :
    Writes model found.kind found.id (some entity) estate
      (((estate.entered model entity found).setQueue index next).modifyEntity entity
        Entity.register) := by
  obtain ⟨owner, made⟩ := made
  obtain ⟨entities, bound⟩ := bindSlots_entities entity estate
  have undisturbed := undisturbed_bindSlots entity estate
  have card : estate.card? entity = some ⟨found.kind, found.id, model⟩ := by
    rw [card?, here, Option.map_some, Entity.card, own]
  have boundCard := (undisturbed.1 model).cards entity _ card
  have registers := registered_register ((estate.entered model entity found).setQueue index next)
    boundCard rfl
  constructor
  case made =>
    exact ((undisturbed.persists).trans (persists_setRegistry model found.kind _ _)).made
  case lives =>
    intro lives
    rw [entered, bound]
    exact lives
  case outside => exact undisturbed.2
  case stored =>
    intro otherKind other
    have entered := stored_entered made entity found model otherKind other
    simp only [true_and] at entered
    exact entered
  case own =>
    intro other same
    obtain rfl := Option.some.inj same
    refine ⟨card, ?_, (registers entity).mpr (.inl rfl)⟩
    exact (card_modifyEntity _ entity entity Entity.register fun _ => rfl).trans boundCard
  case registered =>
    intro other registered
    rcases (registers other).mp registered with rfl | before
    · exact .inr rfl
    · exact .inl (((undisturbed.1 model).registered other).mp before)
  case carries =>
    intro other apart
    have same : entity ≠ other := fun equal => apart (congrArg some equal)
    exact carries_of_keeps ((keeps_bindSlots entity estate).trans (Keeps.trans
      (keeps_of_same rfl : (estate.bindSlots entity).Keeps model other
        ((estate.entered model entity found).setQueue index next)) (keeps_modifyEntity same _ _)))

theorem add_taken (forwards : Forwards index deliver) {ring : Ring ForwardedEvent}
    {items : List ForwardedEvent} (queue : estate.queue? index = some ring) (holds : ring.Holds items)
    {owner : Model} (made : estate.model? model = some owner) (sink : owner.sink = .made index)
    (here : estate.entity? entity = some found) (given : found.id.isNil = false)
    (own : found.model = model) (accepted : (Call.add model entity).Accepted deliver estate) :
    ∃ bound next, (estate.bindSlots entity).entity? entity = some bound ∧
      next.Holds (items ++ [⟨.entity found.kind,
        (storedEvent entity found (estate.stored model found.kind found.id)).operation, found.id,
        [bound.snapshot.wire]⟩]) ∧
      (Call.add model entity).perform deliver estate =
        (.done, ((estate.entered model entity found).setQueue index next).modifyEntity entity
          Entity.register) := by
  have kept : estate.Keeps model entity (estate.bindSlots entity) := keeps_bindSlots entity estate
  obtain ⟨bound, there, _⟩ := kept found here own
  have thereOnAdd : (estate.onAdd model entity found).entity? entity = some bound := there
  have queueOnAdd : (estate.onAdd model entity found).queue? index = some ring :=
    (queue_entered model entity found).trans queue
  obtain ⟨⟨verdict, after⟩, reply⟩ : ∃ reply, deliver owner.sink
      (storedEvent entity found (estate.stored model found.kind found.id))
      (estate.onAdd model entity found) = reply := ⟨_, rfl⟩
  obtain rfl := accepted.verdict (Call.handed_add here made given own reply)
  have performed := add_delivers here made given own reply
  rw [sink] at reply
  obtain ⟨next, holdsNext, rfl⟩ := queued forwards queueOnAdd holds
    (forwarded_entity thereOnAdd _ _ _) reply
  refine ⟨bound, next, there, holdsNext, ?_⟩
  rw [Call.perform, Call.answering, performed, settle, onAdd, released_queue]
  rfl

theorem add (forwards : Forwards index deliver) (mirrors : Mirrors model index added estate)
    (here : estate.entity? entity = some found)
    (accepted : (Call.add model entity).Accepted deliver estate) :
    Mirrors model index
      ((Call.add model entity).entering ((Call.add model entity).perform deliver estate).1 ++ added)
      ((Call.add model entity).perform deliver estate).2 := by
  obtain ⟨owner, made, sink⟩ := mirrors.made
  by_cases unset : found.id.isNil = true
  · rw [Call.perform_add_nil deliver here made unset]
    exact mirrors
  have given : found.id.isNil = false := by simpa using unset
  by_cases own : found.model = model
  case neg =>
    rw [Call.perform_add_foreign deliver here made given own]
    exact mirrors
  obtain ⟨ring, items, queue, holds⟩ := mirrors.queue
  obtain ⟨bound, next, there, holdsNext, performed⟩ :=
    add_taken forwards queue holds made sink here given own accepted
  have queueThere : (estate.entered model entity found).queue? index = some ring :=
    (queue_entered model entity found).trans queue
  have thereNext : ((estate.entered model entity found).setQueue index next).entity? entity =
      some bound := there
  rw [performed]
  refine mirrors.writes (add_writes ⟨owner, made⟩ here own next) queue holds
    (Dispatcher.queue_setQueue queueThere) holdsNext ?_ ?_
  · intro copy
    rw [Option.bind_some, snapshot_modified thereNext]
    exact Copy.absorb_snapshot (storedEvent_operation entity found _) _ _ _ copy
  · rintro other (before | same)
    · exact List.mem_cons_of_mem _ before
    · exact Option.some.inj same ▸ List.mem_cons_self

theorem delete_writes (made : ∃ owner, estate.model? model = some owner) (kind : Kind)
    (id : ResourceId) (next : Ring ForwardedEvent) :
    Writes model kind id none estate ((estate.withdrawn model kind id).setQueue index next) := by
  obtain ⟨owner, made⟩ := made
  constructor
  case made => exact (persists_setRegistry model kind _ estate).made
  case lives => exact fun lives => lives
  case outside => rfl
  case stored =>
    intro otherKind other
    have withdrawn := stored_withdrawn made kind id model otherKind other
    simp only [true_and] at withdrawn
    exact withdrawn
  case own =>
    intro entity same
    cases same
  case registered => exact fun _ registered => .inl registered
  case carries => exact fun _ _ => carries_of_keeps (keeps_of_same rfl)

theorem delete (forwards : Forwards index deliver) (mirrors : Mirrors model index added estate)
    (kind : Kind) (id : ResourceId) (accepted : (Call.delete model kind id).Accepted deliver estate) :
    Mirrors model index added ((Call.delete model kind id).perform deliver estate).2 := by
  obtain ⟨owner, made, sink⟩ := mirrors.made
  cases present : estate.stored model kind id with
  | none =>
      rw [Call.perform_delete_absent deliver made present]
      exact mirrors
  | some removed =>
      obtain ⟨ring, items, queue, holds⟩ := mirrors.queue
      have queueThere : (estate.onDelete model kind id removed).queue? index = some ring := queue
      obtain ⟨⟨verdict, after⟩, reply⟩ : ∃ reply, deliver owner.sink (deletedEvent kind id)
          (estate.onDelete model kind id removed) = reply := ⟨_, rfl⟩
      obtain rfl := accepted.verdict (Call.handed_delete made present reply)
      have performed := delete_delivers made present reply
      rw [sink] at reply
      have rendered : (deletedEvent kind id).forwarded
          (estate.onDelete model kind id removed).entity? = .ok ⟨.entity kind, .delete, id, []⟩ := rfl
      obtain ⟨next, holdsNext, rfl⟩ := queued forwards queueThere holds rendered reply
      rw [Call.perform, Call.answering, performed, settle, onDelete, released_queue]
      refine mirrors.writes (delete_writes ⟨owner, made⟩ kind id next) queue holds
        (Dispatcher.queue_setQueue queueThere) holdsNext ?_ ?_
      · intro copy
        rfl
      · rintro other (before | same)
        · exact before
        · cases same

theorem registered_modified (here : estate.entity? entity = some found) {now : Entity}
    (card : now.card = found.card ∧ now.registration = found.registration) (other : EntityRef) :
    (estate.modifyEntity entity fun _ => now).Registered model other ↔
      estate.Registered model other := by
  unfold Registered
  rw [entity_modifyEntity]
  by_cases same : other = entity
  · subst same
    have own : now.model = found.model := congrArg Card.model card.1
    simp [here, Entity.isRegistered, card.2, own]
  · rw [if_neg same]

theorem edit_writes (here : estate.entity? entity = some found) (own : found.model = model)
    (registered : found.isRegistered = true)
    (stored : estate.stored model found.kind found.id = some entity) {now : Entity}
    (card : now.card = found.card ∧ now.registration = found.registration)
    (next : Ring ForwardedEvent) :
    Writes model found.kind found.id (some entity) estate
      ((estate.modifyEntity entity fun _ => now).setQueue index next) := by
  have shows : ((estate.modifyEntity entity fun _ => now).setQueue index next).entity? entity =
      some now := entity_modified here _
  have known : found.card = ⟨found.kind, found.id, model⟩ := by rw [Entity.card, own]
  constructor
  case made => exact fun owner made => ⟨owner, made, rfl⟩
  case lives => exact fun lives => lives
  case outside => rfl
  case stored =>
    intro otherKind other
    split
    next same =>
      obtain ⟨rfl, rfl⟩ := same
      exact stored
    next => rfl
  case own =>
    intro other same
    obtain rfl := Option.some.inj same
    refine ⟨?_, ?_, now, shows, ?_, ?_⟩
    · rw [card?, here, Option.map_some, known]
    · rw [card?, shows, Option.map_some, card.1, known]
    · exact (congrArg Card.model card.1).trans own
    · rw [Entity.isRegistered, card.2]
      exact registered
  case registered =>
    intro other registered
    exact .inl ((registered_modified here card other).mp registered)
  case carries =>
    intro other apart
    have same : entity ≠ other := fun equal => apart (congrArg some equal)
    exact carries_of_keeps (Keeps.trans (keeps_modifyEntity same _ _) (keeps_of_same rfl))

theorem updated (forwards : Forwards index deliver) (mirrors : Mirrors model index added estate)
    (here : estate.entity? entity = some found) (own : found.model = model)
    (registered : found.isRegistered = true)
    (stored : estate.stored model found.kind found.id = some entity) {now : Entity}
    (card : now.card = found.card ∧ now.registration = found.registration) {holdings : List Holding}
    {after : Estate (List ForwardedEvent)}
    (reply : deliver (.made index) (updateEvent entity found)
      ((estate.modifyEntity entity fun _ => now).hold holdings) = (.ok (), after)) :
    Mirrors model index added (after.release holdings) := by
  obtain ⟨ring, items, queue, holds⟩ := mirrors.queue
  have queueThere : ((estate.modifyEntity entity fun _ => now).hold holdings).queue? index =
      some ring := queue
  have shows : ((estate.modifyEntity entity fun _ => now).hold holdings).entity? entity =
      some now := entity_modified here _
  obtain ⟨next, holdsNext, rfl⟩ := queued forwards queueThere holds
    (forwarded_entity shows _ _ _) reply
  rw [released_queue]
  refine mirrors.writes (edit_writes here own registered stored card next) queue holds
    (Dispatcher.queue_setQueue (queue : (estate.modifyEntity entity fun _ => now).queue? index =
      some ring)) holdsNext ?_ ?_
  · intro copy
    have shown : ((estate.modifyEntity entity fun _ => now).setQueue index next).snapshot? entity =
        some now.snapshot := snapshot_modified here _
    rw [Option.bind_some, shown]
    exact Copy.absorb_snapshot (.inr rfl) _ _ _ copy
  · rintro other (before | same)
    · exact before
    · obtain rfl := Option.some.inj same
      exact mirrors.known entity ⟨found, here, own, registered⟩

def Current (model : ModelRef) (added : List EntityRef) (estate : Estate (List ForwardedEvent))
    (entity : EntityRef) : Prop :=
  ∃ found, estate.entity? entity = some found ∧ found.model = model ∧
    (estate.stored model found.kind found.id = some entity ∨ entity ∉ added)

theorem stored_of_current (mirrors : Mirrors model index added estate)
    (here : estate.entity? entity = some found) (own : found.model = model)
    (registered : found.isRegistered = true)
    (current : estate.stored model found.kind found.id = some entity ∨ entity ∉ added) :
    estate.stored model found.kind found.id = some entity :=
  current.resolve_right fun fresh => fresh (mirrors.known entity ⟨found, here, own, registered⟩)

theorem rests_modified (here : estate.entity? entity = some found)
    (fresh : found.isRegistered = false) {now : Entity}
    (card : now.card = found.card ∧ now.registration = found.registration) :
    Rests model index estate (estate.modifyEntity entity fun _ => now) where
  made owner made := ⟨owner, made, rfl⟩
  lives lives := lives
  queue := rfl
  outside := rfl
  stored _ _ := rfl
  registered other registered := (registered_modified here card other).mp registered
  carries other registered := by
    refine carries_of_keeps (keeps_modifyEntity ?_ _ estate)
    rintro rfl
    obtain ⟨same, there, _, registered⟩ := registered
    rw [here] at there
    cases there
    rw [fresh] at registered
    cases registered

theorem edit (forwards : Forwards index deliver) (mirrors : Mirrors model index added estate)
    (edit : Edit) (current : Current model added estate entity) (fits : edit.Fits estate)
    (accepted : (edit.call entity).Accepted deliver estate) :
    Mirrors model index added ((edit.call entity).perform deliver estate).2 := by
  obtain ⟨found, here, rfl, current⟩ := current
  obtain ⟨owner, made, sink⟩ := mirrors.made
  by_cases idle : edit.isIdle found = true
  · rw [Edit.perform_idle deliver here idle]
    exact mirrors
  have busy : edit.isIdle found = false := by simpa using idle
  -- what is registered was added, so it is stored now; anything else changes without a word
  by_cases registered : found.isRegistered = true
  · have stored := mirrors.stored_of_current here rfl registered current
    have awake := stored_lives mirrors.lives stored
    obtain ⟨⟨verdict, after⟩, reply⟩ : ∃ reply, deliver owner.sink (updateEvent entity found)
        (edit.scene entity found estate) = reply := ⟨_, rfl⟩
    obtain rfl := accepted.verdict
      (Edit.handed_registered here made registered mirrors.lives awake busy fits reply)
    rw [Edit.perform_registered here made registered mirrors.lives awake busy fits reply]
    rw [sink] at reply
    exact mirrors.updated forwards here rfl registered stored (edit.card_change estate found) reply
  · have fresh : found.isRegistered = false := by simpa using registered
    rw [Edit.perform_unregistered deliver here fresh busy fits]
    exact mirrors.rests (rests_modified here fresh (edit.card_change estate found))

/-- An entity that is told of a change of its annotations is announced as it is. -/
theorem receive (forwards : Forwards index deliver) (mirrors : Mirrors model index added estate)
    (current : Current model added estate entity) (event : Event)
    (accepted : (Call.receive entity event).Accepted deliver estate) :
    Mirrors model index added ((Call.receive entity event).perform deliver estate).2 := by
  obtain ⟨found, here, rfl, current⟩ := current
  obtain ⟨owner, made, sink⟩ := mirrors.made
  rw [Call.perform, Call.answering, entityReceives]
  by_cases annotations : event.resourceType = .annotations
  case neg =>
    rw [if_neg annotations]
    exact mirrors
  rw [if_pos annotations]
  by_cases registered : found.isRegistered = true
  · have stored := mirrors.stored_of_current here rfl registered current
    obtain ⟨⟨verdict, after⟩, reply⟩ : ∃ reply, deliver owner.sink (updateEvent entity found)
        (estate.hold [.model found.model, .entity entity]) = reply := ⟨_, rfl⟩
    obtain rfl := accepted.verdict
      (handed_receive here made registered mirrors.lives annotations reply)
    rw [announce_delivers here made registered mirrors.lives reply]
    have same : (estate.modifyEntity entity fun _ => found) = estate := by
      have unchanged : (estate.modifyEntity entity fun _ => found) = estate.modifyEntity entity id :=
        modifyEntity_congr here rfl
      rw [unchanged, modifyEntity, List.modify_id]
    rw [sink, ← same] at reply
    exact mirrors.updated forwards here rfl registered stored ⟨rfl, rfl⟩ reply
  · rw [announce_unregistered deliver here (by simpa using registered)]
    exact mirrors

theorem rests_follow (entity : EntityRef) (slot : Slot) (estate : Estate (List ForwardedEvent)) :
    Rests model index estate (estate.follow entity slot).2 := by
  have same : (estate.follow entity slot).2.sinks = estate.sinks ∧
      (estate.follow entity slot).2.held = estate.held := by
    unfold follow
    repeat' split
    all_goals exact ⟨rfl, rfl⟩
  exact rests_of_undisturbed (undisturbed_follow entity slot estate) same.1 same.2 fun _ _ =>
    carries_of_keeps (keeps_follow entity slot estate)

theorem rests_elsewhere {sinks : List Sink} (kept : sinks[index]? = estate.sink? index)
    (managers : List Manager) {held : List Holding} (holds : .model model ∈ held) :
    Rests model index estate { estate with sinks, managers, held } where
  made owner made := ⟨owner, made, rfl⟩
  lives _ := List.contains_iff_mem.mpr holds
  queue := by rw [queue?, sink?, kept, ← queue?]
  outside := rfl
  stored _ _ := rfl
  registered _ registered := registered
  carries _ _ := carries_of_keeps (keeps_of_same rfl)

end Mirrors

/-- What a run of the model may do: add to it and delete from it, change and announce what is stored or
was not added so far, and look at anything. The forwarder and the model are kept meanwhile. -/
def Call.Permitted (model : ModelRef) (index : Nat) (added : List EntityRef)
    (estate : Estate (List ForwardedEvent)) : Call → Prop
  | .add owner entity => owner = model ∧ (estate.entity? entity).isSome
  | .delete owner _ _ => owner = model
  | .change entity _ | .pointById entity _ _ | .pointAt entity _ _ | .receive entity _
  | .annotate (.ofEntity entity) _ _ | .unannotate (.ofEntity entity) _ =>
      Mirrors.Current model added estate entity
  | .annotate (.free _) _ _ | .unannotate (.free _) _ => False
  | .elsewhere sinks _ held => sinks[index]? = estate.sink? index ∧ .model model ∈ held
  | _ => True

def Estate.take (index : Nat) (estate : Estate (List ForwardedEvent)) :
    Estate (List ForwardedEvent) :=
  match (estate.queue? index).map Ring.dequeue with
  | some (.ok (event, ring)) => (estate.setQueue index ring).onOutside (· ++ [event])
  | _ => estate

/-- The runs of a model that was just made with a new forwarder, with what was added so far. The forwarder
refuses nothing. -/
inductive Reached (deliver : Deliver (List ForwardedEvent)) (model : ModelRef) (index : Nat) :
    List EntityRef → Estate (List ForwardedEvent) → Prop where
  | start {estate capacity} (made : estate.model? model = some (.new (.made index)))
      (sink : estate.sink? index = some (.forwarder (.new capacity)))
      (lives : estate.modelLives model = true) (untaken : estate.outside = [])
      (fresh : ∀ entity, ¬estate.Registered model entity) : Reached deliver model index [] estate
  | call {added estate} (reached : Reached deliver model index added estate) (call : Call)
      (permitted : call.Permitted model index added estate)
      (accepted : call.Accepted deliver estate) :
      Reached deliver model index (call.entering (call.perform deliver estate).1 ++ added)
        (call.perform deliver estate).2
  | take {added estate} (reached : Reached deliver model index added estate) :
      Reached deliver model index added (estate.take index)

namespace Mirrors

variable {model : ModelRef} {index : Nat} {added : List EntityRef}
  {deliver : Deliver (List ForwardedEvent)} {estate : Estate (List ForwardedEvent)}

theorem start {capacity : Nat} (made : estate.model? model = some (.new (.made index)))
    (sink : estate.sink? index = some (.forwarder (.new capacity)))
    (lives : estate.modelLives model = true) (untaken : estate.outside = [])
    (fresh : ∀ entity, ¬estate.Registered model entity) : Mirrors model index [] estate := by
  have queue : estate.queue? index = some (.new capacity) := by rw [queue?, sink]
  have holds : (Ring.new capacity : Ring ForwardedEvent).Holds [] := Ring.new_holds capacity
  have vacant : ∀ kind id, estate.stored model kind id = none := by
    intro kind id
    rw [Estate.stored, Estate.registry, made]
    rfl
  constructor
  case made => exact ⟨_, made, rfl⟩
  case lives => exact lives
  case queue => exact ⟨_, _, queue, holds⟩
  case placed =>
    intro kind id entity stored
    rw [vacant] at stored
    cases stored
  case known => exact fun entity registered => (fresh entity registered).elim
  case rebuilt =>
    rw [forwarded_eq queue holds, untaken]
    funext type id
    cases type with
    | entity kind => rw [shown, vacant]; rfl
    | _ => rfl

theorem take (mirrors : Mirrors model index added estate) :
    Mirrors model index added (estate.take index) := by
  obtain ⟨ring, items, queue, holds⟩ := mirrors.queue
  cases items with
  | nil =>
      have same : estate.take index = estate := by
        rw [Estate.take, queue, Option.map_some, Ring.dequeue_nil holds]
      rw [same]
      exact mirrors
  | cons event rest =>
      have taken : estate.take index =
          (estate.setQueue index ring.shortened).onOutside (· ++ [event]) := by
        rw [Estate.take, queue, Option.map_some, Ring.dequeue_eq holds]
      have queueNext : (estate.take index).queue? index = some ring.shortened := by
        rw [taken]
        exact Dispatcher.queue_setQueue queue
      have holdsNext := Ring.shortened_holds holds
      constructor
      case made => exact taken ▸ mirrors.made
      case lives => exact taken ▸ mirrors.lives
      case queue => exact ⟨_, _, queueNext, holdsNext⟩
      case placed => exact taken ▸ mirrors.placed
      case known => exact taken ▸ mirrors.known
      case rebuilt =>
        -- the event moves from the front of the queue to the end of what was taken
        have same : (estate.take index).forwarded index = estate.forwarded index := by
          rw [forwarded_eq queueNext holdsNext, forwarded_eq queue holds, taken]
          exact List.append_assoc _ [event] rest
        have shows : (estate.take index).shown model = estate.shown model := by
          rw [taken]
          rfl
        rw [same, shows, mirrors.rebuilt]

theorem call (forwards : Forwards index deliver) (mirrors : Mirrors model index added estate)
    (call : Call) (permitted : call.Permitted model index added estate)
    (accepted : call.Accepted deliver estate) :
    Mirrors model index (call.entering (call.perform deliver estate).1 ++ added)
      (call.perform deliver estate).2 := by
  cases call with
  | newModel sink =>
      exact mirrors.rests (rests_of_same (undisturbed_addModel sink estate) rfl rfl rfl)
  | newEntity owner kind id =>
      exact mirrors.rests (rests_of_undisturbed (undisturbed_addEntity rfl estate) rfl rfl
        fun _ _ => carries_of_keeps (keeps_addEntity _ estate))
  | newNotes owner sink =>
      exact mirrors.rests (rests_of_same (undisturbed_of_same rfl rfl rfl) rfl rfl rfl)
  | find | count => exact mirrors
  | list owner kind =>
      exact mirrors.rests (rests_of_same (undisturbed_listOf owner kind estate) rfl rfl rfl)
  | follow entity slot => exact mirrors.rests (rests_follow entity slot estate)
  | elsewhere sinks managers held =>
      exact mirrors.rests (rests_elsewhere permitted.1 managers permitted.2)
  | add owner entity =>
      obtain ⟨rfl, there⟩ := permitted
      obtain ⟨found, here⟩ := Option.isSome_iff_exists.mp there
      exact mirrors.add forwards here accepted
  | delete owner kind id =>
      obtain rfl : owner = model := permitted
      exact mirrors.delete forwards kind id accepted
  | change entity wanted => exact mirrors.edit forwards (.set wanted) permitted trivial accepted
  | pointById entity slot id =>
      exact mirrors.edit forwards (.pointById slot id) permitted trivial accepted
  | pointAt entity slot target =>
      by_cases there : (estate.entity? target).isSome = true
      · exact mirrors.edit forwards (.pointAt slot target) permitted there accepted
      · rw [Option.not_isSome_iff_eq_none] at there
        simp only [Call.perform, Call.answering, Estate.pointAt, there]
        exact mirrors
  | receive entity event => exact mirrors.receive forwards permitted event accepted
  | annotate place key value =>
      cases place with
      | ofEntity entity =>
          exact mirrors.edit forwards (.annotate key value) permitted trivial accepted
      | free notes => exact permitted.elim
  | unannotate place key =>
      cases place with
      | ofEntity entity =>
          exact mirrors.edit forwards (.unannotate key) permitted trivial accepted
      | free notes => exact permitted.elim

theorem reached (forwards : Forwards index deliver)
    (reached : Reached deliver model index added estate) : Mirrors model index added estate := by
  induction reached with
  | start made sink lives untaken fresh => exact start made sink lives untaken fresh
  | call _ call permitted accepted ih => exact ih.call forwards call permitted accepted
  | take _ ih => exact ih.take

end Mirrors

def twins : Estate (List ForwardedEvent) :=
  { Estate.empty [] with
    entities := [.new ⟨0⟩ .node (.repeating 1), .new ⟨0⟩ .node (.repeating 1)]
    models := [.new (.made 0)]
    sinks := [.forwarder (.new 4)]
    held := [.model ⟨0⟩, .entity ⟨0⟩, .entity ⟨1⟩] }

end Landscape

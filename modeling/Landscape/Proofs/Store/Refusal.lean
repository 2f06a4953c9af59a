import Landscape.Proofs.Entity.Slots

/-!
Writes that fail. An addition or a deletion that does not succeed leaves every entity and the whole store of
its model as they were, for sinks that only read: look-ups answer the same instances, and lists and counts
answer the same. All that a failed addition may leave behind is in the references of the entity itself: one
that was set and knew no living target may know the instance that was stored under its identity. The
registries are taken to be sound, as they are in every run.
-/

namespace Landscape

theorem Kind.target_of_mem {kind target : Kind} {slot : Slot} (entry : (slot, target) ∈ kind.slots) :
    kind.target? slot = some target := by
  cases kind <;> cases slot <;> simp_all [Kind.slots, Kind.target?]

section Linking
variable {Outside : Type}

/-- A slot of an entity as it was, or one that was set and knew no living target, and now knows what was
stored under its identity. -/
inductive Link.Learned (estate : Estate Outside) (found : Entity) (slot : Slot) : Option Link → Prop where
  | stays : Learned estate found slot (found.links slot)
  | learns {link : Link} {kind : Kind} {target : EntityRef} (set : found.links slot = some link)
      (unknown : estate.knownTarget link = none) (typed : found.kind.target? slot = some kind)
      (present : estate.stored found.model kind link.id = some target) :
      Learned estate found slot (some { link with target := some target })

/-- The entity as it was in an estate, but for what its slots have learned there. -/
structure Entity.Linked (estate : Estate Outside) (found now : Entity) : Prop where
  same : { now with links := found.links } = found
  links : ∀ slot, Link.Learned estate found slot (now.links slot)

theorem Entity.linked_refl (estate : Estate Outside) (found : Entity) : found.Linked estate found :=
  ⟨rfl, fun _ => .stays⟩

namespace Estate

variable {estate later : Estate Outside} {entity : EntityRef} {found now : Entity}

/-- What decides about the slots of an entity: who lives, and what its model stores. -/
structure Alike (found : Entity) (estate later : Estate Outside) : Prop where
  lives : later.entityLives = estate.entityLives
  stored : ∀ kind id, later.stored found.model kind id = estate.stored found.model kind id

theorem learned_linked (alike : Alike found estate later) (linked : found.Linked estate now)
    {slot : Slot} {kind : Kind} {link : Link} {target : EntityRef} (set : now.links slot = some link)
    (unknown : later.knownTarget link = none) (typed : found.kind.target? slot = some kind)
    (present : later.stored found.model kind link.id = some target) :
    found.Linked estate (now.learnTarget slot target) := by
  rw [learnTarget_eq set]
  refine ⟨linked.same, fun asked => ?_⟩
  by_cases own : asked = slot
  · subst own
    rw [links_set]
    rw [alike.stored] at present
    have before := linked.links asked
    rw [set] at before
    generalize held : some link = current at before
    cases before with
    | stays =>
        rw [knownTarget, alike.lives] at unknown
        exact .learns held.symm unknown typed present
    | @learns first _ _ setBefore unknownBefore typedBefore _ =>
        -- a slot that has learned a target before still holds the identity that it held
        obtain rfl := Option.some.inj held
        show Link.Learned estate found asked (some { first with target := some target })
        exact .learns setBefore unknownBefore typed present
  · rw [links_setLink own]
    exact linked.links asked

theorem bindSlot_linked (alike : Alike found estate later) (there : later.entity? entity = some now)
    (linked : found.Linked estate now) {entry : Slot × Kind}
    (typed : found.kind.target? entry.1 = some entry.2) :
    Alike found estate (later.bindSlot entity entry) ∧
      ∃ next, (later.bindSlot entity entry).entity? entity = some next ∧ found.Linked estate next := by
  have model : now.model = found.model := by rw [← linked.same]
  have stays : Alike found estate later ∧
      ∃ next, later.entity? entity = some next ∧ found.Linked estate next :=
    ⟨alike, now, there, linked⟩
  simp only [bindSlot, there]
  split
  · exact stays
  · next link set =>
      split
      · exact stays
      · next unknown =>
          split
          · exact stays
          · next target present =>
              rw [model] at present
              have none : later.knownTarget link = none := by simpa using unknown
              exact ⟨⟨alike.lives, alike.stored⟩, _, entity_modified there _,
                learned_linked alike linked set none typed present⟩

theorem foldl_bindSlot_linked {entries : List (Slot × Kind)}
    (typed : ∀ entry ∈ entries, found.kind.target? entry.1 = some entry.2)
    (alike : Alike found estate later) (there : later.entity? entity = some now)
    (linked : found.Linked estate now) :
    ∃ next, (entries.foldl (bindSlot entity) later).entity? entity = some next ∧
      found.Linked estate next := by
  induction entries generalizing later now with
  | nil => exact ⟨now, there, linked⟩
  | cons entry rest ih =>
      obtain ⟨alikeNext, next, thereNext, linkedNext⟩ :=
        bindSlot_linked alike there linked (typed entry List.mem_cons_self)
      exact ih (fun other member => typed other (List.mem_cons_of_mem entry member)) alikeNext thereNext
        linkedNext

/-- Binding the slots of an entity lets them learn their targets and changes nothing else about it. -/
theorem bindSlots_linked (here : estate.entity? entity = some found) :
    ∃ now, (estate.bindSlots entity).entity? entity = some now ∧ found.Linked estate now := by
  simp only [bindSlots, here]
  exact foldl_bindSlot_linked (fun _ member => Kind.target_of_mem member) ⟨rfl, fun _ _ => rfl⟩ here
    (found.linked_refl estate)

theorem bindSlots_other {other : EntityRef} (apart : other ≠ entity) (estate : Estate Outside) :
    (estate.bindSlots entity).entity? other = estate.entity? other :=
  bindSlots_keeps (fun later => later.entity? other = estate.entity? other) entity
    (fun later slot target kept => by rw [entity_modifyEntity, if_neg apart, kept]) estate rfl

end Estate

end Linking

namespace Estate

variable {Outside : Type} {model : ModelRef} {owner : Model} {kind : Kind} {id : ResourceId}
  {before middle heard after : Estate Outside}

/-- The store of a model answers as before: look-ups with the same instances, lists but for their order, and
counts. -/
structure SameStore (model : ModelRef) (before after : Estate Outside) : Prop where
  stored : ∀ kind id, after.stored model kind id = before.stored model kind id
  listed : ∀ kind, (after.listOf model kind).1.Perm (before.listOf model kind).1
  counted : ∀ type, after.countOf model type = before.countOf model type

theorem SameStore.refl (model : ModelRef) (estate : Estate Outside) : estate.SameStore model estate :=
  ⟨fun _ _ => rfl, fun _ => List.Perm.refl _, fun _ => rfl⟩

theorem sameStore_of_stored (sound : ∀ kind, (before.registry model kind).Sound)
    (later : ∀ kind, (after.registry model kind).Sound)
    (stored : ∀ kind id, after.stored model kind id = before.stored model kind id) :
    before.SameStore model after := by
  have entries := fun kind => Registry.entries_perm (sound kind) (later kind) (stored kind)
  refine ⟨stored, fun kind => ?_, fun type => ?_⟩
  · exact ((Registry.listed_perm (later kind)).trans ((entries kind).map Prod.snd)).trans
      (Registry.listed_perm (sound kind)).symm
  · cases type with
    | entity kind =>
        rw [countOf_registry, countOf_registry]
        exact (entries kind).length_eq
    | unknown | annotations =>
        rw [countOf, countOf]
        cases before.model? model <;> cases after.model? model <;> rfl

theorem Leaves.registries (leaves : middle.Leaves model heard)
    (sound : ∀ kind, (middle.registry model kind).Sound) (kind : Kind) :
    (heard.registry model kind).Sound := by
  rcases leaves.store kind with same | listed
  · exact same ▸ sound kind
  · exact listed ▸ Registry.sound_list (sound kind)

theorem restored_sameStore (sound : ∀ kind, (before.registry model kind).Sound)
    (entered : ∀ kind, (middle.registry model kind).Sound) {value : Option EntityRef}
    (stored : ∀ otherKind other, middle.stored model otherKind other =
      before.contentsWith model kind id value model otherKind other)
    (made : middle.model? model = some owner) (leaves : middle.Leaves model heard)
    (holdings : List Holding) :
    before.SameStore model ((heard.release holdings).setRegistry model kind
      (((heard.release holdings).registry model kind).restore id (before.stored model kind id))) := by
  obtain ⟨now, madeNow, _⟩ := leaves.made owner made
  have released : (heard.release holdings).model? model = some now := madeNow
  apply sameStore_of_stored sound
  · intro otherKind
    rw [registry_setRegistry _ released]
    split
    · exact Registry.sound_restore (leaves.registries entered kind) id _
    · exact leaves.registries entered otherKind
  · intro otherKind other
    rw [stored_restored released]
    by_cases same : model = model ∧ otherKind = kind ∧ other = id
    · rw [if_pos same, same.2.1, same.2.2]
    · rw [if_neg same]
      have kept : (heard.release holdings).stored model otherKind other =
          middle.stored model otherKind other := leaves.stored otherKind other
      rw [kept, stored, contentsWith, if_neg same]

theorem add_refused {deliver : Deliver Outside} {entity : EntityRef} {found : Entity}
    {refusal : EventError} (here : before.entity? entity = some found)
    (made : before.model? model = some owner) (given : found.id.isNil = false) (own : found.model = model)
    (reply : deliver owner.sink (storedEvent entity found (before.stored model found.kind found.id))
        (before.onAdd model entity found) = (.error refusal, heard))
    (leaves : (before.onAdd model entity found).Leaves model heard)
    (sound : ∀ kind, (before.registry model kind).Sound) :
    ∃ after, before.add deliver model entity = (.error (.event refusal), after) ∧
      after.entities = heard.entities ∧ after.sinks = heard.sinks ∧ before.SameStore model after := by
  obtain ⟨now, madeNow⟩ : ∃ now, (before.onAdd model entity found).model? model = some now := by
    apply Option.isSome_iff_exists.mp
    apply made_setRegistry
    rw [model_bindSlots, made]
    rfl
  have entries : ∀ kind, ((before.onAdd model entity found).registry model kind).Sound := by
    intro kind
    have written : (before.onAdd model entity found).registry model kind = _ :=
      registry_entered made entity found model kind
    rw [written]
    split
    · exact Registry.sound_insert (sound found.kind) found.id entity
    · exact sound kind
  exact ⟨_, add_delivers here made given own reply, rfl, rfl,
    restored_sameStore sound entries (stored_entered made entity found model) madeNow leaves _⟩

theorem delete_refused {deliver : Deliver Outside} {removed : EntityRef} {refusal : EventError}
    (made : before.model? model = some owner) (present : before.stored model kind id = some removed)
    (reply : deliver owner.sink (deletedEvent kind id) (before.onDelete model kind id removed) =
      (.error refusal, heard))
    (leaves : (before.onDelete model kind id removed).Leaves model heard)
    (sound : ∀ kind, (before.registry model kind).Sound) :
    ∃ after, before.delete deliver model kind id = (.error (.event refusal), after) ∧
      after.entities = heard.entities ∧ after.sinks = heard.sinks ∧ before.SameStore model after := by
  obtain ⟨now, madeNow⟩ : ∃ now, (before.onDelete model kind id removed).model? model = some now :=
    Option.isSome_iff_exists.mp (made_setRegistry _ _ _ _ _ (made ▸ rfl))
  have entries : ∀ other, ((before.onDelete model kind id removed).registry model other).Sound := by
    intro other
    have written : (before.onDelete model kind id removed).registry model other = _ :=
      registry_withdrawn made kind id model other
    rw [written]
    split
    · exact Registry.sound_remove (sound kind) id
    · exact sound other
  refine ⟨_, delete_delivers made present reply, rfl, rfl, ?_⟩
  rw [← present]
  exact restored_sameStore sound entries (stored_withdrawn made kind id model) madeNow leaves _

/-- A sink that leaves a model alone, but may list it, and leaves the entities that are spared as they are. -/
structure Reading (hears : Event → Estate Outside → Outcome EventError Outside) (model : ModelRef)
    (spared : EntityRef → Prop) : Prop where
  leaves : ∀ event (estate : Estate Outside), estate.Leaves model (hears event estate).2
  entities : ∀ event (estate : Estate Outside) entity found, spared entity →
    estate.entity? entity = some found → (hears event estate).2.entity? entity = some found

structure AsBefore (model : ModelRef) (spared : EntityRef → Prop) (before after : Estate Outside) :
    Prop where
  entities : ∀ entity found, spared entity → before.entity? entity = some found →
    after.entity? entity = some found
  store : before.SameStore model after

variable {deliver : Deliver Outside} {spared : EntityRef → Prop}

theorem Reading.of_reply {hears : Event → Estate Outside → Outcome EventError Outside}
    (reading : Reading hears model spared) {event : Event} {verdict : Except EventError Unit}
    (reply : hears event before = (verdict, after)) :
    before.Leaves model after ∧ ∀ entity found, spared entity → before.entity? entity = some found →
      after.entity? entity = some found := by
  have left := reading.leaves event before
  have spares := reading.entities event before
  rw [reply] at left spares
  exact ⟨left, spares⟩

theorem asBefore_refl (estate : Estate Outside) : estate.AsBefore model spared estate :=
  ⟨fun _ _ _ here => here, .refl model estate⟩

theorem add_failed {entity : EntityRef} {found : Entity} {cause : ModelError}
    (reading : Reading (deliver owner.sink) model spared) (made : before.model? model = some owner)
    (sound : ∀ kind, (before.registry model kind).Sound) (kept : spared entity)
    (here : before.entity? entity = some found)
    (failed : before.add deliver model entity = (.error cause, after)) :
    (∃ now, after.entity? entity = some now ∧ found.Linked before now) ∧
      before.AsBefore model (fun other => spared other ∧ other ≠ entity) after := by
  have nothing (same : after = before) :
      (∃ now, after.entity? entity = some now ∧ found.Linked before now) ∧
        before.AsBefore model (fun other => spared other ∧ other ≠ entity) after := by
    rw [same]
    exact ⟨⟨found, here, found.linked_refl before⟩, asBefore_refl before⟩
  by_cases unset : found.id.isNil = true
  · rw [add_nil deliver here made unset] at failed
    exact nothing (congrArg Prod.snd failed).symm
  have given : found.id.isNil = false := by simpa using unset
  by_cases own : found.model = model
  · obtain ⟨⟨verdict, heard⟩, reply⟩ : ∃ reply, deliver owner.sink
        (storedEvent entity found (before.stored model found.kind found.id))
        (before.onAdd model entity found) = reply := ⟨_, rfl⟩
    cases verdict with
    | ok _ =>
        rw [add_delivers here made given own reply] at failed
        cases failed
    | error refusal =>
        obtain ⟨leaves, spares⟩ := reading.of_reply reply
        obtain ⟨final, refused, entities, _, store⟩ := add_refused here made given own reply leaves sound
        obtain rfl : final = after := congrArg Prod.snd (refused.symm.trans failed)
        have same : ∀ other, final.entity? other = heard.entity? other := fun other => by
          rw [entity?, entities, entity?]
        obtain ⟨now, bound, linked⟩ := bindSlots_linked here
        refine ⟨⟨now, (same entity).trans (spares entity now kept bound), linked⟩, ?_, store⟩
        rintro other was ⟨keptOther, apart⟩ there
        exact (same other).trans (spares other was keptOther ((bindSlots_other apart before).trans there))
  · rw [add_foreign deliver here made given own] at failed
    exact nothing (congrArg Prod.snd failed).symm

theorem delete_failed {cause : ModelError} (reading : Reading (deliver owner.sink) model spared)
    (made : before.model? model = some owner) (sound : ∀ kind, (before.registry model kind).Sound)
    (failed : before.delete deliver model kind id = (.error cause, after)) :
    before.AsBefore model spared after := by
  cases present : before.stored model kind id with
  | none =>
      rw [delete_absent deliver made present] at failed
      obtain rfl : before = after := congrArg Prod.snd failed
      exact asBefore_refl before
  | some removed =>
      obtain ⟨⟨verdict, heard⟩, reply⟩ : ∃ reply, deliver owner.sink (deletedEvent kind id)
          (before.onDelete model kind id removed) = reply := ⟨_, rfl⟩
      cases verdict with
      | ok _ =>
          rw [delete_delivers made present reply] at failed
          cases failed
      | error refusal =>
          obtain ⟨leaves, spares⟩ := reading.of_reply reply
          obtain ⟨final, refused, entities, _, store⟩ := delete_refused made present reply leaves sound
          obtain rfl : final = after := congrArg Prod.snd (refused.symm.trans failed)
          refine ⟨fun entity found kept there => ?_, store⟩
          have same : final.entity? entity = heard.entity? entity := by rw [entity?, entities, entity?]
          exact same.trans (spares entity found kept there)

/-- Writes of a model whose sink only reads, if they fail, leave the whole store of the model as it was, and
every entity: all but the one that was to be added to the last detail, and that one too but for references
that were set and knew no living target, which may know what was stored under their identities. -/
theorem failed_writes_leave (reading : Reading (deliver owner.sink) model spared)
    (made : before.model? model = some owner) (sound : ∀ kind, (before.registry model kind).Sound) :
    (∀ entity found cause after, spared entity → before.entity? entity = some found →
      before.add deliver model entity = (.error cause, after) →
      (∃ now, after.entity? entity = some now ∧ found.Linked before now) ∧
        before.AsBefore model (fun other => spared other ∧ other ≠ entity) after) ∧
    (∀ kind id cause after, before.delete deliver model kind id = (.error cause, after) →
      before.AsBefore model spared after) :=
  ⟨fun _ _ _ _ kept here failed => add_failed reading made sound kept here failed,
    fun _ _ _ _ failed => delete_failed reading made sound failed⟩

end Estate

theorem Model.sound_new {registry : Registry} (sound : registry.Sound) (sink : SinkRef)
    (kind other : Kind) : ((Model.setRegistry kind registry (.new sink)).registries other).Sound := by
  show (if other = kind then registry else .empty).Sound
  split
  · exact sound
  · exact Registry.sound_empty

def grumbling (model : ModelRef) : Deliver Unit :=
  fun _ _ estate => (.error (.unsupportedPayload "opaque"), (estate.listOf model .system).2)

theorem grumbling_reads (model : ModelRef) (sink : SinkRef) :
    Estate.Reading (grumbling model sink) model fun _ => True where
  leaves _ estate := (Estate.undisturbed_listOf model .system estate).1 model
  entities _ _ _ _ _ here := here

def successor : Entity :=
  { Entity.new ⟨0⟩ .system (.repeating 2) with
    links := fun slot => if slot = .parent then some ⟨.repeating 1, none⟩ else none }

def dynasty : Estate Unit :=
  { Estate.empty () with
    entities := [.new ⟨0⟩ .system (.repeating 1), .new ⟨0⟩ .system (.repeating 2), successor]
    models := [Model.setRegistry .system
      ((Registry.empty.insert (.repeating 1) ⟨0⟩).insert (.repeating 2) ⟨1⟩) (.new (.made 0))]
    held := [.model ⟨0⟩, .entity ⟨2⟩] }

/-- The successor is refused and knows its parent from then on; a deletion of its rival is refused, too. -/
theorem dynasty_stays : ∃ cause after now, dynasty.add (grumbling ⟨0⟩) ⟨0⟩ ⟨2⟩ = (.error cause, after) ∧
    after.entity? ⟨2⟩ = some now ∧ successor.Linked dynasty now ∧
    now.links .parent = some ⟨.repeating 1, some ⟨0⟩⟩ ∧
    dynasty.AsBefore ⟨0⟩ (fun other => True ∧ other ≠ ⟨2⟩) after ∧
    ∃ cause after, dynasty.delete (grumbling ⟨0⟩) ⟨0⟩ .system (.repeating 2) = (.error cause, after) ∧
      dynasty.AsBefore ⟨0⟩ (fun _ => True) after := by
  have leave := Estate.failed_writes_leave (grumbling_reads ⟨0⟩ (.made 0))
    (show dynasty.model? ⟨0⟩ = some _ from rfl)
    (Model.sound_new (Registry.sound_insert (Registry.sound_insert Registry.sound_empty _ _) _ _) _ _)
  obtain ⟨⟨now, there, linked⟩, others⟩ := leave.1 ⟨2⟩ successor _ _ trivial rfl rfl
  refine ⟨_, _, now, rfl, there, linked, ?_, others, _, _, rfl, leave.2 .system (.repeating 2) _ _ rfl⟩
  cases there
  rfl

end Landscape

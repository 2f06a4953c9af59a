import Landscape.Store
import Landscape.Proofs.Store.Registry

/-!
What an operation on the store touches. A registry that is written is read back, and every other one
stays; an entity keeps its kind, its identity and its model for good; and binding the slots of an entity
changes nothing but what those slots know. The surroundings play no part in any of this.
-/

namespace Landscape

structure Card where
  kind : Kind
  id : ResourceId
  model : ModelRef
  deriving DecidableEq

def ResourceId.repeating (byte : UInt8) : ResourceId :=
  ⟨List.replicate 16 byte, List.length_replicate⟩

def Entity.card (entity : Entity) : Card := ⟨entity.kind, entity.id, entity.model⟩

namespace Estate

variable {Outside : Type}

def card? (entity : EntityRef) (estate : Estate Outside) : Option Card :=
  (estate.entity? entity).map Entity.card

def Registered (model : ModelRef) (entity : EntityRef) (estate : Estate Outside) : Prop :=
  ∃ found, estate.entity? entity = some found ∧ found.model = model ∧ found.isRegistered = true

def amid {Other : Type} (outside : Other) (estate : Estate Outside) : Estate Other :=
  ⟨estate.entities, estate.models, estate.sinks, estate.notes, estate.managers, estate.held, outside⟩

theorem model_modifyModel (estate : Estate Outside) (model other : ModelRef)
    (change : Model → Model) :
    (estate.modifyModel model change).model? other =
      if other = model then (estate.model? other).map change else estate.model? other := by
  rw [model?, modifyModel, List.getElem?_modify]
  by_cases same : other = model
  · subst same
    simp [model?]
  · have apart : model.index ≠ other.index := fun equal => same (by
      cases model; cases other; simp_all)
    simp [apart, same, model?]

theorem sink_setRegistry (estate : Estate Outside) (model other : ModelRef) (kind : Kind)
    (registry : Registry) :
    ((estate.setRegistry model kind registry).model? other).map Model.sink =
      (estate.model? other).map Model.sink := by
  rw [setRegistry, model_modifyModel]
  split
  · rw [Option.map_map]
    rfl
  · rfl

theorem registry_setRegistry (estate : Estate Outside) {model : ModelRef} {owner : Model}
    (made : estate.model? model = some owner) (other : ModelRef) (kind otherKind : Kind)
    (registry : Registry) :
    (estate.setRegistry model kind registry).registry other otherKind =
      if other = model ∧ otherKind = kind then registry else estate.registry other otherKind := by
  rw [Estate.registry, setRegistry, model_modifyModel]
  by_cases same : other = model
  · subst same
    by_cases sameKind : otherKind = kind
    · simp [made, Model.setRegistry, sameKind]
    · simp [made, Model.setRegistry, sameKind, Estate.registry]
  · simp [same, Estate.registry]

theorem setRegistry_missing (estate : Estate Outside) {model : ModelRef}
    (missing : estate.model? model = none) (other : ModelRef) (kind otherKind : Kind)
    (registry : Registry) :
    (estate.setRegistry model kind registry).registry other otherKind =
      estate.registry other otherKind := by
  rw [Estate.registry, setRegistry, model_modifyModel]
  by_cases same : other = model
  · subst same
    simp [missing, Estate.registry]
  · simp [same, Estate.registry]

theorem mem_livingModels {estate : Estate Outside} {owner : Model} :
    owner ∈ estate.livingModels ↔
      ∃ model, estate.modelLives model = true ∧ estate.model? model = some owner := by
  rw [livingModels, List.mem_filterMap]
  constructor
  · rintro ⟨index, _, found⟩
    split at found
    · next lives => exact ⟨⟨index⟩, lives, found⟩
    · cases found
  · rintro ⟨model, lives, made⟩
    refine ⟨model.index, List.mem_range.mpr (List.getElem?_eq_some_iff.mp made).1, ?_⟩
    rw [if_pos lives]
    exact made

theorem registry_of_model {estate : Estate Outside} {model : ModelRef} {owner : Model}
    (made : estate.model? model = some owner) (kind : Kind) :
    estate.registry model kind = owner.registries kind := by
  rw [Estate.registry, made, Option.map_some, Option.getD_some]

theorem countOf_registry (estate : Estate Outside) (model : ModelRef) (kind : Kind) :
    estate.countOf model (.entity kind) = (estate.registry model kind).size := by
  rw [countOf, Estate.registry]
  cases estate.model? model <;> rfl

theorem made_of_stored {estate : Estate Outside} {model : ModelRef} {kind : Kind} {id : ResourceId}
    {entity : EntityRef} (held : estate.stored model kind id = some entity) :
    ∃ owner, estate.model? model = some owner := by
  cases made : estate.model? model with
  | none =>
      rw [stored, Estate.registry, made] at held
      cases held
  | some owner => exact ⟨owner, rfl⟩

theorem entity_modifyEntity (estate : Estate Outside) (entity other : EntityRef)
    (change : Entity → Entity) :
    (estate.modifyEntity entity change).entity? other =
      if other = entity then (estate.entity? other).map change else estate.entity? other := by
  rw [entity?, modifyEntity, List.getElem?_modify]
  by_cases same : other = entity
  · subst same
    simp [entity?]
  · have apart : entity.index ≠ other.index := fun equal => same (by
      cases entity; cases other; simp_all)
    simp [apart, same, entity?]

theorem card_modifyEntity (estate : Estate Outside) (entity other : EntityRef)
    (change : Entity → Entity) (keeps : ∀ found, (change found).card = found.card) :
    (estate.modifyEntity entity change).card? other = estate.card? other := by
  rw [card?, entity_modifyEntity]
  split
  · rw [Option.map_map, card?]
    congr 1
    funext found
    exact keeps found
  · rfl

theorem registered_modifyEntity (estate : Estate Outside) (model : ModelRef)
    (entity other : EntityRef) (change : Entity → Entity)
    (keeps : ∀ found, (change found).model = found.model ∧
      (change found).registration = found.registration) :
    (estate.modifyEntity entity change).Registered model other ↔
      estate.Registered model other := by
  unfold Registered
  rw [entity_modifyEntity]
  by_cases same : other = entity
  · simp [same, Entity.isRegistered, (keeps _).1, (keeps _).2]
  · simp [same]

theorem registered_register (estate : Estate Outside) {model : ModelRef} {entity : EntityRef}
    {card : Card} (known : estate.card? entity = some card) (own : card.model = model)
    (other : EntityRef) :
    (estate.modifyEntity entity Entity.register).Registered model other ↔
      other = entity ∨ estate.Registered model other := by
  obtain ⟨found, here, rfl⟩ := Option.map_eq_some_iff.mp known
  unfold Registered
  rw [entity_modifyEntity]
  by_cases same : other = entity
  · subst same
    have mine : found.model = model := own
    simp [here, Entity.register, Entity.isRegistered, mine]
  · simp [same]

theorem card_learnTarget (slot : Slot) (target : EntityRef) (entity : Entity) :
    (entity.learnTarget slot target).card = entity.card := by
  unfold Entity.learnTarget
  split <;> rfl

theorem registration_learnTarget (slot : Slot) (target : EntityRef) (entity : Entity) :
    (entity.learnTarget slot target).model = entity.model ∧
      (entity.learnTarget slot target).registration = entity.registration := by
  unfold Entity.learnTarget
  split <;> exact ⟨rfl, rfl⟩

theorem bindSlot_cases (entity : EntityRef) (estate : Estate Outside) (entry : Slot × Kind) :
    estate.bindSlot entity entry = estate ∨ ∃ target,
      estate.bindSlot entity entry = estate.modifyEntity entity (Entity.learnTarget entry.1 target) := by
  unfold bindSlot
  repeat' split
  all_goals first
    | exact .inl rfl
    | exact .inr ⟨_, rfl⟩

theorem bindSlots_keeps (Kept : Estate Outside → Prop) (entity : EntityRef)
    (step : ∀ (estate : Estate Outside) slot target, Kept estate →
      Kept (estate.modifyEntity entity (Entity.learnTarget slot target)))
    (estate : Estate Outside) (start : Kept estate) : Kept (estate.bindSlots entity) := by
  unfold bindSlots
  split
  · exact start
  · next found here =>
      -- the slots are bound one after the other, whatever kind they are of
      clear here
      generalize found.kind.slots = entries
      induction entries generalizing estate with
      | nil => exact start
      | cons entry rest ih =>
          apply ih
          rcases bindSlot_cases entity estate entry with same | ⟨target, learned⟩
          · rw [same]
            exact start
          · rw [learned]
            exact step estate entry.1 target start

/-- Nothing about the model differs but that its lists may be kept now. -/
structure Leaves (model : ModelRef) (before after : Estate Outside) : Prop where
  made : ∀ owner, before.model? model = some owner →
    ∃ now, after.model? model = some now ∧ now.sink = owner.sink
  store : ∀ kind, after.registry model kind = before.registry model kind ∨
    after.registry model kind = (before.registry model kind).list.2
  cards : ∀ entity card, before.card? entity = some card → after.card? entity = some card
  registered : ∀ entity, after.Registered model entity ↔ before.Registered model entity

theorem Leaves.stored {model : ModelRef} {before after : Estate Outside}
    (leaves : before.Leaves model after) (kind : Kind) (id : ResourceId) :
    after.stored model kind id = before.stored model kind id := by
  rw [Estate.stored, Estate.stored]
  rcases leaves.store kind with same | listed
  · rw [same]
  · rw [listed, Registry.get_list]

theorem Leaves.trans {model : ModelRef} {first second third : Estate Outside}
    (former : first.Leaves model second) (latter : second.Leaves model third) :
    first.Leaves model third where
  made owner here := by
    obtain ⟨now, made, sink⟩ := former.made owner here
    obtain ⟨last, madeLast, sinkLast⟩ := latter.made now made
    exact ⟨last, madeLast, sinkLast.trans sink⟩
  store kind := by
    rcases former.store kind with same | listed <;> rcases latter.store kind with keeps | lists
    · exact .inl (keeps.trans same)
    · exact .inr (lists.trans (same ▸ rfl))
    · exact .inr (keeps.trans listed)
    · exact .inr (by rw [lists, listed, Registry.list_list])
  cards entity card known := latter.cards entity card (former.cards entity card known)
  registered entity := (latter.registered entity).trans (former.registered entity)

/-- Every model is left alone, and so are the surroundings. -/
def Undisturbed (before after : Estate Outside) : Prop :=
  (∀ model, before.Leaves model after) ∧ after.outside = before.outside

theorem Undisturbed.trans {first second third : Estate Outside}
    (former : first.Undisturbed second) (latter : second.Undisturbed third) :
    first.Undisturbed third :=
  ⟨fun model => (former.1 model).trans (latter.1 model), latter.2.trans former.2⟩

theorem undisturbed_of_same {before after : Estate Outside}
    (entities : after.entities = before.entities) (models : after.models = before.models)
    (outside : after.outside = before.outside) : before.Undisturbed after := by
  refine ⟨?_, outside⟩
  intro model
  constructor
  · intro owner here
    rw [model?, ← models] at here
    exact ⟨owner, here, rfl⟩
  · intro kind
    left
    rw [Estate.registry, Estate.registry, model?, model?, models]
  · intro entity card known
    rw [card?, entity?, entities]
    exact known
  · intro entity
    unfold Registered
    rw [entity?, entity?, entities]

theorem undisturbed_modifyEntity (estate : Estate Outside) (entity : EntityRef)
    (change : Entity → Entity)
    (keeps : ∀ found, (change found).card = found.card ∧
      (change found).registration = found.registration) :
    estate.Undisturbed (estate.modifyEntity entity change) := by
  refine ⟨?_, rfl⟩
  intro model
  constructor
  · intro owner here
    exact ⟨owner, here, rfl⟩
  · intro kind
    exact .inl rfl
  · intro other card known
    rw [card_modifyEntity _ _ _ _ fun found => (keeps found).1]
    exact known
  · intro other
    apply registered_modifyEntity
    intro found
    exact ⟨congrArg Card.model (keeps found).1, (keeps found).2⟩

end Estate

end Landscape

import Landscape.Proofs.Store.Frame

/-!
The two writes of a store, each as one delivery between what it does before and what it does after. A
write enters or removes one identity, hands over exactly one event, and on a refusal puts back what that
identity had; no other identity is ever touched.
-/

namespace Landscape.Estate

variable {Outside : Type}

/-- How a write of one identity ends: as it stands if the sink takes it, put back if the sink refuses. -/
def settle (model : ModelRef) (kind : Kind) (id : ResourceId) (previous : Option EntityRef)
    (finish : Estate Outside → Estate Outside) (estate : Estate Outside) :
    Except EventError Unit → Outcome ModelError Outside
  | .ok () => (.ok (), finish estate)
  | .error refusal =>
      (.error (.event refusal), estate.setRegistry model kind
        ((estate.registry model kind).restore id previous))

def entered (model : ModelRef) (entity : EntityRef) (found : Entity) (estate : Estate Outside) :
    Estate Outside :=
  let bound := estate.bindSlots entity
  bound.setRegistry model found.kind ((bound.registry model found.kind).insert found.id entity)

def addHolds (model : ModelRef) (entity : EntityRef) (previous : Option EntityRef) : List Holding :=
  .model model :: .entity entity :: heldEntity previous

theorem models_bindSlots (entity : EntityRef) (estate : Estate Outside) :
    (estate.bindSlots entity).models = estate.models :=
  bindSlots_keeps (fun other => other.models = estate.models) entity
    (fun _ _ _ kept => kept) estate rfl

theorem model_bindSlots (model : ModelRef) (entity : EntityRef) (estate : Estate Outside) :
    (estate.bindSlots entity).model? model = estate.model? model := by
  rw [model?, models_bindSlots, model?]

theorem registry_bindSlots (model : ModelRef) (kind : Kind) (entity : EntityRef)
    (estate : Estate Outside) :
    (estate.bindSlots entity).registry model kind = estate.registry model kind := by
  rw [Estate.registry, model_bindSlots, Estate.registry]

theorem undisturbed_bindSlots (entity : EntityRef) (estate : Estate Outside) :
    estate.Undisturbed (estate.bindSlots entity) :=
  bindSlots_keeps estate.Undisturbed entity
    (fun _ slot target kept => kept.trans (undisturbed_modifyEntity _ _ _ fun found =>
      ⟨card_learnTarget slot target found, (registration_learnTarget slot target found).2⟩))
    estate (undisturbed_of_same rfl rfl rfl)

theorem bindSlot_amid {Other : Type} (outside : Other) (entity : EntityRef)
    (estate : Estate Outside) (entry : Slot × Kind) :
    (estate.amid outside).bindSlot entity entry = (estate.bindSlot entity entry).amid outside := by
  have sameEntity : (estate.amid outside).entity? entity = estate.entity? entity := rfl
  have sameTarget : (estate.amid outside).knownTarget = estate.knownTarget := rfl
  have sameStore : ∀ model kind,
      (estate.amid outside).registry model kind = estate.registry model kind := fun _ _ => rfl
  unfold bindSlot
  simp only [sameEntity, sameTarget, sameStore]
  repeat' split
  all_goals rfl

theorem bindSlots_amid {Other : Type} (outside : Other) (entity : EntityRef)
    (estate : Estate Outside) :
    (estate.amid outside).bindSlots entity = (estate.bindSlots entity).amid outside := by
  have sameEntity : (estate.amid outside).entity? entity = estate.entity? entity := rfl
  unfold bindSlots
  rw [sameEntity]
  split
  · rfl
  · next found here =>
      clear here sameEntity
      generalize found.kind.slots = entries
      induction entries generalizing estate with
      | nil => rfl
      | cons entry rest ih =>
          rw [List.foldl_cons, List.foldl_cons, bindSlot_amid, ih]

theorem entered_amid {Other : Type} (outside : Other) (model : ModelRef) (entity : EntityRef)
    (found : Entity) (estate : Estate Outside) :
    (estate.amid outside).entered model entity found =
      (estate.entered model entity found).amid outside := by
  simp only [entered, bindSlots_amid]
  rfl

theorem registry_entered {model : ModelRef} {owner : Model} {estate : Estate Outside}
    (made : estate.model? model = some owner) (entity : EntityRef) (found : Entity)
    (other : ModelRef) (kind : Kind) :
    (estate.entered model entity found).registry other kind =
      if other = model ∧ kind = found.kind
      then (estate.registry model found.kind).insert found.id entity
      else estate.registry other kind := by
  have bound : (estate.bindSlots entity).model? model = some owner :=
    (model_bindSlots model entity estate).trans made
  rw [entered, registry_setRegistry _ bound, registry_bindSlots, registry_bindSlots]

theorem stored_entered {model : ModelRef} {owner : Model} {estate : Estate Outside}
    (made : estate.model? model = some owner) (entity : EntityRef) (found : Entity)
    (other : ModelRef) (kind : Kind) (id : ResourceId) :
    (estate.entered model entity found).stored other kind id =
      if other = model ∧ kind = found.kind ∧ id = found.id then some entity
      else estate.stored other kind id := by
  rw [stored, registry_entered made, stored]
  by_cases same : other = model ∧ kind = found.kind
  · obtain ⟨rfl, rfl⟩ := same
    simp [Registry.get_insert]
  · rw [if_neg same, if_neg fun all => same ⟨all.1, all.2.1⟩]

/-- What the sink of a model finds when it hears of an entity that is being added. -/
def onAdd (model : ModelRef) (entity : EntityRef) (found : Entity) (estate : Estate Outside) :
    Estate Outside :=
  (estate.entered model entity found).hold
    (addHolds model entity (estate.stored model found.kind found.id))

theorem onAdd_amid {Other : Type} (outside : Other) (model : ModelRef) (entity : EntityRef)
    (found : Entity) (estate : Estate Outside) :
    (estate.amid outside).onAdd model entity found =
      (estate.onAdd model entity found).amid outside := by
  rw [onAdd, entered_amid]
  rfl

theorem outside_onAdd (model : ModelRef) (entity : EntityRef) (found : Entity)
    (estate : Estate Outside) : (estate.onAdd model entity found).outside = estate.outside :=
  (undisturbed_bindSlots entity estate).2

/-- An entity with an identity that was made for the model is entered, handed over once, and then either
registered or taken back. -/
theorem add_delivers {deliver : Deliver Outside} {model : ModelRef} {owner : Model}
    {entity : EntityRef} {found : Entity} {estate after : Estate Outside}
    {verdict : Except EventError Unit}
    (here : estate.entity? entity = some found) (made : estate.model? model = some owner)
    (given : found.id.isNil = false) (own : found.model = model)
    (reply : deliver owner.sink
        (storedEvent entity found (estate.stored model found.kind found.id))
        (estate.onAdd model entity found) = (verdict, after)) :
    estate.add deliver model entity =
      settle model found.kind found.id (estate.stored model found.kind found.id)
        (modifyEntity entity Entity.register)
        (after.release (addHolds model entity (estate.stored model found.kind found.id)))
        verdict := by
  simp only [stored, onAdd, entered, registry_bindSlots, addHolds] at reply
  simp only [add, here, made, given, own, ne_eq, not_true_eq_false, if_false, holding,
    registry_bindSlots, stored, addHolds, Bool.false_eq_true, reply]
  cases verdict <;> rfl

theorem add_nil (deliver : Deliver Outside) {model : ModelRef} {owner : Model}
    {entity : EntityRef} {found : Entity} {estate : Estate Outside}
    (here : estate.entity? entity = some found) (made : estate.model? model = some owner)
    (unset : found.id.isNil = true) :
    estate.add deliver model entity = (.error .identityNotSet, estate) := by
  simp [add, here, made, unset]

theorem add_foreign (deliver : Deliver Outside) {model : ModelRef} {owner : Model}
    {entity : EntityRef} {found : Entity} {estate : Estate Outside}
    (here : estate.entity? entity = some found) (made : estate.model? model = some owner)
    (given : found.id.isNil = false) (foreign : found.model ≠ model) :
    estate.add deliver model entity = (.error (.modelMismatch found.id), estate) := by
  simp [add, here, made, given, foreign]

def deleteHolds (model : ModelRef) (removed : EntityRef) : List Holding :=
  [.model model, .entity removed]

def withdrawn (model : ModelRef) (kind : Kind) (id : ResourceId) (estate : Estate Outside) :
    Estate Outside :=
  estate.setRegistry model kind ((estate.registry model kind).remove id)

theorem registry_withdrawn {model : ModelRef} {owner : Model} {estate : Estate Outside}
    (made : estate.model? model = some owner) (kind : Kind) (id : ResourceId) (other : ModelRef)
    (otherKind : Kind) :
    (estate.withdrawn model kind id).registry other otherKind =
      if other = model ∧ otherKind = kind then (estate.registry model kind).remove id
      else estate.registry other otherKind :=
  registry_setRegistry estate made other kind otherKind _

theorem stored_withdrawn {model : ModelRef} {owner : Model} {estate : Estate Outside}
    (made : estate.model? model = some owner) (kind : Kind) (id : ResourceId) (other : ModelRef)
    (otherKind : Kind) (otherId : ResourceId) :
    (estate.withdrawn model kind id).stored other otherKind otherId =
      if other = model ∧ otherKind = kind ∧ otherId = id then none
      else estate.stored other otherKind otherId := by
  rw [stored, registry_withdrawn made, stored]
  by_cases same : other = model ∧ otherKind = kind
  · obtain ⟨rfl, rfl⟩ := same
    simp [Registry.get_remove]
  · rw [if_neg same, if_neg fun all => same ⟨all.1, all.2.1⟩]

def onDelete (model : ModelRef) (kind : Kind) (id : ResourceId) (removed : EntityRef)
    (estate : Estate Outside) : Estate Outside :=
  (estate.withdrawn model kind id).hold (deleteHolds model removed)

/-- An identity that is stored is withdrawn, handed over once, and stays away unless refused. -/
theorem delete_delivers {deliver : Deliver Outside} {model : ModelRef} {owner : Model}
    {kind : Kind} {id : ResourceId} {removed : EntityRef} {estate after : Estate Outside}
    {verdict : Except EventError Unit} (made : estate.model? model = some owner)
    (present : estate.stored model kind id = some removed)
    (reply : deliver owner.sink (deletedEvent kind id) (estate.onDelete model kind id removed) =
      (verdict, after)) :
    estate.delete deliver model kind id =
      settle model kind id (some removed) (fun released => released)
        (after.release (deleteHolds model removed)) verdict := by
  rw [stored] at present
  simp only [onDelete, withdrawn, deleteHolds] at reply
  simp only [delete, made, present, holding, deleteHolds, reply]
  cases verdict <;> rfl

theorem delete_absent (deliver : Deliver Outside) {model : ModelRef} {owner : Model}
    {kind : Kind} {id : ResourceId} {estate : Estate Outside}
    (made : estate.model? model = some owner) (absent : estate.stored model kind id = none) :
    estate.delete deliver model kind id = (.error (.notFound (.entity kind) id), estate) := by
  rw [stored] at absent
  simp only [delete, made, absent]

theorem stored_restored {model : ModelRef} {owner : Model} {estate : Estate Outside}
    (made : estate.model? model = some owner) (kind : Kind) (id : ResourceId)
    (previous : Option EntityRef) (other : ModelRef) (otherKind : Kind) (otherId : ResourceId) :
    (estate.setRegistry model kind ((estate.registry model kind).restore id previous)).stored
        other otherKind otherId =
      if other = model ∧ otherKind = kind ∧ otherId = id then previous
      else estate.stored other otherKind otherId := by
  rw [stored, registry_setRegistry estate made, stored]
  by_cases same : other = model ∧ otherKind = kind
  · obtain ⟨rfl, rfl⟩ := same
    simp [Registry.get_restore]
  · rw [if_neg same, if_neg fun all => same ⟨all.1, all.2.1⟩]

structure Becomes (before after : Estate Outside)
    (held : ModelRef → Kind → ResourceId → Option EntityRef) : Prop where
  made : ∀ model, (before.model? model).isSome → (after.model? model).isSome
  outside : after.outside = before.outside
  stored : ∀ model kind id, after.stored model kind id = held model kind id

def contents (estate : Estate Outside) : ModelRef → Kind → ResourceId → Option EntityRef :=
  fun model kind id => estate.stored model kind id

def contentsWith (model : ModelRef) (kind : Kind) (id : ResourceId) (value : Option EntityRef)
    (estate : Estate Outside) : ModelRef → Kind → ResourceId → Option EntityRef :=
  fun other otherKind otherId =>
    if other = model ∧ otherKind = kind ∧ otherId = id then value
    else estate.stored other otherKind otherId

inductive Turns : Operation → Option EntityRef → Option EntityRef → Prop where
  | create {entity} : Turns .create none (some entity)
  | update {former entity} : Turns .update (some former) (some entity)
  | delete {former} : Turns .delete (some former) none

/-- Nothing happens at all, or one identity is given a value, a sink hears of just that, and if it
refuses the identity gets back what it had. -/
def OneWrite (model : ModelRef) (start : Estate Outside)
    (final : Deliver Outside → Estate Outside) : Prop :=
  (∀ deliver, final deliver = start) ∨
    (start.model? model).isSome ∧ ∃ sink event found kind id value,
      event.resourceType = .entity kind ∧ event.resourceId = id ∧
      Turns event.operation (start.stored model kind id) value ∧
      start.Becomes found (start.contentsWith model kind id value) ∧
      ∀ deliver : Deliver Outside,
        let reply := deliver sink event found
        (reply.2.model? model).isSome →
          reply.2.Becomes (final deliver)
            (if reply.1.isOk then reply.2.contents
            else reply.2.contentsWith model kind id (start.stored model kind id))

theorem made_setRegistry (estate : Estate Outside) (model other : ModelRef) (kind : Kind)
    (registry : Registry) (made : (estate.model? other).isSome) :
    ((estate.setRegistry model kind registry).model? other).isSome := by
  have sinks := congrArg Option.isSome (sink_setRegistry estate model other kind registry)
  rw [Option.isSome_map, Option.isSome_map] at sinks
  exact sinks.trans made

theorem becomes_same {before after : Estate Outside} (models : after.models = before.models)
    (outside : after.outside = before.outside) : before.Becomes after before.contents where
  made model isMade := by
    rw [model?, models]
    exact isMade
  outside := outside
  stored model kind id := by
    rw [stored, Estate.registry, model?, models]
    rfl

theorem becomes_restored {model : ModelRef} {after : Estate Outside}
    (made : (after.model? model).isSome) (holdings : List Holding) (kind : Kind)
    (id : ResourceId) (previous : Option EntityRef) :
    after.Becomes ((after.release holdings).setRegistry model kind
        (((after.release holdings).registry model kind).restore id previous))
      (after.contentsWith model kind id previous) := by
  obtain ⟨now, madeNow⟩ := Option.isSome_iff_exists.mp made
  have released : (after.release holdings).model? model = some now := madeNow
  exact ⟨fun _ isMade => made_setRegistry _ _ _ _ _ isMade, rfl,
    stored_restored released kind id previous⟩

theorem turns_stored (entity : EntityRef) (found : Entity) (previous : Option EntityRef) :
    Turns (storedEvent entity found previous).operation previous (some entity) := by
  cases previous with
  | none => exact .create
  | some former => exact .update

def OneWriteOf (model : ModelRef) (kind : Kind) (id : ResourceId) (start : Estate Outside)
    (final : Deliver Outside → Outcome ModelError Outside) : Prop :=
  (∃ answer, ∀ deliver, final deliver = (answer, start)) ∨
    (start.model? model).isSome ∧ ∃ sink event found value,
      event.resourceType = .entity kind ∧ event.resourceId = id ∧
      Turns event.operation (start.stored model kind id) value ∧
      start.Becomes found (start.contentsWith model kind id value) ∧
      ∀ deliver : Deliver Outside,
        let reply := deliver sink event found
        ((final deliver).1 = .ok () ↔ reply.1.isOk = true) ∧
        ((reply.2.model? model).isSome →
          reply.2.Becomes (final deliver).2
            (if reply.1.isOk then reply.2.contents
            else reply.2.contentsWith model kind id (start.stored model kind id)))

theorem OneWriteOf.oneWrite {model : ModelRef} {kind : Kind} {id : ResourceId}
    {start : Estate Outside} {final : Deliver Outside → Outcome ModelError Outside}
    (writes : start.OneWriteOf model kind id final) :
    start.OneWrite model fun deliver => (final deliver).2 := by
  rcases writes with ⟨answer, still⟩ | ⟨isMade, sink, event, found, value, typed, named, turns,
    entered, ends⟩
  · exact .inl fun deliver => congrArg Prod.snd (still deliver)
  · exact .inr ⟨isMade, sink, event, found, kind, id, value, typed, named, turns, entered,
      fun deliver => (ends deliver).2⟩

theorem add_writes_of (model : ModelRef) {entity : EntityRef} {found : Entity}
    {estate : Estate Outside} (here : estate.entity? entity = some found) :
    estate.OneWriteOf model found.kind found.id fun deliver => estate.add deliver model entity := by
  cases made : estate.model? model with
  | none => exact .inl ⟨.ok (), fun deliver => by simp only [add, here, made]⟩
  | some owner =>
      by_cases unset : found.id.isNil = true
      · exact .inl ⟨_, fun deliver => add_nil deliver here made unset⟩
      have given : found.id.isNil = false := by simpa using unset
      by_cases own : found.model = model
      · refine .inr ⟨made ▸ rfl, owner.sink, storedEvent entity found _, estate.onAdd model entity found,
          some entity, rfl, rfl, turns_stored entity found _,
          ⟨fun other isMade => made_setRegistry _ _ _ _ _ ?_,
            outside_onAdd model entity found estate, stored_entered made entity found⟩,
          fun deliver => ?_⟩
        · rw [model_bindSlots]
          exact isMade
        · obtain ⟨⟨verdict, after⟩, reply⟩ : ∃ reply, deliver owner.sink
              (storedEvent entity found (estate.stored model found.kind found.id))
              (estate.onAdd model entity found) = reply := ⟨_, rfl⟩
          simp only [add_delivers here made given own reply]
          rw [reply]
          cases verdict with
          | ok _ => exact ⟨iff_of_true rfl rfl, fun _ => becomes_same rfl rfl⟩
          | error refusal =>
              exact ⟨iff_of_false nofun nofun, fun reached => becomes_restored reached _ _ _ _⟩
      · exact .inl ⟨_, fun deliver => add_foreign deliver here made given own⟩

theorem add_writes (model : ModelRef) (entity : EntityRef) (estate : Estate Outside) :
    estate.OneWrite model fun deliver => (estate.add deliver model entity).2 := by
  cases here : estate.entity? entity with
  | none => exact .inl fun deliver => by simp [add, here]
  | some found => exact (add_writes_of model here).oneWrite

theorem delete_writes_of (model : ModelRef) (kind : Kind) (id : ResourceId)
    (estate : Estate Outside) :
    estate.OneWriteOf model kind id fun deliver => estate.delete deliver model kind id := by
  cases made : estate.model? model with
  | none => exact .inl ⟨.ok (), fun deliver => by simp only [delete, made]⟩
  | some owner =>
      cases present : estate.stored model kind id with
      | none => exact .inl ⟨_, fun deliver => delete_absent deliver made present⟩
      | some removed =>
          refine .inr ⟨made ▸ rfl, owner.sink, deletedEvent kind id, estate.onDelete model kind id removed,
            none, rfl, rfl, present ▸ .delete,
            ⟨fun other isMade => made_setRegistry _ _ _ _ _ isMade, rfl,
              stored_withdrawn made kind id⟩,
            fun deliver => ?_⟩
          obtain ⟨⟨verdict, after⟩, reply⟩ : ∃ reply, deliver owner.sink (deletedEvent kind id)
              (estate.onDelete model kind id removed) = reply := ⟨_, rfl⟩
          simp only [delete_delivers made present reply]
          rw [reply, present]
          cases verdict with
          | ok _ => exact ⟨iff_of_true rfl rfl, fun _ => becomes_same rfl rfl⟩
          | error refusal =>
              exact ⟨iff_of_false nofun nofun, fun reached => becomes_restored reached _ _ _ _⟩

theorem delete_writes (model : ModelRef) (kind : Kind) (id : ResourceId)
    (estate : Estate Outside) :
    estate.OneWrite model fun deliver => (estate.delete deliver model kind id).2 :=
  (delete_writes_of model kind id estate).oneWrite

end Landscape.Estate

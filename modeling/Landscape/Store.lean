import Landscape.Reference

/-!
The store of a model: adding, deleting and listing entities. Both writes happen before the sink hears
of them, so that the sink sees the model as it will be; if the sink refuses, the store goes back to
what it held under that identity before.
-/

namespace Landscape

namespace Estate

variable {Outside : Type}

def stored (model : ModelRef) (kind : Kind) (id : ResourceId) (estate : Estate Outside) :
    Option EntityRef :=
  (estate.registry model kind).get? id

def countOf (model : ModelRef) (type : ResourceType) (estate : Estate Outside) : Nat :=
  ((estate.model? model).map (Model.sizeOf type)).getD 0

def listOf (model : ModelRef) (kind : Kind) (estate : Estate Outside) :
    List EntityRef × Estate Outside :=
  let (entities, registry) := (estate.registry model kind).list
  (entities, estate.setRegistry model kind registry)

def storedEvent (entity : EntityRef) (found : Entity) (previous : Option EntityRef) : Event where
  resourceType := .entity found.kind
  operation := if previous.isSome then .update else .create
  resourceId := found.id
  payload := [.resource entity]

def deletedEvent (kind : Kind) (id : ResourceId) : Event where
  resourceType := .entity kind
  operation := .delete
  resourceId := id
  payload := []

def heldEntity : Option EntityRef → List Holding
  | none => []
  | some entity => [.entity entity]

/-- Stores an entity that was made for this model, in place of another with its identity. -/
def add (deliver : Deliver Outside) (model : ModelRef) (entity : EntityRef)
    (estate : Estate Outside) : Outcome ModelError Outside :=
  match estate.entity? entity, estate.model? model with
  | some found, some owner =>
      if found.id.isNil then (.error .identityNotSet, estate)
      else if found.model ≠ model then (.error (.modelMismatch found.id), estate)
      else
        let estate := estate.bindSlots entity
        let registry := estate.registry model found.kind
        let previous := registry.get? found.id
        let estate := estate.setRegistry model found.kind (registry.insert found.id entity)
        let (answer, estate) :=
          estate.holding (.model model :: .entity entity :: heldEntity previous)
            (deliver owner.sink (storedEvent entity found previous))
        match answer with
        | .ok () => (.ok (), estate.modifyEntity entity Entity.register)
        | .error refusal =>
            (.error (.event refusal), estate.setRegistry model found.kind
              ((estate.registry model found.kind).restore found.id previous))
  | _, _ => (.ok (), estate)

def delete (deliver : Deliver Outside) (model : ModelRef) (kind : Kind) (id : ResourceId)
    (estate : Estate Outside) : Outcome ModelError Outside :=
  match estate.model? model with
  | none => (.ok (), estate)
  | some owner =>
      let registry := estate.registry model kind
      match registry.get? id with
      | none => (.error (.notFound (.entity kind) id), estate)
      | some removed =>
          let estate := estate.setRegistry model kind (registry.remove id)
          let (answer, estate) :=
            estate.holding [.model model, .entity removed]
              (deliver owner.sink (deletedEvent kind id))
          match answer with
          | .ok () => (.ok (), estate)
          | .error refusal =>
              (.error (.event refusal), estate.setRegistry model kind
                ((estate.registry model kind).insert id removed))

end Estate

end Landscape

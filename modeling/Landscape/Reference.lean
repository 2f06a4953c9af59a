import Landscape.Report

/-!
References between entities. A slot points at an identity, and at the target itself once the target is
known; the model stays the owner. Following a slot answers the known target while it lives, and looks
the identity up otherwise.
-/

namespace Landscape

namespace Estate

variable {Outside : Type}

def storedFor (found : Entity) (kind : Kind) (id : ResourceId) (estate : Estate Outside) :
    Option EntityRef :=
  if estate.modelLives found.model then (estate.registry found.model kind).get? id else none

def pointById (deliver : Deliver Outside) (entity : EntityRef) (slot : Slot) (id : ResourceId)
    (estate : Estate Outside) : Outcome ModelError Outside :=
  let target := do
    let found ← estate.entity? entity
    let kind ← found.kind.target? slot
    estate.storedFor found kind id
  estate.update deliver entity (Entity.setLink slot ⟨id, target⟩)

def pointAt (deliver : Deliver Outside) (entity : EntityRef) (slot : Slot) (target : EntityRef)
    (estate : Estate Outside) : Outcome ModelError Outside :=
  match estate.entity? target with
  | none => (.ok (), estate)
  | some found => estate.update deliver entity (Entity.setLink slot ⟨found.id, some target⟩)

/-- Follows a slot. A target found by its identity is known from then on. -/
def follow (entity : EntityRef) (slot : Slot) (estate : Estate Outside) :
    Except ModelError (Option EntityRef) × Estate Outside :=
  match estate.entity? entity with
  | none => (.ok none, estate)
  | some found =>
      match found.links slot, found.kind.target? slot with
      | some link, some kind =>
          match estate.knownTarget link with
          | some target => (.ok (some target), estate)
          | none =>
              if estate.modelLives found.model then
                match (estate.registry found.model kind).get? link.id with
                | some target =>
                    (.ok (some target), estate.modifyEntity entity (Entity.learnTarget slot target))
                | none => (.error (.notFound (.entity kind) link.id), estate)
              else (.error .modelDropped, estate)
      | _, _ => (.ok none, estate)

/-- Lets a slot know its target if that is stored and no other is known. -/
def bindSlot (entity : EntityRef) (estate : Estate Outside) (entry : Slot × Kind) :
    Estate Outside :=
  match estate.entity? entity with
  | none => estate
  | some found =>
      match found.links entry.1 with
      | none => estate
      | some link =>
          if (estate.knownTarget link).isSome then estate
          else match (estate.registry found.model entry.2).get? link.id with
            | none => estate
            | some target => estate.modifyEntity entity (Entity.learnTarget entry.1 target)

def bindSlots (entity : EntityRef) (estate : Estate Outside) : Estate Outside :=
  match estate.entity? entity with
  | none => estate
  | some found => found.kind.slots.foldl (bindSlot entity) estate

end Estate

end Landscape

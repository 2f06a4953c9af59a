import Landscape.Entity

/-!
The stored entities of one kind, by identity. The list of all of them is kept once it was asked for,
until the next write that changes what is stored.
-/

namespace Landscape

structure Registry where
  entries : List (ResourceId × EntityRef)
  kept : Option (List EntityRef)
  deriving DecidableEq

namespace Registry

def empty : Registry := ⟨[], none⟩

def get? (id : ResourceId) (registry : Registry) : Option EntityRef :=
  (registry.entries.find? fun entry => entry.1 = id).map Prod.snd

def size (registry : Registry) : Nat :=
  registry.entries.length

def members (registry : Registry) : List EntityRef :=
  registry.entries.map Prod.snd

def without (id : ResourceId) (entries : List (ResourceId × EntityRef)) :
    List (ResourceId × EntityRef) :=
  entries.filter fun entry => entry.1 ≠ id

def insert (id : ResourceId) (entity : EntityRef) (registry : Registry) : Registry :=
  ⟨without id registry.entries ++ [(id, entity)], none⟩

/-- Removing an identity that is not stored changes nothing, not even the kept list. -/
def remove (id : ResourceId) (registry : Registry) : Registry :=
  match registry.get? id with
  | none => registry
  | some _ => ⟨without id registry.entries, none⟩

def restore (id : ResourceId) (previous : Option EntityRef) (registry : Registry) : Registry :=
  match previous with
  | some entity => registry.insert id entity
  | none => registry.remove id

def list (registry : Registry) : List EntityRef × Registry :=
  match registry.kept with
  | some entities => (entities, registry)
  | none => (registry.members, { registry with kept := some registry.members })

end Registry

end Landscape

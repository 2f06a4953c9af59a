import Landscape.Store

/-!
Full descriptions of entities, links and models on one line, for people who look into a running
program. A description shows everything an entity has, and of a link whether its target is known.
-/

namespace Landscape

def Link.described (kind : Kind) (known : Bool) (link : Link) : String :=
  Text.record "LazyRef" [("type", kind.described), ("id", link.id.described),
    ("resolved", Text.flag known)]

namespace Entity

def dataName (kind : Kind) : String := kind.described ++ "Data"

def linkFields (isKnown : Link → Bool) (entity : Entity) : List (String × String) :=
  entity.kind.slots.map fun (slot, kind) =>
    (slot.name, Text.optional (fun link => link.described kind (isKnown link)) (entity.links slot))

def idList (ids : List ResourceId) : String :=
  Text.bracketed (ids.map ResourceId.described)

def detailFields : Details → List (String × String) × List (String × String)
  | .plain => ([], [])
  | .system version isAbstract =>
      ([("version", version.described), ("is_abstract", Text.flag isAbstract)], [])
  | .api version apiType =>
      ([("version", version.described), ("api_type", apiType.described)], [])
  | .component version consumes provides =>
      ([("version", version.described)],
        [("consumes", idList consumes), ("provides", idList provides)])
  | .finding resources =>
      ([], [("resources", Text.bracketed (resources.map ResourceRef.described))])

def describedData (isKnown : Link → Bool) (entity : Entity) : String :=
  let (before, after) := detailFields entity.details
  match before ++ entity.linkFields isKnown ++ after with
  | [] => dataName entity.kind
  | fields => Text.record (dataName entity.kind) fields

def described (isKnown : Link → Bool) (entity : Entity) : String :=
  Text.record entity.kind.name [
    ("id", entity.id.described),
    ("registration", entity.registration.name),
    ("display_name", Text.quote entity.displayName),
    ("description", Text.quote entity.description),
    ("data", entity.describedData isKnown),
    ("annotations", Text.quotedMap entity.annotations.pairs)]

end Entity

namespace Estate

variable {Outside : Type}

def isKnown (estate : Estate Outside) (link : Link) : Bool :=
  (estate.knownTarget link).isSome

def describedModel (model : ModelRef) (estate : Estate Outside) : String :=
  Text.openRecord "Model" <| ResourceType.all.filterMap fun type =>
    let count := estate.countOf model type
    if count = 0 then none else some (type.name, toString count)

end Estate

end Landscape

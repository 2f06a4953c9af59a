import Landscape.Version

/-!
The shapes in which changes travel to subscribers: annotation entries, snapshots of entities and
forwarded events, each with its JSON text. A snapshot leaves out an absent description.
-/

namespace Landscape

structure AnnotationEntry where
  key : String
  value : String
  deriving DecidableEq

namespace AnnotationEntry

def toJson (entry : AnnotationEntry) : Json :=
  .object [Json.member "key" (.text entry.key), Json.member "value" (.text entry.value)]

def ofJson? (json : Json) : Option AnnotationEntry := do
  match ← json.fields? ["key", "value"] 2 with
  | [key, value] =>
      return {
        key := ← Json.required? Json.text? key
        value := ← Json.required? Json.text? value }
  | _ => none

def wire (entry : AnnotationEntry) : String := entry.toJson.compact

end AnnotationEntry

structure Snapshot where
  id : ResourceId
  displayName : String
  description : Option String
  annotations : List AnnotationEntry
  deriving DecidableEq

namespace Snapshot

def toJsonBy (text : ResourceId → String) (snapshot : Snapshot) : Json :=
  .object ([Json.member "id" (.text (text snapshot.id)),
      Json.member "displayName" (.text snapshot.displayName)]
    ++ (snapshot.description.map fun text => Json.member "description" (.text text)).toList
    ++ [Json.member "annotations" (.array (snapshot.annotations.map AnnotationEntry.toJson))])

def ofJsonBy? (parse? : String → Option ResourceId) (json : Json) : Option Snapshot := do
  match ← json.fields? ["id", "displayName", "description", "annotations"] 4 with
  | [id, displayName, description, annotations] =>
      return {
        id := ← Json.required? (Json.textBy? parse?) id
        displayName := ← Json.required? Json.text? displayName
        description := ← Json.optional? Json.text? description
        annotations := ← Json.required? (Json.listOf? AnnotationEntry.ofJson?) annotations }
  | _ => none

def toJson : Snapshot → Json := toJsonBy ResourceId.text

def ofJson? : Json → Option Snapshot := ofJsonBy? ResourceId.parse?

def wire (snapshot : Snapshot) : String := snapshot.toJson.compact

def ofWire? (text : String) : Option Snapshot := (Json.parse? text).bind ofJson?

end Snapshot

structure ForwardedEvent where
  resourceType : ResourceType
  operation : Operation
  resourceId : ResourceId
  objectsJson : List String
  deriving DecidableEq

namespace ForwardedEvent

def toJsonBy (text : ResourceId → String) (event : ForwardedEvent) : Json :=
  .object [Json.member "resourceType" event.resourceType.toJson,
    Json.member "operation" event.operation.toJson,
    Json.member "resourceId" (.text (text event.resourceId)),
    Json.member "objectsJson" (.array (event.objectsJson.map Json.text))]

def ofJsonBy? (parse? : String → Option ResourceId) (json : Json) : Option ForwardedEvent := do
  match ← json.fields? ["resourceType", "operation", "resourceId", "objectsJson"] 4 with
  | [resourceType, operation, resourceId, objectsJson] =>
      return {
        resourceType := ← Json.required? ResourceType.ofJson? resourceType
        operation := ← Json.required? Operation.ofJson? operation
        resourceId := ← Json.required? (Json.textBy? parse?) resourceId
        objectsJson := ← Json.required? (Json.listOf? Json.text?) objectsJson }
  | _ => none

def toJson : ForwardedEvent → Json := toJsonBy ResourceId.text

def ofJson? : Json → Option ForwardedEvent := ofJsonBy? ResourceId.parse?

def wire (event : ForwardedEvent) : String := event.toJson.compact

def ofWire? (text : String) : Option ForwardedEvent := (Json.parse? text).bind ofJson?

end ForwardedEvent

end Landscape

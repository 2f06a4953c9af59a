import Landscape.Identity
import Landscape.Instant.Reader
import Landscape.Json.Reader
import Landscape.Json.Record
import Landscape.Text.Quoted
import Landscape.Vocabulary

/-!
Values that entities are described by: versions with their lifecycle dates, and typed references
to stored entities. Two versions are equal when their texts and all three dates are.
-/

namespace Landscape

namespace ResourceId

def toJson (id : ResourceId) : Json := .text id.text

def ofJson? : Json → Option ResourceId := Json.textBy? parse?

def described (id : ResourceId) : String := "ResourceId(" ++ id.text ++ ")"

end ResourceId

def ResourceType.toJson (type : ResourceType) : Json := .text type.name

def ResourceType.ofJson? (json : Json) : Option ResourceType := json.name?.bind ofName?

def Operation.toJson (operation : Operation) : Json := .text operation.name

def Operation.ofJson? (json : Json) : Option Operation := json.name?.bind ofName?

def ApiType.toJson (type : ApiType) : Json := .text type.name

def ApiType.ofJson? (json : Json) : Option ApiType := json.name?.bind ofName?

structure Version where
  version : String
  availableFrom : Option Instant
  deprecatedFrom : Option Instant
  terminatedFrom : Option Instant
  deriving DecidableEq

namespace Version

def new (version : String) : Version := ⟨version, none, none, none⟩

instance : Inhabited Version := ⟨new ""⟩

def dateMember (text : Instant → String) (name : String) (date : Option Instant) : List Json.Member :=
  (date.map fun instant => Json.member name (.text (text instant))).toList

/-- The JSON of a version with its dates in a given form. Absent dates are not written. -/
def toJsonBy (text : Instant → String) (version : Version) : Json :=
  .object (Json.member "version" (.text version.version)
    :: dateMember text "availableFrom" version.availableFrom
    ++ dateMember text "deprecatedFrom" version.deprecatedFrom
    ++ dateMember text "terminatedFrom" version.terminatedFrom)

def ofJsonBy? (parse? : String → Option Instant) (json : Json) : Option Version := do
  match ← json.fields? ["version", "availableFrom", "deprecatedFrom", "terminatedFrom"] 1 with
  | [version, availableFrom, deprecatedFrom, terminatedFrom] =>
      return {
        version := ← Json.required? Json.text? version
        availableFrom := ← Json.optional? (Json.textBy? parse?) availableFrom
        deprecatedFrom := ← Json.optional? (Json.textBy? parse?) deprecatedFrom
        terminatedFrom := ← Json.optional? (Json.textBy? parse?) terminatedFrom }
  | _ => none

def toJson : Version → Json := toJsonBy Instant.text

def ofJson? : Json → Option Version := ofJsonBy? Instant.parse?

def wire (version : Version) : String := version.toJson.compact

def described (version : Version) : String :=
  Text.record "Version" [
    ("version", Text.quote version.version),
    ("available_from", Text.optional Instant.text version.availableFrom),
    ("deprecated_from", Text.optional Instant.text version.deprecatedFrom),
    ("terminated_from", Text.optional Instant.text version.terminatedFrom)]

end Version

structure ResourceRef where
  resourceId : ResourceId
  resourceType : ResourceType
  deriving DecidableEq

namespace ResourceRef

def toJson (reference : ResourceRef) : Json :=
  .object [Json.member "resourceId" reference.resourceId.toJson,
    Json.member "resourceType" reference.resourceType.toJson]

def ofJson? (json : Json) : Option ResourceRef := do
  match ← json.fields? ["resourceId", "resourceType"] 2 with
  | [resourceId, resourceType] =>
      return {
        resourceId := ← Json.required? ResourceId.ofJson? resourceId
        resourceType := ← Json.required? ResourceType.ofJson? resourceType }
  | _ => none

end ResourceRef

def Kind.described : Kind → String
  | .api => "Api"
  | .apiInstance => "ApiInstance"
  | kind => kind.name

def ResourceType.described : ResourceType → String
  | .unknown => "Unknown"
  | .entity kind => kind.described
  | .annotations => "Annotations"

def ApiType.described : ApiType → String
  | .unknown => "Unknown"
  | .other => "Other"
  | .graphQL => "GraphQl"
  | .grpc => "Grpc"
  | .openAPI => "OpenApi"

def ResourceRef.described (reference : ResourceRef) : String :=
  Text.record "ResourceRef" [
    ("resource_id", reference.resourceId.described),
    ("resource_type", reference.resourceType.described)]

end Landscape

import Landscape.Proofs.Codec
import Landscape.Wire

/-!
What travels to subscribers reads back as what was sent: annotation entries, snapshots of entities, and
forwarded events, which carry the texts of such objects within their own. This is so whatever the texts of
JSON and of identities are, as long as those read back.
-/

namespace Landscape

namespace Json

theorem listOf_map {Value : Type} {read : Json → Option Value} {write : Value → Json}
    (reads : ∀ value, read (write value) = some value) (values : List Value) :
    listOf? read (.array (values.map write)) = some values := by
  rw [listOf?, List.mapM_map]
  induction values with
  | nil => rfl
  | cons value rest ih =>
      rw [List.mapM_cons]
      simp only [Function.comp_def, reads] at ih ⊢
      simp [ih]

theorem plainItems_map {Value : Type} {write : Value → Json} (plain : ∀ value, Plain (write value))
    (values : List Value) : PlainItems (values.map write) := by
  induction values with
  | nil => trivial
  | cons value rest ih => exact ⟨plain value, ih⟩

end Json

theorem ResourceType.ofName_name (type : ResourceType) : ofName? type.name = some type := by
  cases type with
  | entity kind => cases kind <;> rfl
  | _ => rfl

theorem ResourceType.ofJson_toJson (type : ResourceType) : ofJson? type.toJson = some type :=
  ofName_name type

theorem Operation.ofJson_toJson (operation : Operation) : ofJson? operation.toJson = some operation := by
  cases operation <;> rfl

theorem Json.text?_text (words : String) : (Json.text words).text? = some words := rfl

theorem Json.textBy_text {Value : Type} (codec : Codec Value) (value : Value) :
    Json.textBy? codec.read? (.text (codec.write value)) = some value := by
  rw [textBy?, text, text?, Option.bind_some, codec.reads]

namespace AnnotationEntry

theorem ofJson_toJson (entry : AnnotationEntry) : ofJson? entry.toJson = some entry := rfl

theorem plain_toJson (entry : AnnotationEntry) : entry.toJson.Plain :=
  ⟨rfl, rfl, rfl, rfl, trivial⟩

def codec (json : JsonCodec) : Codec AnnotationEntry :=
  json.shape toJson ofJson? plain_toJson ofJson_toJson

def ofWire? (text : String) : Option AnnotationEntry := (Json.parse? text).bind ofJson?

theorem codec_wire : (codec Json.codec).write = wire := rfl

theorem codec_ofWire : (codec Json.codec).read? = ofWire? := rfl

theorem ofWire_wire (entry : AnnotationEntry) : ofWire? entry.wire = some entry := by
  rw [← codec_wire, ← codec_ofWire]
  exact (codec Json.codec).reads entry

end AnnotationEntry

namespace Snapshot

theorem plain_toJsonBy (text : ResourceId → String) (snapshot : Snapshot) :
    (snapshot.toJsonBy text).Plain := by
  have annotations := Json.plainItems_map AnnotationEntry.plain_toJson snapshot.annotations
  cases described : snapshot.description with
  | none =>
      rw [toJsonBy, described]
      exact ⟨rfl, rfl, rfl, rfl, rfl, annotations, trivial⟩
  | some description =>
      rw [toJsonBy, described]
      exact ⟨rfl, rfl, rfl, rfl, rfl, rfl, rfl, annotations, trivial⟩

theorem ofJson_toJsonBy (ids : Codec ResourceId) (snapshot : Snapshot) :
    ofJsonBy? ids.read? (snapshot.toJsonBy ids.write) = some snapshot := by
  have entries := Json.listOf_map AnnotationEntry.ofJson_toJson snapshot.annotations
  have identity := Json.textBy_text ids snapshot.id
  have fields : (snapshot.toJsonBy ids.write).fields?
      ["id", "displayName", "description", "annotations"] 4 =
      some [some (.text (ids.write snapshot.id)), some (.text snapshot.displayName),
        snapshot.description.map Json.text,
        some (.array (snapshot.annotations.map AnnotationEntry.toJson))] := by
    cases described : snapshot.description with
    | none =>
        rw [toJsonBy, described]
        rfl
    | some text =>
        rw [toJsonBy, described]
        rfl
  have description : Json.optional? Json.text? (snapshot.description.map Json.text) =
      some snapshot.description := by
    cases snapshot.description <;> rfl
  simp [ofJsonBy?, fields, Json.required?, identity, entries, description, Json.text?_text]

def codec (json : JsonCodec) (ids : Codec ResourceId) : Codec Snapshot :=
  json.shape (toJsonBy ids.write) (ofJsonBy? ids.read?) (plain_toJsonBy ids.write) (ofJson_toJsonBy ids)

theorem codec_wire : (codec Json.codec ResourceId.codec).write = wire := rfl

theorem codec_ofWire : (codec Json.codec ResourceId.codec).read? = ofWire? := rfl

theorem ofWire_wire (snapshot : Snapshot) : ofWire? snapshot.wire = some snapshot := by
  rw [← codec_wire, ← codec_ofWire]
  exact (codec Json.codec ResourceId.codec).reads snapshot

end Snapshot

namespace ForwardedEvent

theorem plain_toJsonBy (text : ResourceId → String) (event : ForwardedEvent) :
    (event.toJsonBy text).Plain := by
  have plain : ∀ text, (Json.text text).Plain := fun _ => rfl
  have objects := Json.plainItems_map plain event.objectsJson
  exact ⟨rfl, rfl, rfl, rfl, rfl, rfl, rfl, objects, trivial⟩

theorem ofJson_toJsonBy (ids : Codec ResourceId) (event : ForwardedEvent) :
    ofJsonBy? ids.read? (event.toJsonBy ids.write) = some event := by
  have objects := Json.listOf_map Json.text?_text event.objectsJson
  have identity := Json.textBy_text ids event.resourceId
  have fields : (event.toJsonBy ids.write).fields?
      ["resourceType", "operation", "resourceId", "objectsJson"] 4 =
      some [some event.resourceType.toJson, some event.operation.toJson,
        some (.text (ids.write event.resourceId)), some (.array (event.objectsJson.map Json.text))] := rfl
  simp [ofJsonBy?, fields, Json.required?, ResourceType.ofJson_toJson, Operation.ofJson_toJson,
    identity, objects]

def codec (json : JsonCodec) (ids : Codec ResourceId) : Codec ForwardedEvent :=
  json.shape (toJsonBy ids.write) (ofJsonBy? ids.read?) (plain_toJsonBy ids.write) (ofJson_toJsonBy ids)

theorem codec_wire : (codec Json.codec ResourceId.codec).write = wire := rfl

theorem codec_ofWire : (codec Json.codec ResourceId.codec).read? = ofWire? := rfl

theorem ofWire_wire (event : ForwardedEvent) : ofWire? event.wire = some event := by
  rw [← codec_wire, ← codec_ofWire]
  exact (codec Json.codec ResourceId.codec).reads event

end ForwardedEvent

end Landscape

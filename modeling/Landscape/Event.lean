import Landscape.Entity
import Landscape.Failure
import Landscape.Text.Quoted
import Landscape.Wire

/-!
Change events: what happened, to which resource, and the objects that came along. An event is shown
on one line, and its objects can be rendered for subscribers unless one of them is of a kind that only
the receiving program understands. Both read the entities as they are at that moment.
-/

namespace Landscape

inductive Payload where
  | resource (entity : EntityRef)
  | entry (key value : String)
  | entryKey (key : String)
  | text (text : String)
  | other
  deriving DecidableEq, Repr

structure Event where
  resourceType : ResourceType
  operation : Operation
  resourceId : ResourceId
  payload : List Payload
  deriving DecidableEq

/-- An empty description is left out. -/
def Entity.snapshot (entity : Entity) : Snapshot where
  id := entity.id
  displayName := entity.displayName
  description := if entity.description = "" then none else some entity.description
  annotations := entity.annotations.pairs.map fun (key, value) => ⟨key, value⟩

def Entity.title (entity : Entity) : String :=
  entity.kind.name ++ " " ++ entity.id.text ++ " " ++ Text.quote entity.displayName

namespace Payload

def kindName : Payload → String
  | resource _ => "resource"
  | entry _ _ => "annotation"
  | entryKey _ => "annotation_key"
  | text _ => "text"
  | other => "opaque"

def shown (entityAt : EntityRef → Option Entity) : Payload → String
  | resource entity => ((entityAt entity).map Entity.title).getD ""
  | entry key value => "\x7b" ++ key ++ ": " ++ value ++ "\x7d"
  | entryKey key => key
  | text words => words
  | other => "<opaque>"

/-- The payload with snapshots and entries in a given form. -/
def renderedBy (snapshot : Snapshot → String) (entry : AnnotationEntry → String)
    (entityAt : EntityRef → Option Entity) : Payload → Except EventError String
  | resource entity => .ok (((entityAt entity).map fun found => snapshot found.snapshot).getD "")
  | .entry key value => .ok (entry ⟨key, value⟩)
  | entryKey key => .ok key
  | text words => .ok words
  | other => .error (.unsupportedPayload other.kindName)

def rendered (entityAt : EntityRef → Option Entity) : Payload → Except EventError String :=
  renderedBy Snapshot.wire AnnotationEntry.wire entityAt

def renderAll (entityAt : EntityRef → Option Entity) : List Payload → Except EventError (List String)
  | [] => .ok []
  | payload :: rest =>
      match payload.rendered entityAt with
      | .error refusal => .error refusal
      | .ok object => (renderAll entityAt rest).map (object :: ·)

end Payload

namespace Event

def shown (entityAt : EntityRef → Option Entity) (event : Event) : String :=
  let subject :=
    event.operation.name ++ ": " ++ event.resourceType.name ++ " " ++ event.resourceId.text
  if event.operation = .delete then subject
  else subject ++ ": " ++ Text.bracketed (event.payload.map (Payload.shown entityAt))

def forwarded (entityAt : EntityRef → Option Entity) (event : Event) :
    Except EventError ForwardedEvent :=
  (Payload.renderAll entityAt event.payload).map fun objects =>
    { resourceType := event.resourceType
      operation := event.operation
      resourceId := event.resourceId
      objectsJson := objects }

end Event

end Landscape

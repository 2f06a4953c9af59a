import Landscape.Event
import Landscape.Registry
import Landscape.Ring

/-!
All that exists side by side: entities, models, sinks, free-standing annotations and managers, each
known by the order in which it was made. Nothing is ever taken out; what matters is what is still
held. A model lives while somebody outside holds it. A sink lives while it is held, reported to by a
living model, handed to by a living sink, or vended by a manager. An entity lives while it is held,
stored in a living model, recorded in a living list, or a living sink itself. References between
entities, and those from an entity or its annotations to their model and sink, hold nothing.

The rest of the state belongs to the surroundings, and the estate only carries it along.
-/

namespace Landscape

/-! Sinks. An entity is a sink too: it takes changes of annotations for changes of itself. -/

inductive SinkRef where
  | made (index : Nat)
  | entity (entity : EntityRef)
  deriving DecidableEq, Repr

structure Recorded where
  event : Event
  text : String
  deriving DecidableEq

inductive Sink where
  | list (records : List Recorded)
  | discard
  | forwarder (queue : Ring ForwardedEvent)
  /-- Reacts as the surroundings decide and may then hand the event on. -/
  | scripted (next : Option SinkRef)

structure Model where
  sink : SinkRef
  registries : Kind → Registry

namespace Model

def new (sink : SinkRef) : Model := ⟨sink, fun _ => .empty⟩

def setRegistry (kind : Kind) (registry : Registry) (model : Model) : Model :=
  { model with registries := fun other => if other = kind then registry else model.registries other }

def sizeOf (type : ResourceType) (model : Model) : Nat :=
  match type with
  | .entity kind => (model.registries kind).size
  | _ => 0

def holds (model : Model) : List EntityRef :=
  Kind.all.flatMap fun kind =>
    (model.registries kind).members ++ ((model.registries kind).kept.getD [])

end Model

structure Notes where
  model : ModelRef
  sink : SinkRef
  records : Records

structure NotesRef where
  index : Nat
  deriving DecidableEq, Repr

inductive SinkFactory where
  | recording
  | discarding
  | sharing (sink : SinkRef)
  | refusing (refusal : EventError) (kept : Option SinkRef)
  deriving DecidableEq

def SinkFactory.kept? : SinkFactory → Option SinkRef
  | recording | discarding => none
  | sharing sink => some sink
  | refusing _ kept => kept

structure Manager where
  sequence : UInt64
  subscribers : List String
  factory : SinkFactory
  deriving DecidableEq

structure ManagerRef where
  index : Nat
  deriving DecidableEq, Repr

inductive Holding where
  | entity (entity : EntityRef)
  | model (model : ModelRef)
  | sink (sink : SinkRef)
  deriving DecidableEq, Repr

structure Estate (Outside : Type) where
  entities : List Entity
  models : List Model
  sinks : List Sink
  notes : List Notes
  managers : List Manager
  /-- One entry for each hold from outside and from calls in progress. -/
  held : List Holding
  outside : Outside

namespace Estate

variable {Outside : Type}

def empty (outside : Outside) : Estate Outside := ⟨[], [], [], [], [], [], outside⟩

def onOutside (change : Outside → Outside) (estate : Estate Outside) : Estate Outside :=
  { estate with outside := change estate.outside }

def entity? (estate : Estate Outside) (entity : EntityRef) : Option Entity :=
  estate.entities[entity.index]?

def modifyEntity (entity : EntityRef) (change : Entity → Entity) (estate : Estate Outside) :
    Estate Outside :=
  { estate with entities := estate.entities.modify entity.index change }

def addEntity (entity : Entity) (estate : Estate Outside) : EntityRef × Estate Outside :=
  (⟨estate.entities.length⟩, { estate with entities := estate.entities ++ [entity] })

def model? (estate : Estate Outside) (model : ModelRef) : Option Model :=
  estate.models[model.index]?

def modifyModel (model : ModelRef) (change : Model → Model) (estate : Estate Outside) :
    Estate Outside :=
  { estate with models := estate.models.modify model.index change }

def addModel (model : Model) (estate : Estate Outside) : ModelRef × Estate Outside :=
  (⟨estate.models.length⟩, { estate with models := estate.models ++ [model] })

def registry (model : ModelRef) (kind : Kind) (estate : Estate Outside) : Registry :=
  ((estate.model? model).map fun found => found.registries kind).getD .empty

def setRegistry (model : ModelRef) (kind : Kind) (registry : Registry) (estate : Estate Outside) :
    Estate Outside :=
  estate.modifyModel model (Model.setRegistry kind registry)

def sink? (estate : Estate Outside) (index : Nat) : Option Sink :=
  estate.sinks[index]?

def setSink (index : Nat) (sink : Sink) (estate : Estate Outside) : Estate Outside :=
  { estate with sinks := estate.sinks.set index sink }

def addSink (sink : Sink) (estate : Estate Outside) : SinkRef × Estate Outside :=
  (.made estate.sinks.length, { estate with sinks := estate.sinks ++ [sink] })

def notes? (estate : Estate Outside) (notes : NotesRef) : Option Notes :=
  estate.notes[notes.index]?

def modifyNotes (notes : NotesRef) (change : Notes → Notes) (estate : Estate Outside) :
    Estate Outside :=
  { estate with notes := estate.notes.modify notes.index change }

def addNotes (notes : Notes) (estate : Estate Outside) : NotesRef × Estate Outside :=
  (⟨estate.notes.length⟩, { estate with notes := estate.notes ++ [notes] })

def manager? (estate : Estate Outside) (manager : ManagerRef) : Option Manager :=
  estate.managers[manager.index]?

def modifyManager (manager : ManagerRef) (change : Manager → Manager) (estate : Estate Outside) :
    Estate Outside :=
  { estate with managers := estate.managers.modify manager.index change }

def addManager (manager : Manager) (estate : Estate Outside) : ManagerRef × Estate Outside :=
  (⟨estate.managers.length⟩, { estate with managers := estate.managers ++ [manager] })

def hold (holdings : List Holding) (estate : Estate Outside) : Estate Outside :=
  { estate with held := holdings ++ estate.held }

def release (holdings : List Holding) (estate : Estate Outside) : Estate Outside :=
  { estate with held := holdings.foldl List.erase estate.held }

def modelLives (estate : Estate Outside) (model : ModelRef) : Bool :=
  estate.held.contains (.model model)

def livingModels (estate : Estate Outside) : List Model :=
  (List.range estate.models.length).filterMap fun index =>
    if estate.modelLives ⟨index⟩ then estate.models[index]? else none

def chain (sinks : List Sink) : Nat → SinkRef → List SinkRef
  | 0, sink => [sink]
  | _ + 1, .entity entity => [.entity entity]
  | most + 1, .made index =>
      match sinks[index]? with
      | some (.scripted (some next)) => .made index :: chain sinks most next
      | _ => [.made index]

def heldSinks (estate : Estate Outside) : List SinkRef :=
  estate.held.filterMap fun
    | .sink sink => some sink
    | _ => none

def factorySinks (estate : Estate Outside) : List SinkRef :=
  estate.managers.filterMap fun manager => manager.factory.kept?

def livingSinks (estate : Estate Outside) : List SinkRef :=
  (estate.heldSinks ++ estate.livingModels.map Model.sink ++ estate.factorySinks).flatMap
    (chain estate.sinks estate.sinks.length)

def sinkHolds (estate : Estate Outside) : SinkRef → List EntityRef
  | .entity entity => [entity]
  | .made index =>
      match estate.sink? index with
      | some (.list records) =>
          records.flatMap fun record => record.event.payload.filterMap fun
            | .resource entity => some entity
            | _ => none
      | _ => []

def heldEntities (estate : Estate Outside) : List EntityRef :=
  estate.held.filterMap fun
    | .entity entity => some entity
    | _ => none

def livingEntities (estate : Estate Outside) : List EntityRef :=
  estate.heldEntities ++ estate.livingModels.flatMap Model.holds
    ++ estate.livingSinks.flatMap estate.sinkHolds

def entityLives (estate : Estate Outside) (entity : EntityRef) : Bool :=
  estate.livingEntities.contains entity

def sinkLives (estate : Estate Outside) : SinkRef → Bool
  | .entity entity => estate.entityLives entity
  | .made index => estate.livingSinks.contains (.made index)

def knownTarget (estate : Estate Outside) (link : Link) : Option EntityRef :=
  link.target.filter estate.entityLives

end Estate

/-! Delivering an event to a sink, in any way that may also change the estate. -/

abbrev Outcome (Failure Outside : Type) := Except Failure Unit × Estate Outside

abbrev Deliver (Outside : Type) :=
  SinkRef → Event → Estate Outside → Outcome EventError Outside

end Landscape

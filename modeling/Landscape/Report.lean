import Landscape.Estate

/-!
Changes to entities and annotations, and how they are reported. An entity that was ever stored reports
each change to its model's sink as an update of itself, as long as the model lives; the change stays
even if the sink refuses the report. Annotations report to their sink; those of an entity report to
the entity, which reports itself. What a sink does is given from outside.
-/

namespace Landscape

namespace Estate

variable {Outside : Type}

def holding {Answer : Type} (holdings : List Holding)
    (act : Estate Outside → Answer × Estate Outside) (estate : Estate Outside) :
    Answer × Estate Outside :=
  let (answer, estate) := act (estate.hold holdings)
  (answer, estate.release holdings)

def updateEvent (entity : EntityRef) (found : Entity) : Event where
  resourceType := .entity found.kind
  operation := .update
  resourceId := found.id
  payload := [.resource entity]

def announce (deliver : Deliver Outside) (entity : EntityRef) (estate : Estate Outside) :
    Outcome EventError Outside :=
  match estate.entity? entity with
  | none => (.ok (), estate)
  | some found =>
      match estate.model? found.model with
      | none => (.ok (), estate)
      | some model =>
          if found.isRegistered && estate.modelLives found.model then
            estate.holding [.model found.model, .entity entity]
              (deliver model.sink (updateEvent entity found))
          else (.ok (), estate)

def update (deliver : Deliver Outside) (entity : EntityRef) (change : Entity → Entity)
    (estate : Estate Outside) : Outcome ModelError Outside :=
  let (answer, estate) := announce deliver entity (estate.modifyEntity entity change)
  (answer.mapError .event, estate)

def change (deliver : Deliver Outside) (entity : EntityRef) (change : Change)
    (estate : Estate Outside) : Outcome ModelError Outside :=
  match estate.entity? entity with
  | none => (.ok (), estate)
  | some found =>
      if found.absorbs change then (.ok (), estate)
      else estate.update deliver entity (Entity.change change)

/-- An entity as a sink takes changes of annotations only, and reports them as its own. -/
def entityReceives (deliver : Deliver Outside) (entity : EntityRef) (event : Event)
    (estate : Estate Outside) : Outcome EventError Outside :=
  if event.resourceType = .annotations then estate.announce deliver entity
  else
    let kind := ((estate.entity? entity).map fun found => found.kind.name).getD ""
    (.error (.unsupportedResourceType kind event.resourceType), estate)

def handOver (deliver : Deliver Outside) (sink : SinkRef) (event : Event)
    (estate : Estate Outside) : Outcome EventError Outside :=
  match sink with
  | .entity entity => estate.entityReceives deliver entity event
  | .made index => deliver (.made index) event estate

end Estate

inductive NotesPlace where
  | ofEntity (entity : EntityRef)
  | free (notes : NotesRef)
  deriving DecidableEq, Repr

namespace Estate

variable {Outside : Type}

def notesAt? (place : NotesPlace) (estate : Estate Outside) : Option Notes :=
  match place with
  | .ofEntity entity => (estate.entity? entity).map fun found =>
      ⟨found.model, .entity entity, found.annotations⟩
  | .free notes => estate.notes? notes

def putRecords (place : NotesPlace) (records : Records) (estate : Estate Outside) :
    Estate Outside :=
  match place with
  | .ofEntity entity => estate.modifyEntity entity fun found => { found with annotations := records }
  | .free notes => estate.modifyNotes notes fun found => { found with records }

def noteEvent (operation : Operation) (payload : Payload) : Event where
  resourceType := .annotations
  operation := operation
  resourceId := .nil
  payload := [payload]

/-- Reports a change of annotations, unless their sink is gone. -/
def reportNotes (deliver : Deliver Outside) (notes : Notes) (event : Event)
    (estate : Estate Outside) : Outcome ModelError Outside :=
  if estate.sinkLives notes.sink then
    let model := if estate.modelLives notes.model then [Holding.model notes.model] else []
    let (answer, estate) :=
      estate.holding (model ++ [.sink notes.sink]) (handOver deliver notes.sink event)
    (answer.mapError .event, estate)
  else (.ok (), estate)

def annotate (deliver : Deliver Outside) (place : NotesPlace) (key value : String)
    (estate : Estate Outside) : Outcome ModelError Outside :=
  match estate.notesAt? place with
  | none => (.ok (), estate)
  | some notes =>
      if notes.records.get? key = some value then (.ok (), estate)
      else
        let operation := if notes.records.contains key then .update else .create
        (estate.putRecords place (notes.records.insert key value)).reportNotes deliver notes
          (noteEvent operation (.entry key value))

def unannotate (deliver : Deliver Outside) (place : NotesPlace) (key : String)
    (estate : Estate Outside) : Outcome ModelError Outside :=
  match estate.notesAt? place with
  | none => (.ok (), estate)
  | some notes =>
      if notes.records.contains key then
        (estate.putRecords place (notes.records.erase key)).reportNotes deliver notes
          (noteEvent .delete (.entryKey key))
      else (.ok (), estate)

end Estate

end Landscape

import Landscape.Session.Act

/-!
The steps that work on models, entities, annotations and links.
-/

namespace Landscape.Session

open Act

def makeModel (sink name : String) : Act Answer := do
  let sink ← sinkNamed sink
  let model ← call (Estate.addModel (.new sink))
  giveModel name model
  return .done

def copyModel (model name : String) : Act Answer := do
  giveModel name (← modelNamed model)
  return .done

def sinkOfModel (model : String) : Act Answer := do
  let model ← modelNamed model
  let site ← site
  return .label ((site.model? model).bind fun found => site.outside.sinkName found.sink)

def describeModel (model : String) : Act Answer := do
  let model ← modelNamed model
  return .text ((← site).describedModel model)

def countOf (model type : String) : Act Answer := do
  let model ← modelNamed model
  return .number ((← site).countOf model (.parse type))

def counts (model : String) : Act Answer := do
  let model ← modelNamed model
  let site ← site
  return .numbers (ResourceType.all.map fun type => site.countOf model type)

def makeEntity (model kind id name : String) : Act Answer := do
  let model ← modelNamed model
  let kind ← readKind kind
  let id ← readId id
  let entity ← call (Estate.addEntity (.new model kind id))
  changeDesk fun desk => { desk with entityNames := desk.entityNames ++ [name] }
  giveEntity name entity
  return .done

def addEntity (reach : Reach) (model entity : String) : Act Answer := do
  let model ← modelNamed model
  let entity ← entityNamed entity
  callModel (Estate.add reach.deliver model entity)
  return .done

def deleteEntity (reach : Reach) (model kind id : String) : Act Answer := do
  let model ← modelNamed model
  let kind ← readKind kind
  let id ← readId id
  callModel (Estate.delete reach.deliver model kind id)
  return .done

def lookUp (model kind id : String) (name : Option String) : Act Answer := do
  let model ← modelNamed model
  let kind ← readKind kind
  let id ← readId id
  let found := (← site).stored model kind id
  match name, found with
  | some name, some entity => giveEntity name entity
  | _, _ => pure ()
  return .label (← labelOf found)

def listAll (model kind : String) : Act Answer := do
  let model ← modelNamed model
  let kind ← readKind kind
  let entities ← call (Estate.listOf model kind)
  let names := entities.filterMap (← site).outside.entityName
  return .texts (names.mergeSort fun a b => decide (a ≤ b))

def showEntity (entity : String) : Act Answer := do
  return .entity (← entityAt (← entityNamed entity))

def Setting.field : Setting → Field
  | displayName _ => .displayName
  | description _ => .description
  | version _ => .version
  | isAbstract _ => .isAbstract
  | apiType _ => .apiType
  | consumes _ => .consumes
  | provides _ => .provides
  | summary _ => .summary
  | resources _ => .resources
  | addResource _ _ => .addResource

def readReference (type id : String) : Act ResourceRef := do
  return ⟨← readId id, .parse type⟩

def Setting.read : Setting → Act Change
  | displayName text => return .displayName text
  | description text => return .description text
  | version value =>
      match Version.ofJson? value with
      | some found => return .version found
      | none => throw .undecodable
  | isAbstract flag => return .isAbstract flag
  | apiType name => return .apiType (.parse name)
  | consumes ids => return .consumes (← ids.mapM readId)
  | provides ids => return .provides (← ids.mapM readId)
  | summary text => return .summary text
  | resources references =>
      return .resources (← references.mapM fun (type, id) => readReference type id)
  | addResource type id => return .addResource (← readReference type id)

def setEntity (reach : Reach) (entity : String) (setting : Setting) : Act Answer := do
  let entity ← entityNamed entity
  requireField (← entityAt entity) setting.field
  let change ← setting.read
  callModel (Estate.change reach.deliver entity change)
  return .done

def readSlot (entity : EntityRef) (name : String) : Act (Slot × Kind) := do
  let found ← entityAt entity
  match Slot.ofName? name with
  | none => throw (.badInput "ref")
  | some slot =>
      match found.kind.target? slot with
      | some kind => return (slot, kind)
      | none => throw (.badInput "ref")

def setReference (reach : Reach) (entity slot : String) (pointer : Pointer) : Act Answer := do
  let entity ← entityNamed entity
  match pointer with
  | .entity target =>
      let target ← entityNamed target
      let (slot, kind) ← readSlot entity slot
      if (← entityAt target).kind = kind then
        callModel (Estate.pointAt reach.deliver entity slot target)
      else throw (.badInput "ref")
  | .id text =>
      let id ← readId text
      let (slot, _) ← readSlot entity slot
      callModel (Estate.pointById reach.deliver entity slot id)
  return .done

def followSlot (entity slot : String) : Act Answer := do
  let entity ← entityNamed entity
  let (slot, _) ← readSlot entity slot
  let target ← callModel (Estate.follow entity slot)
  return .label (← labelOf target)

def describeEntity (entity : String) : Act Answer := do
  let found ← entityAt (← entityNamed entity)
  return .text (found.described (← site).isKnown)

def snapshotEntity (entity : String) : Act Answer := do
  return .text (← entityAt (← entityNamed entity)).snapshot.wire

def isOfKind (entity kind : String) : Act Answer := do
  let found ← entityAt (← entityNamed entity)
  return .flag (found.kind = (← readKind kind))

def makeNotes (receiver : Receiver) (model name : String) : Act Answer := do
  let sink ← receiverNamed receiver
  let model ← modelNamed model
  let notes ← call (Estate.addNotes ⟨model, sink, .empty⟩)
  changeDesk fun desk => { desk with notes := desk.notes.put name notes }
  return .done

def records (place : NotesName) : Act Records := do
  let place ← placeNamed place
  return (((← site).notesAt? place).map Notes.records).getD .empty

def annotate (reach : Reach) (place : NotesName) (key value : String) : Act Answer := do
  let place ← placeNamed place
  callModel (Estate.annotate reach.deliver place key value)
  return .done

def unannotate (reach : Reach) (place : NotesName) (key : String) : Act Answer := do
  let place ← placeNamed place
  callModel (Estate.unannotate reach.deliver place key)
  return .done

def showNote (place : NotesName) (key : String) : Act Answer := do
  let records ← records place
  return .entry (records.value key) (records.contains key)

def showKeys (place : NotesName) : Act Answer := do
  return .entryKeys (← records place).keys

def describeNotes (place : NotesName) : Act Answer := do
  return .text (Text.quotedMap (← records place).pairs)

def makeLink (name : String) (kind : Kind) (link : Link) : Act Answer := do
  changeDesk fun desk => { desk with links := desk.links.put name ⟨kind, link⟩ }
  return .done

def linkTo (entity name : String) : Act Answer := do
  let entity ← entityNamed entity
  let found ← entityAt entity
  makeLink name found.kind ⟨found.id, some entity⟩

def linkBy (kind id name : String) : Act Answer := do
  let kind ← readKind kind
  makeLink name kind ⟨← readId id, none⟩

def showLink (link : String) : Act Answer := do
  let found ← linkNamed link
  let target := (← site).knownTarget found.link
  return .link found.link.id (← labelOf target)
    (found.link.described found.kind target.isSome)

end Landscape.Session

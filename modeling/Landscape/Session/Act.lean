import Landscape.Session.Desk

/-!
Acting in a session: looking things up by name, giving and dropping names, and calling operations of
the estate. Everything that a step names stays held until the step ends, whatever happens meanwhile.
-/

namespace Landscape.Session

/-- How events reach sinks and subscribers while a step runs. -/
structure Reach where
  deliver : Deliver Desk
  carry : String → Carry Desk
  patience : Nat

structure Ongoing where
  site : Site
  grips : List Holding

abbrev Act := ExceptT Refusal (StateM Ongoing)

namespace Act

def site : Act Site := do return (← get).site

def change (change : Site → Site) : Act Unit :=
  modify fun ongoing => { ongoing with site := change ongoing.site }

def changeDesk (change : Desk → Desk) : Act Unit :=
  Act.change (Estate.onOutside change)

def call {Value : Type} (action : Site → Value × Site) : Act Value :=
  modifyGet fun ongoing =>
    let (value, site) := action ongoing.site
    (value, { ongoing with site })

def require {Failure Value : Type} (refusal : Failure → Refusal) (answer : Except Failure Value) :
    Act Value :=
  liftM (answer.mapError refusal)

def callModel {Value : Type} (action : Site → Except ModelError Value × Site) : Act Value := do
  require .model (← call action)

def callEvent {Value : Type} (action : Site → Except EventError Value × Site) : Act Value := do
  require .event (← call action)

def grip (holding : Holding) : Act Unit :=
  modify fun ongoing =>
    { site := ongoing.site.hold [holding], grips := holding :: ongoing.grips }

def readId (text : String) : Act ResourceId :=
  require .invalidId (ResourceId.parse text)

def readKind (name : String) : Act Kind :=
  match Kind.ofName? name with
  | some kind => pure kind
  | none => throw (.badInput "kind")

def readEvent (json : String) : Act ForwardedEvent :=
  match ForwardedEvent.ofWire? json with
  | some event => pure event
  | none => throw .undecodable

def requireField (entity : Entity) (field : Field) : Act Unit :=
  if entity.kind.has field then pure () else throw (.badInput "field")

def find {Value : Type} (sort : ThingSort) (table : Desk → Table Value) (name : String) :
    Act Value := do
  match (table (← site).outside).get? name with
  | some value => return value
  | none => throw (.noHandle sort name)

def findOr {Value : Type} (field : String) (table : Desk → Table Value) (name : String) :
    Act Value := do
  match (table (← site).outside).get? name with
  | some value => return value
  | none => throw (.badInput field)

def queueNamed (name : String) : Act (Ring String) := findOr "queue" Desk.queues name

def linkNamed (name : String) : Act FreeLink := findOr "lazy" Desk.links name

def entityNamed (name : String) : Act EntityRef := do
  let entity ← find .entity Desk.entities name
  grip (.entity entity)
  return entity

def modelNamed (name : String) : Act ModelRef := do
  let model ← find .model Desk.models name
  grip (.model model)
  return model

def handleNamed (name : String) : Act SinkHandle := do
  let handle ← find .sink Desk.sinks name
  grip (.sink handle.sink)
  return handle

def sinkNamed (name : String) : Act SinkRef := do
  return (← handleNamed name).sink

def managerNamed (name : String) : Act ManagerRef :=
  find .manager Desk.managers name

def placeNamed : NotesName → Act NotesPlace
  | .ofEntity entity => do return .ofEntity (← entityNamed entity)
  | .free notes => do return .free (← find .annotations Desk.notes notes)

def receiverNamed : Receiver → Act SinkRef
  | .entity name => do return .entity (← entityNamed name)
  | .sink name => sinkNamed name

def entityAt (entity : EntityRef) : Act Entity := do
  match (← site).entity? entity with
  | some found => return found
  | none => throw (.badInput "entity")

def forwarderNamed (field name : String) : Act (Nat × Ring ForwardedEvent) := do
  let handle ← handleNamed name
  match handle.isOpen, handle.sink with
  | true, .made index =>
      match (← site).queue? index with
      | some queue => return (index, queue)
      | none => throw (.badInput field)
  | _, _ => throw (.badInput field)

def listNamed (name : String) : Act (Nat × List Recorded) := do
  let handle ← handleNamed name
  match handle.isOpen, handle.sink with
  | true, .made index =>
      match (← site).sink? index with
      | some (.list records) => return (index, records)
      | _ => throw (.badInput "sink")
  | _, _ => throw (.badInput "sink")

def labelOf (entity : Option EntityRef) : Act (Option String) := do
  return entity.bind (← site).outside.entityName

/-! Giving and dropping names. A thing is held once for each name. -/

def giveSink (name : String) (handle : SinkHandle) : Act Unit := do
  let before := ((← site).outside.sinks.get? name).map fun old => Holding.sink old.sink
  change fun site => (site.hold [.sink handle.sink]).release before.toList
  changeDesk fun desk => { desk with sinks := desk.sinks.put name handle }.nameSink handle.sink name

def giveModel (name : String) (model : ModelRef) : Act Unit := do
  let before := ((← site).outside.models.get? name).map Holding.model
  change fun site => (site.hold [.model model]).release before.toList
  changeDesk fun desk => { desk with models := desk.models.put name model }

def giveEntity (name : String) (entity : EntityRef) : Act Unit := do
  let before := ((← site).outside.entities.get? name).map Holding.entity
  change fun site => (site.hold [.entity entity]).release before.toList
  changeDesk fun desk => { desk with entities := desk.entities.put name entity }

def dropSink (name : String) : Act Unit := do
  let handle ← find .sink Desk.sinks name
  change fun site => site.release [.sink handle.sink]
  changeDesk fun desk => { desk with sinks := desk.sinks.remove name }

def dropModel (name : String) : Act Unit := do
  let model ← find .model Desk.models name
  change fun site => site.release [.model model]
  changeDesk fun desk => { desk with models := desk.models.remove name }

def dropEntity (name : String) : Act Unit := do
  let entity ← find .entity Desk.entities name
  change fun site => site.release [.entity entity]
  changeDesk fun desk => { desk with entities := desk.entities.remove name }

/-- Takes a dispatcher out of use. Its forwarder is held until the step ends. -/
def takeDispatcher (name : String) : Act DispatcherHandle := do
  let handle ← find .dispatcher Desk.dispatchers name
  changeDesk fun desk => { desk with dispatchers := desk.dispatchers.remove name }
  modify fun ongoing =>
    { ongoing with grips := .sink (.made handle.dispatcher.forwarder) :: ongoing.grips }
  return handle

def checkHandle (name : String) : ThingSort → Act Unit
  | .sink => discard (find .sink Desk.sinks name)
  | .model => discard (find .model Desk.models name)
  | .entity => discard (find .entity Desk.entities name)
  | .annotations => discard (find .annotations Desk.notes name)
  | .manager => discard (find .manager Desk.managers name)
  | .transport => discard (find .transport Desk.transports name)
  | .dispatcher => discard (find .dispatcher Desk.dispatchers name)
  | .event => discard (find .event Desk.events name)

def check : Need → Act Unit
  | .handle sort name => checkHandle name sort
  | .queue name => discard (queueNamed name)
  | .kind name => discard (readKind name)
  | .id text => discard (readId text)
  | .forwarder sink => discard (forwarderNamed "forwarder" sink)
  | .taken dispatcher => discard (takeDispatcher dispatcher)
  | .field entity field => do requireField (← entityAt (← entityNamed entity)) field
  | .event json => discard (readEvent json)

def finish {Value : Type} (act : Act Value) (site : Site) : Except Refusal Value × Site :=
  let (result, ongoing) := act.run.run ⟨site, []⟩
  (result, ongoing.site.release ongoing.grips)

end Act

end Landscape.Session

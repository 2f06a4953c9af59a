import Landscape.Session.Act

/-!
The steps that work on sinks, managers, forwarders and queues of texts.
-/

namespace Landscape.Session

open Act

def makeSink (sink : Sink) (name : String) : Act Answer := do
  let sink ← call (Estate.addSink sink)
  giveSink name ⟨sink, true⟩
  return .done

def makeForwarder (capacity : Option Nat) (name : String) : Act Answer :=
  makeSink (.forwarder (.new (capacity.getD ({} : ForwarderSettings).queueCapacity))) name

def makeScripted (next : Option String) (plan : List (Turn Step EventError)) (name : String) :
    Act Answer := do
  let next ← next.mapM sinkNamed
  let index := (← site).sinks.length
  changeDesk fun desk => { desk with scripts := desk.scripts ++ [⟨index, name, plan⟩] }
  makeSink (.scripted next) name

def makeEntitySink (entity name : String) : Act Answer := do
  let entity ← entityNamed entity
  giveSink name ⟨.entity entity, true⟩
  return .done

def readPayload : PayloadItem → Act Payload
  | .resource entity => return .resource (← entityNamed entity)
  | .entry key value => return .entry key value
  | .entryKey key => return .entryKey key
  | .text text => return .text text
  | .other => return .other

def receive (reach : Reach) (payload : List PayloadItem) (type operation id : String)
    (receiver : Receiver) : Act Answer := do
  let payload ← payload.mapM readPayload
  let id ← readId id
  let sink ← receiverNamed receiver
  callEvent (Estate.handOver reach.deliver sink ⟨.parse type, .parse operation, id, payload⟩)
  return .done

def viewPayload (site : Site) (payload : Payload) : PayloadView where
  kind := payload.kindName
  text := payload.shown site.entity?
  resource := match payload with
    | .resource entity => (site.entity? entity).map fun found =>
        { name := site.outside.entityName entity
          type := .entity found.kind
          id := found.id
          description := found.description
          annotations := found.annotations.pairs }
    | _ => none

def viewEvent (site : Site) (event : Event) : EventView where
  type := event.resourceType
  operation := event.operation
  id := event.resourceId
  payload := event.payload.map (viewPayload site)

def listEvents (sink : String) : Act Answer := do
  let (_, records) ← listNamed sink
  let site ← site
  return .events (records.map fun record => viewEvent site record.event)

def listState (sink : String) : Act Answer := do
  let (_, records) ← listNamed sink
  return .listState (records.map Recorded.text)

def clearList (sink : String) : Act Answer := do
  let (index, _) ← listNamed sink
  change (Estate.setSink index (.list []))
  changeDesk fun desk => { desk with seen := desk.seen.put sink 0 }
  return .done

def makeManager (refusal : Option EventError) (name : String) : Act Answer := do
  let factory := match refusal with
    | some refusal => .refusing refusal none
    | none => .recording
  let manager ← call (Estate.addManager (.new factory))
  changeDesk fun desk => { desk with managers := desk.managers.put name manager }
  return .done

def managerAt (manager : ManagerRef) : Act Manager := do
  match (← site).manager? manager with
  | some found => return found
  | none => throw (.badInput "manager")

def showSequence (manager : String) : Act Answer := do
  return .number (← managerAt (← managerNamed manager)).sequence.toNat

def increment (manager : String) : Act Answer := do
  change (Estate.modifyManager (← managerNamed manager) Manager.increment)
  showSequence manager

def showSubscribers (manager : String) : Act Answer := do
  return .texts (← managerAt (← managerNamed manager)).subscribers

def subscribe (manager url : String) : Act Answer := do
  change (Estate.modifyManager (← managerNamed manager) (Manager.subscribe url))
  showSubscribers manager

def unsubscribe (manager url : String) : Act Answer := do
  let named ← managerNamed manager
  let found ← require .event ((← managerAt named).unsubscribe url)
  change (Estate.modifyManager named fun _ => found)
  showSubscribers manager

def describeManager (manager : String) : Act Answer := do
  return .text (← managerAt (← managerNamed manager)).described

def setFactory (manager name : String) (sink : Option String) (refusal : Option EventError) :
    Act Answer := do
  let manager ← managerNamed manager
  let sink ← sink.mapM sinkNamed
  let factory := match refusal, sink with
    | some refusal, kept => .refusing refusal kept
    | none, some sink => .sharing sink
    | none, none => .discarding
  change (Estate.modifyManager manager fun found => { found with factory })
  changeDesk (Desk.setFactoryName manager name)
  return .done

def vendSink (manager : String) (name : Option String) : Act Answer := do
  let manager ← managerNamed manager
  match (← site).outside.factoryName manager with
  | some factory => changeDesk fun desk => (desk.note factory .factoryCalled).2
  | none => pure ()
  let sink ← callEvent (Estate.vend manager)
  let label := (← site).outside.sinkName sink
  match name with
  | some name => giveSink name ⟨sink, false⟩
  | none => pure ()
  return .label label

def peekForwarder (sink : String) : Act Answer := do
  let (_, queue) ← forwarderNamed "sink" sink
  return .text (← require .queue queue.peek).wire

def dequeueForwarder (sink : String) (name : Option String) : Act Answer := do
  let (index, queue) ← forwarderNamed "sink" sink
  let (event, queue) ← require .queue queue.dequeue
  change (Estate.setQueue index queue)
  match name with
  | some name => changeDesk fun desk => { desk with events := desk.events.put name event }
  | none => pure ()
  return .text event.wire

def sourceEvent : EventSource → Act ForwardedEvent
  | .kept name => find .event Desk.events name
  | .written json => readEvent json

def pushBack (source : EventSource) (sink : String) : Act Answer := do
  let event ← sourceEvent source
  let (index, queue) ← forwarderNamed "sink" sink
  let queue ← require .queue (queue.push event)
  change (Estate.setQueue index queue)
  return .done

def takeAll {Item : Type} : Nat → Ring Item → List Item × Ring Item
  | 0, ring => ([], ring)
  | most + 1, ring =>
      match ring.dequeue with
      | .error _ => ([], ring)
      | .ok (item, ring) =>
          let (items, ring) := takeAll most ring
          (item :: items, ring)

def drainForwarder (sink : String) : Act Answer := do
  let (index, queue) ← forwarderNamed "sink" sink
  let (events, queue) := takeAll queue.size queue
  change (Estate.setQueue index queue)
  return .texts (events.map ForwardedEvent.wire)

def forwarderState (sink : String) : Act Answer := do
  let (_, queue) ← forwarderNamed "sink" sink
  return .forwarderState queue.size queue.isEmpty queue.isFull

def viewQueue (queue : Ring String) : QueueView :=
  ⟨queue.size, queue.capacity, queue.isFull, queue.isEmpty⟩

def keepQueue (name : String) (queue : Ring String) : Act Unit :=
  changeDesk fun desk => { desk with queues := desk.queues.put name queue }

def makeQueue (capacity : Nat) (name : String) : Act Answer := do
  keepQueue name (.new capacity)
  return .queue (viewQueue (.new capacity))

def callQueue (name : String) (call : QueueCall) : Act Answer := do
  let queue ← queueNamed name
  let answer (queue : Ring String) (result : QueueResult) : Act Answer := do
    keepQueue name queue
    return .queueCall (viewQueue queue) result
  match call with
  | .enqueue item =>
      match queue.enqueue item with
      | .ok queue => answer queue .nothing
      | .error cause => answer queue (.refused cause)
  | .push item =>
      match queue.push item with
      | .ok queue => answer queue .nothing
      | .error cause => answer queue (.refused cause)
  | .dequeue =>
      match queue.dequeue with
      | .ok (item, queue) => answer queue (.item item)
      | .error cause => answer queue (.refused cause)
  | .peek =>
      match queue.peek with
      | .ok item => answer queue (.item item)
      | .error cause => answer queue (.refused cause)
  | .copy other =>
      keepQueue other queue
      return .queue (viewQueue queue)

end Landscape.Session

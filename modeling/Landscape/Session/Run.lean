import Landscape.Session.Entities
import Landscape.Session.Sinks

/-!
Running a session. Scripted sinks and transports take steps of their own in the middle of an event or
a delivery, so that running a step may run others inside it. Every such turn is used up when it is
taken, and every sink hands on to one that was made before it; a depth that exceeds both bounds is
computed from the session's size.
-/

namespace Landscape.Session

open Act

def makeTransport (name : String) (plan : List (Turn Step String)) : Act Answer := do
  changeDesk fun desk => { desk with transports := desk.transports.put name ⟨plan, []⟩ }
  return .done

def setDown (transport url : String) (reason : Option String) : Act Answer := do
  let found ← find .transport Desk.transports transport
  let down := match reason with
    | some reason => found.down.put url reason
    | none => found.down.remove url
  changeDesk fun desk =>
    { desk with transports := desk.transports.put transport { found with down } }
  return .done

def makeDispatcher (maxBatch pollInterval : Option Nat) (transport forwarder manager name : String) :
    Act Answer := do
  let usual : DispatcherSettings := {}
  let settings : DispatcherSettings :=
    ⟨pollInterval.getD usual.pollInterval, maxBatch.getD usual.maxBatch⟩
  checkHandle transport .transport
  let (index, _) ← forwarderNamed "forwarder" forwarder
  let manager ← managerNamed manager
  change (Estate.hold [.sink (.made index)])
  changeDesk fun desk => { desk with
    dispatchers := desk.dispatchers.put name ⟨⟨settings, index, manager⟩, transport⟩ }
  return .done

def dispatch (reach : Reach) (dispatcher : String) : Act Answer := do
  let handle ← find .dispatcher Desk.dispatchers dispatcher
  grip (.sink (.made handle.dispatcher.forwarder))
  let count ← callEvent fun site =>
    Estate.dispatchPending (reach.carry handle.transport) handle.dispatcher site
  return .number count

/-- The dispatcher is used up even if there is nothing else to work with. A worker that nobody waits for
is stopped before its first pass. -/
def runWorker (reach : Reach) (dispatcher forwarder transport manager : String) (waits : Bool) :
    Act Answer := do
  let handle ← takeDispatcher dispatcher
  let (index, _) ← forwarderNamed "forwarder" forwarder
  checkHandle transport .transport
  let manager ← managerNamed manager
  if waits then
    change (Estate.dispatchAll (reach.carry handle.transport) handle.dispatcher reach.patience)
  let site ← site
  return .worker (((site.queue? index).map Ring.size).getD 0) (site.sequence manager)

def act (reach : Reach) : Step → Act Answer
  | .listSink name => makeSink (.list []) name
  | .discardSink name => makeSink .discard name
  | .forwarderSink capacity name => makeForwarder capacity name
  | .scriptedSink next plan name => makeScripted next plan name
  | .entitySink entity name => makeEntitySink entity name
  | .dropSink sink => do dropSink sink; return .done
  | .receive payload type operation id receiver => receive reach payload type operation id receiver
  | .listEvents sink => listEvents sink
  | .listState sink => listState sink
  | .listClear sink => clearList sink
  | .model sink name => makeModel sink name
  | .cloneModel model name => copyModel model name
  | .dropModel model => do dropModel model; return .done
  | .modelSink model => sinkOfModel model
  | .describeModel model => describeModel model
  | .countOf model type => countOf model type
  | .counts model => counts model
  | .new model kind id name => makeEntity model kind id name
  | .drop entity => do dropEntity entity; return .done
  | .add model entity => addEntity reach model entity
  | .delete model kind id => deleteEntity reach model kind id
  | .lookup model kind id name => lookUp model kind id name
  | .all model kind => listAll model kind
  | .get entity => showEntity entity
  | .set entity setting => setEntity reach entity setting
  | .setReference entity slot pointer => setReference reach entity slot pointer
  | .follow entity slot => followSlot entity slot
  | .describeEntity entity => describeEntity entity
  | .snapshot entity => snapshotEntity entity
  | .isOfKind entity kind => isOfKind entity kind
  | .notes receiver model name => makeNotes receiver model name
  | .annotate place key value => annotate reach place key value
  | .unannotate place key => unannotate reach place key
  | .showEntry place key => showNote place key
  | .entryKeys place => showKeys place
  | .describeNotes place => describeNotes place
  | .linkTo entity name => linkTo entity name
  | .linkBy kind id name => linkBy kind id name
  | .getLink link => showLink link
  | .manager refusal name => makeManager refusal name
  | .sequence manager => showSequence manager
  | .increment manager => increment manager
  | .subscribe manager url => subscribe manager url
  | .unsubscribe manager url => unsubscribe manager url
  | .subscribers manager => showSubscribers manager
  | .describeManager manager => describeManager manager
  | .setFactory manager name sink refusal => setFactory manager name sink refusal
  | .managerSink manager name => vendSink manager name
  | .peek sink => peekForwarder sink
  | .dequeue sink name => dequeueForwarder sink name
  | .pushBack source sink => pushBack source sink
  | .drain sink => drainForwarder sink
  | .forwarderState sink => forwarderState sink
  | .transport name plan => makeTransport name plan
  | .down transport url reason => setDown transport url reason
  | .dispatcher maxBatch pollInterval transport forwarder manager name =>
      makeDispatcher maxBatch pollInterval transport forwarder manager name
  | .dispatch dispatcher => dispatch reach dispatcher
  | .runWorker dispatcher forwarder transport manager waits =>
      runWorker reach dispatcher forwarder transport manager waits
  | .queue capacity name => makeQueue capacity name
  | .callQueue queue call => callQueue queue call
  | .incomplete needs field => do
      needs.forM check
      throw (.badInput field)

def perform (reach : Reach) (step : Step) (site : Site) : StepResult × Site :=
  finish (act reach step) site

def performAll (reach : Reach) : List Step → Site → List StepResult × Site
  | [], site => ([], site)
  | step :: rest, site =>
      let (result, site) := perform reach step site
      let (results, site) := performAll reach rest site
      (result :: results, site)

/-- A scripted sink takes its turn: first the turn's steps, then its refusal, or else whatever the next
sink answers. -/
def reactScripted (reach : Reach) (script : Script) (next : Option SinkRef) (event : Event)
    (site : Site) : Outcome EventError Desk :=
  let text := event.shown site.entity?
  let (turn, desk) := site.outside.takeTurn script
  let (place, desk) := desk.note script.name (.reaction text [] (.ok ()))
  let (results, site) := performAll reach turn.steps { site with outside := desk }
  let (outcome, site) : Outcome EventError Desk :=
    match turn.failure, next with
    | some refusal, _ => (.error refusal, site)
    | none, some next => reach.deliver next event site
    | none, none => (.ok (), site)
  (outcome, site.onOutside (Desk.amend script.name place (.reaction text results outcome)))

def react (reach : Reach) (sink : SinkRef) (event : Event) (site : Site) :
    Outcome EventError Desk :=
  match sink with
  | .entity entity => site.entityReceives reach.deliver entity event
  | .made index =>
      match site.sink? index, site.outside.script? index with
      | some (.scripted next), some script => reactScripted reach script next event site
      | _, _ => site.sinkReceives index event

def carryTurn (reach : Reach) (name url : String) (event : ForwardedEvent) (site : Site) :
    Outcome String Desk :=
  match site.outside.transports.get? name with
  | none => (.ok (), site)
  | some transport =>
      let (turn, desk) := site.outside.takeDelivery name transport
      let (place, desk) := desk.note name (.delivery url event.wire [] none)
      let (results, site) := performAll reach turn.steps { site with outside := desk }
      let failure := match turn.failure with
        | some reason => some reason
        | none => (site.outside.transports.get? name).bind fun now => now.down.get? url
      let site := site.onOutside (Desk.amend name place (.delivery url event.wire results failure))
      match failure with
      | some reason => (.error reason, site)
      | none => (.ok (), site)

mutual

def deliverAt (patience : Nat) : Nat → SinkRef → Event → Site → Outcome EventError Desk
  | 0, _, _, site => (.ok (), site)
  | depth + 1, sink, event, site =>
      react ⟨deliverAt patience depth, carryAt patience depth, patience⟩ sink event site

def carryAt (patience : Nat) :
    Nat → String → String → ForwardedEvent → Site → Outcome String Desk
  | 0, _, _, _, site => (.ok (), site)
  | depth + 1, name, url, event, site =>
      carryTurn ⟨deliverAt patience depth, carryAt patience depth, patience⟩ name url event site

end

/-- Enough depth and patience for a session of so many steps. -/
def reachFor (weight : Nat) : Reach :=
  let bound := (weight + 2) * (weight + 2)
  ⟨deliverAt bound bound, carryAt bound bound, bound⟩

def newTexts (site : Site) (name : String) (handle : SinkHandle) : Option (List String × Nat) :=
  match handle.sink with
  | .entity _ => none
  | .made index =>
      match handle.isOpen, site.sink? index with
      | true, some (.list records) =>
          some ((records.drop ((site.outside.seen.get? name).getD 0)).map Recorded.text,
            records.length)
      | _, _ => none

def pendingOf (site : Site) (handle : SinkHandle) : Option Nat :=
  match handle.sink with
  | .entity _ => none
  | .made index => if handle.isOpen then (site.queue? index).map Ring.size else none

def report (result : StepResult) (site : Site) : Report where
  result := result
  events := site.outside.sinks.filterMap fun (name, handle) =>
    match newTexts site name handle with
    | some (first :: rest, _) => some (name, first :: rest)
    | _ => none
  pending := site.outside.sinks.filterMap fun (name, handle) =>
    (pendingOf site handle).map fun length => (name, length)
  calls := site.outside.log

def turnPage (site : Site) : Site :=
  site.onOutside fun desk => { desk with
    log := []
    seen := desk.sinks.foldl (fun seen (name, handle) =>
      match newTexts site name handle with
      | some (_, length) => seen.put name length
      | none => seen) desk.seen }

def runFrom (reach : Reach) : List Step → Site → List Report
  | [], _ => []
  | step :: rest, site =>
      let (result, site) := perform reach step site
      report result site :: runFrom reach rest (turnPage site)

def run (steps : List Step) : List Report :=
  runFrom (reachFor (stepsWeight steps)) steps (.empty .empty)

end Landscape.Session

import Landscape.Dispatch
import Landscape.Json.Basic

/-!
The steps of a session. A step names the things that it works on, makes a new thing under a name, or
both. Identities, kinds and words are given as texts, because a step may give wrong ones. A scripted
sink and a transport are made with the turns that they will take, one for each event, and a turn may
take steps of its own before it answers.
-/

namespace Landscape.Session

structure Turn (Step Failure : Type) where
  steps : List Step
  failure : Option Failure

inductive Receiver where
  | entity (name : String)
  | sink (name : String)

inductive NotesName where
  | ofEntity (entity : String)
  | free (notes : String)

inductive PayloadItem where
  | resource (entity : String)
  | entry (key value : String)
  | entryKey (key : String)
  | text (text : String)
  | other

inductive Pointer where
  | entity (name : String)
  | id (text : String)

inductive Setting where
  | displayName (text : String)
  | description (text : String)
  | version (value : Json)
  | isAbstract (flag : Bool)
  | apiType (name : String)
  | consumes (ids : List String)
  | provides (ids : List String)
  | summary (text : String)
  | resources (references : List (String × String))
  | addResource (type id : String)

inductive QueueCall where
  | enqueue (item : String)
  | push (item : String)
  | dequeue
  | peek
  | copy (name : String)

inductive EventSource where
  | kept (name : String)
  | written (json : String)

inductive ThingSort where
  | sink | model | entity | annotations | manager | transport | dispatcher | event
  deriving DecidableEq, Repr

def ThingSort.name : ThingSort → String
  | .sink => "sink"
  | .model => "model"
  | .entity => "entity"
  | .annotations => "annotations"
  | .manager => "manager"
  | .transport => "transport"
  | .dispatcher => "dispatcher"
  | .event => "event"

/-- What is looked at before a step is found to be incomplete. A thing, a kind and an identity must be
there; a sink may have to be a forwarder, an entity to have a field, and a written event to be
readable. A dispatcher that is taken is used up. -/
inductive Need where
  | handle (sort : ThingSort) (name : String)
  | queue (name : String)
  | kind (name : String)
  | id (text : String)
  | forwarder (sink : String)
  | taken (dispatcher : String)
  | field (entity : String) (field : Field)
  | event (json : String)

inductive Step where
  -- sinks
  | listSink (name : String)
  | discardSink (name : String)
  | forwarderSink (capacity : Option Nat) (name : String)
  | scriptedSink (next : Option String) (plan : List (Turn Step EventError)) (name : String)
  | entitySink (entity name : String)
  | dropSink (sink : String)
  | receive (payload : List PayloadItem) (type operation id : String) (receiver : Receiver)
  | listEvents (sink : String)
  | listState (sink : String)
  | listClear (sink : String)
  -- models
  | model (sink name : String)
  | cloneModel (model name : String)
  | dropModel (model : String)
  | modelSink (model : String)
  | describeModel (model : String)
  | countOf (model type : String)
  | counts (model : String)
  | new (model kind id name : String)
  | drop (entity : String)
  | add (model entity : String)
  | delete (model kind id : String)
  | lookup (model kind id : String) (name : Option String)
  | all (model kind : String)
  -- entities
  | get (entity : String)
  | set (entity : String) (setting : Setting)
  | setReference (entity slot : String) (pointer : Pointer)
  | follow (entity slot : String)
  | describeEntity (entity : String)
  | snapshot (entity : String)
  | isOfKind (entity kind : String)
  -- annotations
  | notes (receiver : Receiver) (model name : String)
  | annotate (place : NotesName) (key value : String)
  | unannotate (place : NotesName) (key : String)
  | showEntry (place : NotesName) (key : String)
  | entryKeys (place : NotesName)
  | describeNotes (place : NotesName)
  -- links that belong to no entity
  | linkTo (entity name : String)
  | linkBy (kind id name : String)
  | getLink (link : String)
  -- managers and forwarders
  | manager (refusal : Option EventError) (name : String)
  | sequence (manager : String)
  | increment (manager : String)
  | subscribe (manager url : String)
  | unsubscribe (manager url : String)
  | subscribers (manager : String)
  | describeManager (manager : String)
  | setFactory (manager name : String) (sink : Option String) (refusal : Option EventError)
  | managerSink (manager : String) (name : Option String)
  | peek (sink : String)
  | dequeue (sink : String) (name : Option String)
  | pushBack (source : EventSource) (sink : String)
  | drain (sink : String)
  | forwarderState (sink : String)
  -- dispatchers
  | transport (name : String) (plan : List (Turn Step String))
  | down (transport url : String) (reason : Option String)
  | dispatcher (maxBatch pollInterval : Option Nat) (transport forwarder manager name : String)
  | dispatch (dispatcher : String)
  | runWorker (dispatcher forwarder transport manager : String) (waits : Bool)
  -- queues of texts
  | queue (capacity : Nat) (name : String)
  | callQueue (queue : String) (call : QueueCall)
  | incomplete (needs : List Need) (field : String)

instance : Inhabited Step := ⟨.incomplete [] "do"⟩

/-! The number of steps in a session, counting those that turns take. -/

mutual

def Step.weight : Step → Nat
  | .scriptedSink _ plan _ => 1 + sinkPlanWeight plan
  | .transport _ plan => 1 + transportPlanWeight plan
  | _ => 1

def sinkPlanWeight : List (Turn Step EventError) → Nat
  | [] => 0
  | ⟨steps, _⟩ :: rest => 1 + stepsWeight steps + sinkPlanWeight rest

def transportPlanWeight : List (Turn Step String) → Nat
  | [] => 0
  | ⟨steps, _⟩ :: rest => 1 + stepsWeight steps + transportPlanWeight rest

def stepsWeight : List Step → Nat
  | [] => 0
  | step :: rest => step.weight + stepsWeight rest

end

end Landscape.Session

import Landscape.Describe
import Landscape.Session.Answer

/-!
The surroundings of a session: the names by which things are known, the turns that scripted sinks and
transports still have to take, and what they noted down during the running step.
-/

namespace Landscape.Session

/-! Tables by name. The latest entry of a name counts. -/

abbrev Table (Value : Type) := List (String × Value)

namespace Table

variable {Value : Type}

def get? (name : String) (table : Table Value) : Option Value :=
  (table.find? fun entry => entry.1 = name).map Prod.snd

def remove (name : String) (table : Table Value) : Table Value :=
  table.filter fun entry => entry.1 ≠ name

def put (name : String) (value : Value) (table : Table Value) : Table Value :=
  table.remove name ++ [(name, value)]

def update (name : String) (change : Value → Value) (table : Table Value) : Table Value :=
  table.map fun entry => if entry.1 = name then (entry.1, change entry.2) else entry

end Table

structure SinkHandle where
  sink : SinkRef
  /-- Whether the session sees into the sink. Only then are its new events and the length of its queue
  reported, and only then can its list or its queue be worked on. -/
  isOpen : Bool

structure Script where
  index : Nat
  name : String
  turns : List (Turn Step EventError)

structure Transport where
  turns : List (Turn Step String)
  down : Table String

structure DispatcherHandle where
  dispatcher : Dispatcher
  transport : String

structure FreeLink where
  kind : Kind
  link : Link

structure Desk where
  sinks : Table SinkHandle
  models : Table ModelRef
  entities : Table EntityRef
  notes : Table NotesRef
  managers : Table ManagerRef
  transports : Table Transport
  dispatchers : Table DispatcherHandle
  events : Table ForwardedEvent
  links : Table FreeLink
  queues : Table (Ring String)
  entityNames : List String
  sinkNames : List (SinkRef × String)
  scripts : List Script
  factories : List (ManagerRef × String)
  log : Table (List LogEntry)
  seen : Table Nat

namespace Desk

def empty : Desk where
  sinks := []
  models := []
  entities := []
  notes := []
  managers := []
  transports := []
  dispatchers := []
  events := []
  links := []
  queues := []
  entityNames := []
  sinkNames := []
  scripts := []
  factories := []
  log := []
  seen := []

def entityName (entity : EntityRef) (desk : Desk) : Option String :=
  desk.entityNames[entity.index]?

def sinkName (sink : SinkRef) (desk : Desk) : Option String :=
  (desk.sinkNames.find? fun entry => entry.1 = sink).map Prod.snd

def nameSink (sink : SinkRef) (name : String) (desk : Desk) : Desk :=
  if (desk.sinkName sink).isSome then desk
  else { desk with sinkNames := desk.sinkNames ++ [(sink, name)] }

def factoryName (manager : ManagerRef) (desk : Desk) : Option String :=
  (desk.factories.find? fun entry => entry.1 = manager).map Prod.snd

def setFactoryName (manager : ManagerRef) (name : String) (desk : Desk) : Desk :=
  { desk with factories := (manager, name) :: desk.factories }

def script? (index : Nat) (desk : Desk) : Option Script :=
  desk.scripts.find? fun script => script.index = index

def idle {Failure : Type} : Turn Step Failure := ⟨[], none⟩

/-- The next turn of a scripted sink; one that has taken all its turns is idle. -/
def takeTurn (script : Script) (desk : Desk) : Turn Step EventError × Desk :=
  match script.turns with
  | [] => (idle, desk)
  | turn :: turns =>
      (turn, { desk with scripts := desk.scripts.map fun other =>
        if other.index = script.index then { other with turns } else other })

def takeDelivery (name : String) (transport : Transport) (desk : Desk) :
    Turn Step String × Desk :=
  match transport.turns with
  | [] => (idle, desk)
  | turn :: turns =>
      (turn, { desk with transports := desk.transports.put name { transport with turns } })

def logOf (name : String) (desk : Desk) : List LogEntry :=
  (desk.log.get? name).getD []

def note (name : String) (entry : LogEntry) (desk : Desk) : Nat × Desk :=
  let entries := desk.logOf name
  (entries.length, { desk with log := desk.log.put name (entries ++ [entry]) })

def amend (name : String) (place : Nat) (entry : LogEntry) (desk : Desk) : Desk :=
  { desk with log := desk.log.update name fun entries => entries.set place entry }

end Desk

abbrev Site := Estate Desk

end Landscape.Session

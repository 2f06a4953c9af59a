import Landscape.Session.Step

/-!
What the steps of a session answer: a value, or why there is none. Things are shown by the names under
which they were first made.
-/

namespace Landscape.Session

inductive Refusal where
  | badInput (field : String)
  | noHandle (sort : ThingSort) (name : String)
  | invalidId (cause : IdError)
  | queue (cause : QueueError)
  | event (cause : EventError)
  | model (cause : ModelError)
  | undecodable

def Refusal.message? : Refusal → Option String
  | badInput field => some field
  | noHandle sort name => some (sort.name ++ " " ++ name)
  | invalidId cause => some cause.message
  | queue cause => some cause.message
  | event cause => some cause.message
  | model cause => some cause.message
  | undecodable => none

structure ResourceView where
  name : Option String
  type : ResourceType
  id : ResourceId
  description : String
  annotations : List (String × String)

structure PayloadView where
  kind : String
  text : String
  resource : Option ResourceView

structure EventView where
  type : ResourceType
  operation : Operation
  id : ResourceId
  payload : List PayloadView

structure QueueView where
  len : Nat
  capacity : Nat
  isFull : Bool
  isEmpty : Bool

inductive QueueResult where
  | nothing
  | item (text : String)
  | refused (cause : QueueError)

inductive Answer where
  | done
  | label (name : Option String)
  | text (text : String)
  | texts (texts : List String)
  | number (value : Nat)
  | numbers (values : List Nat)
  | flag (value : Bool)
  | events (events : List EventView)
  | listState (texts : List String)
  | entity (entity : Entity)
  | entry (value : String) (isThere : Bool)
  | entryKeys (keys : List String)
  | link (id : ResourceId) (known : Option String) (described : String)
  | forwarderState (len : Nat) (isEmpty isFull : Bool)
  | worker (pending : Nat) (sequence : UInt64)
  | queue (view : QueueView)
  | queueCall (view : QueueView) (result : QueueResult)

abbrev StepResult := Except Refusal Answer

inductive LogEntry where
  | reaction (text : String) (steps : List StepResult) (outcome : Except EventError Unit)
  | delivery (url event : String) (steps : List StepResult) (failure : Option String)
  | factoryCalled

/-- The answer of a step together with what it left behind. -/
structure Report where
  result : StepResult
  events : List (String × List String)
  pending : List (String × Nat)
  calls : List (String × List LogEntry)

end Landscape.Session

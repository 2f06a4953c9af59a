import Landscape.Identity
import Landscape.Vocabulary

/-!
What can go wrong, in three layers: the bounded queue, the delivery of events, and the model.
Each failure is a cause; its wording is given once, and so is whether repeating the same call may
help and which kind, if any, was not found.
-/

namespace Landscape

inductive QueueError where
  | full (capacity : Nat)
  | empty
  deriving DecidableEq, Repr

def QueueError.message : QueueError → String
  | .full capacity => s!"Circular queue is full (capacity {capacity})"
  | .empty => "Circular queue is empty"

inductive EventError where
  | unsupportedResourceType (sink : String) (type : ResourceType)
  | unsupportedPayload (kind : String)
  | serialization (reason : String)
  | queue (cause : QueueError)
  | subscriberNotFound (url : String)
  | delivery (url reason : String)
  deriving DecidableEq, Repr

namespace EventError

def message : EventError → String
  | unsupportedResourceType sink type =>
      "Unsupported resource type " ++ type.name ++ " in " ++ sink ++ " event sink"
  | unsupportedPayload kind => s!"Unsupported payload kind: {kind}"
  | serialization reason => s!"Serialization error: {reason}"
  | queue cause => "Queue error: " ++ cause.message
  | subscriberNotFound url => s!"Subscriber {url} not found"
  | delivery url reason => s!"Delivery to {url} failed: {reason}"

/-- Whether the same call may succeed later without any change on the caller's side. -/
def isRetryable : EventError → Bool
  | queue (.full _) => true
  | delivery _ _ => true
  | _ => false

end EventError

inductive ModelError where
  | identityNotSet
  | notFound (type : ResourceType) (id : ResourceId)
  | modelMismatch (id : ResourceId)
  | modelDropped
  | event (cause : EventError)
  deriving DecidableEq

namespace ModelError

def message : ModelError → String
  | identityNotSet => "Resource identifier UUID not set"
  | notFound type id => type.name ++ " not found: " ++ id.text
  | modelMismatch id => "Resource " ++ id.text ++ " was created for a different model"
  | modelDropped => "Owning model has been dropped"
  | event cause => "Event error: " ++ cause.message

def isNotFound : ModelError → Bool
  | notFound _ _ => true
  | _ => false

def isNotFoundFor (type : ResourceType) : ModelError → Bool
  | notFound missing _ => missing = type
  | _ => false

def isEvent : ModelError → Bool
  | event _ => true
  | _ => false

def isRetryable : ModelError → Bool
  | event cause => cause.isRetryable
  | _ => false

end ModelError

end Landscape

import Landscape.Manager
import Landscape.Receive

/-!
Passing queued events on to subscribers. The event at the front is offered to every subscriber in
turn and leaves the queue only when all of them took it; the first failure ends the pass with the
event still in front. Each event that leaves moves the manager's sequence number. How an event is
carried to a subscriber is given from outside.
-/

namespace Landscape

structure ForwarderSettings where
  queueCapacity : Nat := 1024
  deriving DecidableEq, Repr

structure DispatcherSettings where
  pollInterval : Nat := 100
  maxBatch : Nat := 256
  deriving DecidableEq, Repr

structure Dispatcher where
  settings : DispatcherSettings
  forwarder : Nat
  manager : ManagerRef
  deriving DecidableEq, Repr

abbrev Carry (Outside : Type) :=
  String → ForwardedEvent → Estate Outside → Outcome String Outside

namespace Estate

variable {Outside : Type}

def subscribers (manager : ManagerRef) (estate : Estate Outside) : List String :=
  ((estate.manager? manager).map Manager.subscribers).getD []

def sequence (manager : ManagerRef) (estate : Estate Outside) : UInt64 :=
  ((estate.manager? manager).map Manager.sequence).getD 0

def carryToAll (carry : Carry Outside) (event : ForwardedEvent) :
    List String → Estate Outside → Outcome (String × String) Outside
  | [], estate => (.ok (), estate)
  | url :: rest, estate =>
      match carry url event estate with
      | (.ok (), estate) => carryToAll carry event rest estate
      | (.error reason, estate) => (.error (url, reason), estate)

def retire (dispatcher : Dispatcher) (estate : Estate Outside) : Outcome EventError Outside :=
  match estate.queue? dispatcher.forwarder with
  | none => (.error (.queue .empty), estate)
  | some queue =>
      match queue.dequeue with
      | .error cause => (.error (.queue cause), estate)
      | .ok (_, queue) =>
          (.ok (), (estate.setQueue dispatcher.forwarder queue).modifyManager dispatcher.manager
            Manager.increment)

/-- Passes on at most so many events and answers how many it passed on. -/
def dispatchUpTo (carry : Carry Outside) (dispatcher : Dispatcher) :
    Nat → Estate Outside → Except EventError Nat × Estate Outside
  | 0, estate => (.ok 0, estate)
  | most + 1, estate =>
      match (estate.queue? dispatcher.forwarder).map Ring.peek with
      | none | some (.error .empty) => (.ok 0, estate)
      | some (.error cause) => (.error (.queue cause), estate)
      | some (.ok event) =>
          match carryToAll carry event (estate.subscribers dispatcher.manager) estate with
          | (.error (url, reason), estate) => (.error (.delivery url reason), estate)
          | (.ok (), estate) =>
              match estate.retire dispatcher with
              | (.error refusal, estate) => (.error refusal, estate)
              | (.ok (), estate) =>
                  let (answer, estate) := dispatchUpTo carry dispatcher most estate
                  (answer.map (· + 1), estate)

def dispatchPending (carry : Carry Outside) (dispatcher : Dispatcher) (estate : Estate Outside) :
    Except EventError Nat × Estate Outside :=
  dispatchUpTo carry dispatcher (max dispatcher.settings.maxBatch 1) estate

/-- Repeats passes, whatever they answer, until the queue is empty or patience ends. -/
def dispatchAll (carry : Carry Outside) (dispatcher : Dispatcher) :
    Nat → Estate Outside → Estate Outside
  | 0, estate => estate
  | patience + 1, estate =>
      match estate.queue? dispatcher.forwarder with
      | none => estate
      | some queue =>
          if queue.isEmpty then estate
          else dispatchAll carry dispatcher patience (estate.dispatchPending carry dispatcher).2

end Estate

end Landscape

import Landscape.Report

/-!
What the library's own sinks do with an event. A list records it with its text, a discarding sink
forgets it, and a forwarder renders its objects and queues it. A forwarder refuses objects that it
cannot render before it looks at the queue, and a refusal leaves the queue as it was.
-/

namespace Landscape

namespace Sink

variable (entityAt : EntityRef → Option Entity)

def forward (event : Event) (queue : Ring ForwardedEvent) :
    Except EventError (Ring ForwardedEvent) :=
  match event.forwarded entityAt with
  | .error refusal => .error refusal
  | .ok forwarded => (queue.enqueue forwarded).mapError .queue

def receive (event : Event) : Sink → Except EventError Sink
  | list records => .ok (list (records ++ [⟨event, event.shown entityAt⟩]))
  | discard => .ok discard
  | forwarder queue => (forward entityAt event queue).map forwarder
  | scripted next => .ok (scripted next)

end Sink

namespace Estate

variable {Outside : Type}

def sinkReceives (index : Nat) (event : Event) (estate : Estate Outside) :
    Outcome EventError Outside :=
  match estate.sink? index with
  | none => (.ok (), estate)
  | some sink =>
      match sink.receive estate.entity? event with
      | .ok sink => (.ok (), estate.setSink index sink)
      | .error refusal => (.error refusal, estate)

def queue? (index : Nat) (estate : Estate Outside) : Option (Ring ForwardedEvent) :=
  match estate.sink? index with
  | some (.forwarder queue) => some queue
  | _ => none

def setQueue (index : Nat) (queue : Ring ForwardedEvent) (estate : Estate Outside) :
    Estate Outside :=
  estate.setSink index (.forwarder queue)

end Estate

end Landscape

import Landscape.Estate

/-!
Managers: a sequence number that moves by one for each change that was delivered, the subscribers in
the order in which they were added, and the making of sinks for new models.
-/

namespace Landscape

namespace Manager

def new (factory : SinkFactory) : Manager := ⟨0, [], factory⟩

def increment (manager : Manager) : Manager :=
  { manager with sequence := manager.sequence + 1 }

def subscribe (url : String) (manager : Manager) : Manager :=
  if manager.subscribers.contains url then manager
  else { manager with subscribers := manager.subscribers ++ [url] }

def unsubscribe (url : String) (manager : Manager) : Except EventError Manager :=
  if manager.subscribers.contains url then
    .ok { manager with subscribers := manager.subscribers.erase url }
  else .error (.subscriberNotFound url)

def described (manager : Manager) : String :=
  Text.openRecord "EventManager" [
    ("sequence", toString manager.sequence.toNat),
    ("subscribers", Text.bracketed (manager.subscribers.map Text.quote))]

end Manager

def Estate.vend {Outside : Type} (manager : ManagerRef) (estate : Estate Outside) :
    Except EventError SinkRef × Estate Outside :=
  match (estate.manager? manager).map Manager.factory with
  | none | some .recording =>
      let (sink, estate) := estate.addSink (.list [])
      (.ok sink, estate)
  | some .discarding =>
      let (sink, estate) := estate.addSink .discard
      (.ok sink, estate)
  | some (.sharing sink) => (.ok sink, estate)
  | some (.refusing refusal _) => (.error refusal, estate)

end Landscape

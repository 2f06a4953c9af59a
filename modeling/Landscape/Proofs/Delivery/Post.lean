import Landscape.Dispatch
import Landscape.Proofs.Ring
import Mathlib.Data.List.Nodup

/-!
What a dispatcher works on: the events that wait in its forwarder, and the sequence and the subscribers of its
manager. Between two steps of a dispatcher others may append events and may add or remove subscribers; they
neither take events out nor move the sequence. The forwarder's own receiving and the manager's own changes are
of this sort, and so is everything that the dispatcher does not look at.
-/

namespace Landscape

structure Post where
  pending : List ForwardedEvent
  sequence : UInt64
  subscribers : List String

namespace Post

def append (event : ForwardedEvent) (post : Post) : Post :=
  { post with pending := post.pending ++ [event] }

/-- What others may do meanwhile, and which events they append. No subscriber that is kept is removed. -/
inductive Goes (kept : String → Prop) : Post → List ForwardedEvent → Post → Prop where
  | rest {post} : Goes kept post [] post
  | accept {post event more after} (later : Goes kept (post.append event) more after) :
      Goes kept post (event :: more) after
  | subscribe {post url more after} (fresh : url ∉ post.subscribers)
      (later : Goes kept { post with subscribers := post.subscribers ++ [url] } more after) :
      Goes kept post more after
  | unsubscribe {post url more after} (free : ¬kept url)
      (later : Goes kept { post with subscribers := post.subscribers.erase url } more after) :
      Goes kept post more after

variable {kept : String → Prop} {before after : Post} {more : List ForwardedEvent}

theorem Goes.pending (goes : Goes kept before more after) :
    after.pending = before.pending ++ more := by
  induction goes with
  | rest => rw [List.append_nil]
  | accept _ ih => rw [ih, append, List.append_assoc, List.singleton_append]
  | subscribe _ _ ih | unsubscribe _ _ ih => exact ih

theorem Goes.sequence (goes : Goes kept before more after) :
    after.sequence = before.sequence := by
  induction goes with
  | rest => rfl
  | accept _ ih => exact ih
  | subscribe _ _ ih | unsubscribe _ _ ih => exact ih

theorem Goes.trans {last : Post} {others : List ForwardedEvent} (former : Goes kept before more after)
    (latter : Goes kept after others last) : Goes kept before (more ++ others) last := by
  induction former with
  | rest => exact latter
  | accept _ ih => exact .accept (ih latter)
  | subscribe fresh _ ih => exact .subscribe fresh (ih latter)
  | unsubscribe free _ ih => exact .unsubscribe free (ih latter)

theorem Goes.listed {subscriber : String} (goes : Goes (fun url => url = subscriber) before more after)
    (listed : subscriber ∈ before.subscribers) (once : before.subscribers.Nodup) :
    subscriber ∈ after.subscribers ∧ after.subscribers.Nodup := by
  induction goes with
  | rest => exact ⟨listed, once⟩
  | accept _ ih => exact ih listed once
  | @subscribe _ url _ _ fresh _ ih =>
      apply ih (List.mem_append_left [url] listed)
      apply List.Nodup.append once (List.nodup_singleton url)
      intro other member last
      exact fresh (List.mem_singleton.mp last ▸ member)
  | @unsubscribe _ url _ _ free _ ih =>
      exact ih ((List.mem_erase_of_ne (Ne.symm free)).mpr listed) (once.erase url)

end Post

namespace Dispatcher

variable {Outside : Type}

def post (dispatcher : Dispatcher) (estate : Estate Outside) : Post where
  pending := ((estate.queue? dispatcher.forwarder).map Ring.toList).getD []
  sequence := estate.sequence dispatcher.manager
  subscribers := estate.subscribers dispatcher.manager

/-- The dispatcher's forwarder and manager are there, and the forwarder's ring is sound. -/
structure Ready (dispatcher : Dispatcher) (estate : Estate Outside) : Prop where
  queue : ∃ ring, estate.queue? dispatcher.forwarder = some ring ∧
    ring.Holds (dispatcher.post estate).pending
  manager : ∃ manager, estate.manager? dispatcher.manager = some manager

/-- What others do to the post of the dispatcher, in an estate that stays ready for it. -/
def Goes (dispatcher : Dispatcher) (kept : String → Prop) (before : Estate Outside)
    (more : List ForwardedEvent) (after : Estate Outside) : Prop :=
  dispatcher.Ready after ∧ Post.Goes kept (dispatcher.post before) more (dispatcher.post after)

def withSettings (settings : DispatcherSettings) (dispatcher : Dispatcher) : Dispatcher :=
  { dispatcher with settings }

variable {dispatcher : Dispatcher} {estate : Estate Outside} {kept : String → Prop}

theorem ready_withSettings (settings : DispatcherSettings) :
    (dispatcher.withSettings settings).Ready estate ↔ dispatcher.Ready estate :=
  ⟨fun ready => ⟨ready.queue, ready.manager⟩, fun ready => ⟨ready.queue, ready.manager⟩⟩

theorem Goes.trans {first second third : Estate Outside} {more others : List ForwardedEvent}
    (former : dispatcher.Goes kept first more second)
    (latter : dispatcher.Goes kept second others third) :
    dispatcher.Goes kept first (more ++ others) third :=
  ⟨latter.1, former.2.trans latter.2⟩

theorem post_eq {ring : Ring ForwardedEvent} {items : List ForwardedEvent} {manager : Manager}
    (queue : estate.queue? dispatcher.forwarder = some ring) (holds : ring.Holds items)
    (known : estate.manager? dispatcher.manager = some manager) :
    dispatcher.post estate = ⟨items, manager.sequence, manager.subscribers⟩ := by
  rw [post, queue, Option.map_some, Option.getD_some, Ring.toList_eq holds, Estate.sequence,
    Estate.subscribers, known]
  rfl

theorem ready_of {ring : Ring ForwardedEvent} {items : List ForwardedEvent} {manager : Manager}
    (queue : estate.queue? dispatcher.forwarder = some ring) (holds : ring.Holds items)
    (known : estate.manager? dispatcher.manager = some manager) : dispatcher.Ready estate := by
  have same := post_eq queue holds known
  exact ⟨⟨ring, queue, same ▸ holds⟩, manager, known⟩

theorem peek_nil (ready : dispatcher.Ready estate)
    (drained : (dispatcher.post estate).pending = []) :
    (estate.queue? dispatcher.forwarder).map Ring.peek = some (.error .empty) := by
  obtain ⟨ring, queue, holds⟩ := ready.queue
  rw [drained] at holds
  rw [queue, Option.map_some, Ring.peek_nil holds]

theorem peek_cons {event : ForwardedEvent} {rest : List ForwardedEvent}
    (ready : dispatcher.Ready estate) (front : (dispatcher.post estate).pending = event :: rest) :
    (estate.queue? dispatcher.forwarder).map Ring.peek = some (.ok event) := by
  obtain ⟨ring, queue, holds⟩ := ready.queue
  rw [front] at holds
  rw [queue, Option.map_some, Ring.peek_cons holds]

theorem queue_setQueue {index : Nat} {ring other : Ring ForwardedEvent}
    (queue : estate.queue? index = some ring) :
    (estate.setQueue index other).queue? index = some other := by
  have here : index < estate.sinks.length := by
    unfold Estate.queue? Estate.sink? at queue
    split at queue
    next found => exact (List.getElem?_eq_some_iff.mp found).1
    next => cases queue
  simp [Estate.queue?, Estate.sink?, Estate.setQueue, Estate.setSink, here]

theorem sink_of_queue {index : Nat} {ring : Ring ForwardedEvent}
    (queue : estate.queue? index = some ring) : estate.sink? index = some (.forwarder ring) := by
  unfold Estate.queue? at queue
  split at queue
  next found => exact Option.some.inj queue ▸ found
  next => cases queue

theorem manager_modifyManager (estate : Estate Outside) (manager : ManagerRef)
    (change : Manager → Manager) :
    (estate.modifyManager manager change).manager? manager = (estate.manager? manager).map change := by
  simp [Estate.manager?, Estate.modifyManager]

theorem retire_eq {event : ForwardedEvent} {rest : List ForwardedEvent}
    (ready : dispatcher.Ready estate) (front : (dispatcher.post estate).pending = event :: rest) :
    ∃ next, estate.retire dispatcher = (.ok (), next) ∧ dispatcher.Ready next ∧
      dispatcher.post next =
        ⟨rest, (dispatcher.post estate).sequence + 1, (dispatcher.post estate).subscribers⟩ := by
  obtain ⟨ring, queue, holds⟩ := ready.queue
  obtain ⟨manager, known⟩ := ready.manager
  rw [front] at holds
  have dequeued := Ring.dequeue_eq holds
  have shortened := Ring.shortened_holds holds
  refine ⟨(estate.setQueue dispatcher.forwarder ring.shortened).modifyManager dispatcher.manager
    Manager.increment, ?_, ?_⟩
  · rw [Estate.retire, queue]
    simp only [dequeued]
  · have queueNext : ((estate.setQueue dispatcher.forwarder ring.shortened).modifyManager
        dispatcher.manager Manager.increment).queue? dispatcher.forwarder = some ring.shortened :=
      queue_setQueue queue
    have managerHere : (estate.setQueue dispatcher.forwarder ring.shortened).manager?
        dispatcher.manager = some manager := known
    have managerNext := manager_modifyManager (estate.setQueue dispatcher.forwarder ring.shortened)
      dispatcher.manager Manager.increment
    rw [managerHere, Option.map_some] at managerNext
    have before := post_eq queue holds known
    refine ⟨ready_of queueNext shortened managerNext, ?_⟩
    rw [post_eq queueNext shortened managerNext, before]
    rfl

theorem goes_refl (ready : dispatcher.Ready estate) : dispatcher.Goes kept estate [] estate :=
  ⟨ready, .rest⟩

theorem forwarded_names {entityAt : EntityRef → Option Entity} {event : Event} {item : ForwardedEvent}
    (rendered : event.forwarded entityAt = .ok item) :
    item.resourceType = event.resourceType ∧ item.operation = event.operation ∧
      item.resourceId = event.resourceId ∧
      Payload.renderAll entityAt event.payload = .ok item.objectsJson := by
  unfold Event.forwarded at rendered
  cases objects : Payload.renderAll entityAt event.payload with
  | error refusal =>
      rw [objects] at rendered
      cases rendered
  | ok texts =>
      rw [objects] at rendered
      obtain rfl := Except.ok.inj rendered
      exact ⟨rfl, rfl, rfl, rfl⟩

/-- A forwarder queues an event as it is rendered, or refuses it and stays as it is. -/
theorem receive_cases {index : Nat} {ring : Ring ForwardedEvent}
    (queue : estate.queue? index = some ring) (event : Event) :
    (∃ item next, event.forwarded estate.entity? = .ok item ∧ ring.enqueue item = .ok next ∧
      estate.sinkReceives index event = (.ok (), estate.setQueue index next)) ∨
    ∃ refusal, estate.sinkReceives index event = (.error refusal, estate) := by
  have sink := sink_of_queue queue
  cases rendered : event.forwarded estate.entity? with
  | error refusal =>
      right
      exact ⟨refusal, by simp [Estate.sinkReceives, sink, Sink.receive, Sink.forward, rendered, Except.map]⟩
  | ok item =>
      cases enqueued : ring.enqueue item with
      | error cause =>
          right
          exact ⟨.queue cause, by
            simp [Estate.sinkReceives, sink, Sink.receive, Sink.forward, rendered, enqueued, Except.map,
              Except.mapError]⟩
      | ok next =>
          left
          refine ⟨item, next, rfl, enqueued, ?_⟩
          simp [Estate.sinkReceives, sink, Sink.receive, Sink.forward, rendered, enqueued, Except.map,
            Except.mapError, Estate.setQueue]

theorem goes_onOutside {before after : Estate Outside} {more : List ForwardedEvent}
    (goes : dispatcher.Goes kept before more after) (change : Outside → Outside) :
    dispatcher.Goes kept before more (after.onOutside change) :=
  ⟨⟨goes.1.queue, goes.1.manager⟩, goes.2⟩

theorem receive_goes (ready : dispatcher.Ready estate) (event : Event) :
    ∃ more, dispatcher.Goes kept estate more (estate.sinkReceives dispatcher.forwarder event).2 := by
  obtain ⟨ring, queue, holds⟩ := ready.queue
  obtain ⟨manager, known⟩ := ready.manager
  rcases receive_cases queue event with ⟨item, next, _, enqueued, received⟩ | ⟨refusal, refused⟩
  · have held := Ring.enqueue_holds holds enqueued
    have queueNext : (estate.setQueue dispatcher.forwarder next).queue?
        dispatcher.forwarder = some next := queue_setQueue queue
    have managerNext : (estate.setQueue dispatcher.forwarder next).manager?
        dispatcher.manager = some manager := known
    rw [received]
    refine ⟨[item], ready_of queueNext held managerNext, .accept ?_⟩
    rw [post_eq queueNext held managerNext, post_eq queue holds known]
    exact .rest
  · rw [refused]
    exact ⟨[], goes_refl ready⟩

theorem manager_goes {manager : Manager} (ready : dispatcher.Ready estate)
    (known : estate.manager? dispatcher.manager = some manager) {change : Manager → Manager}
    (goes : ∀ pending, Post.Goes kept ⟨pending, manager.sequence, manager.subscribers⟩ []
      ⟨pending, (change manager).sequence, (change manager).subscribers⟩) :
    dispatcher.Goes kept estate [] (estate.modifyManager dispatcher.manager change) := by
  obtain ⟨ring, queue, holds⟩ := ready.queue
  have queueNext : (estate.modifyManager dispatcher.manager change).queue?
      dispatcher.forwarder = some ring := queue
  have managerNext := manager_modifyManager estate dispatcher.manager change
  rw [known, Option.map_some] at managerNext
  refine ⟨ready_of queueNext holds managerNext, ?_⟩
  rw [post_eq queueNext holds managerNext, post_eq queue holds known]
  exact goes _

theorem subscribe_goes (ready : dispatcher.Ready estate) (url : String) :
    dispatcher.Goes kept estate []
      (estate.modifyManager dispatcher.manager (Manager.subscribe url)) := by
  obtain ⟨manager, known⟩ := ready.manager
  apply manager_goes ready known
  intro pending
  rw [Manager.subscribe]
  by_cases listed : manager.subscribers.contains url = true
  · rw [if_pos listed]
    exact .rest
  · rw [if_neg listed]
    exact .subscribe (fun member => listed (List.contains_iff_mem.mpr member)) .rest

theorem unsubscribe_goes {manager next : Manager} (ready : dispatcher.Ready estate)
    (known : estate.manager? dispatcher.manager = some manager) {url : String} (free : ¬kept url)
    (removed : manager.unsubscribe url = .ok next) :
    dispatcher.Goes kept estate [] (estate.modifyManager dispatcher.manager fun _ => next) := by
  apply manager_goes ready known
  intro pending
  rw [Manager.unsubscribe] at removed
  split at removed
  · cases removed
    exact .unsubscribe free .rest
  · cases removed

theorem refit_goes (ready : dispatcher.Ready estate) (factory : SinkFactory) :
    dispatcher.Goes kept estate []
      (estate.modifyManager dispatcher.manager fun found => { found with factory }) := by
  obtain ⟨manager, known⟩ := ready.manager
  apply manager_goes ready known
  intro pending
  exact .rest

end Dispatcher

end Landscape

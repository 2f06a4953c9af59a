import Landscape.Proofs.Delivery.Traffic
import Landscape.Proofs.Sound

/-!
Events from a model to the sequence of a manager are neither lost nor made up. Calls, those that are refused
and those that a transport makes while a delivery is under way included, and passes, whether they succeed or
fail, keep the balance of what was accepted, what waits and what the sequence counts, and an addition or a
deletion contributes one event exactly when it succeeds.
-/

namespace Landscape

namespace Estate

variable {dispatcher : Dispatcher} {capacity : Nat} {model : ModelRef}

/-- A step that leaves the forwarder, the managers and the books alone, and to whom models report. -/
structure Quiet {Outside : Type} (before after : Estate Outside) : Prop
    extends before.SameSinks after where
  reports : ∀ model sink, (before.model? model).map Model.sink = some sink →
    (after.model? model).map Model.sink = some sink
  outside : after.outside = before.outside

theorem Quiet.runs {before after : Estate Books} (quiet : before.Quiet after) :
    before.Runs dispatcher capacity model after where
  accepts := by
    rw [quiet.outside]
  records := by
    rw [quiet.outside]
  keeps _ inOrder := by
    obtain ⟨gone, items, accepted, balanced⟩ := inOrder.balanced
    refine ⟨⟨gone, items, ?_, balanced.of_sameSinks quiet.sinks quiet.managers⟩,
      quiet.reports model _ inOrder.reports, ?_⟩
    · rw [quiet.outside]
      exact accepted
    · rw [quiet.outside]
      exact inOrder.receipts

theorem receipted_runs {errand : Errand} {answer : Call.Answer} {before after : Estate Books}
    (accepts : before.outside.accepted <+: after.outside.accepted)
    (records : before.outside.receipts <+: after.outside.receipts)
    (keeps : Receipt.Fair dispatcher ⟨errand, before.seen, answer, after.seen⟩ →
      (∀ receipt ∈ after.outside.receipts, receipt.Fair dispatcher) →
      before.InOrder dispatcher capacity model → after.InOrder dispatcher capacity model)
    (contributes : before.InOrder dispatcher capacity model →
      Receipt.Contributes model ⟨errand, before.seen, answer, after.seen⟩) :
    before.Runs dispatcher capacity model (after.receipted errand before.seen answer) where
  accepts := accepts
  records := records.trans (List.prefix_append _ _)
  keeps fair inOrder := by
    have kept := keeps (fair _ (List.mem_append_right _ List.mem_cons_self))
      (fun receipt member => fair receipt (List.mem_append_left _ member)) inOrder
    obtain ⟨gone, items, accepted, balanced⟩ := kept.balanced
    refine ⟨⟨gone, items, accepted, balanced.of_sameSinks rfl rfl⟩, kept.reports, ?_⟩
    intro receipt member
    rcases List.mem_append.mp member with former | last
    · exact kept.receipts receipt former
    · obtain rfl := List.mem_singleton.mp last
      exact ⟨inOrder.conserves, kept.conserves, contributes inOrder, List.prefix_rfl⟩

end Estate

namespace Call

open Estate

variable {Outside : Type} {estate after now final : Estate Outside} {call : Call}

theorem Opens.reports (opens : call.Opens estate now) (model : ModelRef) (sink : SinkRef)
    (reports : (estate.model? model).map Model.sink = some sink) :
    (now.model? model).map Model.sink = some sink := by
  obtain ⟨middle, alters, beside⟩ := opens
  rw [model?, beside.models, ← model?]
  cases alters with
  | nothing | modifies | makesEntity => exact reports
  | enters =>
      rw [entered, sink_setRegistry, model_bindSlots]
      exact reports
  | withdraws | lists => exact (sink_setRegistry _ _ _ _ _).trans reports
  | makesModel other =>
      obtain ⟨owner, made, same⟩ := Option.map_eq_some_iff.mp reports
      have inside : model.index < estate.models.length := (List.getElem?_eq_some_iff.mp made).1
      have kept : (estate.addModel (.new other)).2.model? model = some owner :=
        (List.getElem?_append_left inside).trans made
      rw [kept]
      exact congrArg some same

theorem Closes.reports (closes : call.Closes estate after final) (model : ModelRef) (sink : SinkRef)
    (reports : (after.model? model).map Model.sink = some sink) :
    (final.model? model).map Model.sink = some sink := by
  obtain ⟨middle, settles, beside⟩ := closes
  rw [model?, beside.models, ← model?]
  cases settles with
  | nothing | registers => exact reports
  | restores => exact (sink_setRegistry _ _ _ _ _).trans reports

theorem opening_quiet (call : Call) (here : call.isElsewhere = false) (estate : Estate Outside) :
    (call.opening estate).Satisfies estate.Quiet Quiet :=
  ((call.opening_sameSinks here estate).and (call.opening_effect estate)).imp
    (fun _ both => ⟨both.1, both.2.reports, both.2.outside⟩)
    (fun _ _ both => ⟨both.1, both.2.reports, both.2.outside⟩)

end Call

namespace Estate

variable {dispatcher : Dispatcher} {capacity : Nat} {model : ModelRef}
  {inner : Estate Books → Estate Books}

theorem hearing_runs (hears : ∀ found : Estate Books, found.Runs dispatcher capacity model (inner found))
    (verdict : Except EventError Unit) (sink : SinkRef) (event : Event) (found : Estate Books) :
    found.Runs dispatcher capacity model (dispatcher.hearing verdict inner sink event found).2 := by
  unfold Dispatcher.hearing
  split
  · exact accept_runs event found
  · exact hears found

theorem perform_runs (hears : ∀ found : Estate Books, found.Runs dispatcher capacity model (inner found))
    (verdict : Except EventError Unit) {wanted : Call} (here : wanted.isElsewhere = false)
    (estate : Estate Books) :
    estate.Runs dispatcher capacity model
      (wanted.perform (dispatcher.hearing verdict inner) estate).2 := by
  have quiet := wanted.opening_quiet here estate
  rw [Call.perform_opening]
  exact (quiet.imp (fun _ => Quiet.runs) (fun _ _ => Quiet.runs)).finishes
    (hearing_runs hears verdict) Runs.trans

theorem elsewhere_keeps {sinks : List Sink} {managers : List Manager} {held : List Holding}
    {answer : Call.Answer} {final : Estate (List ForwardedEvent)} {estate : Estate Books}
    (fair : Receipt.Fair dispatcher ⟨.call (.elsewhere sinks managers held), estate.seen, answer, final⟩)
    (inOrder : estate.InOrder dispatcher capacity model) :
    InOrder dispatcher capacity model { estate with sinks, managers, held } := by
  obtain ⟨sink, sequence⟩ := fair sinks managers held rfl
  obtain ⟨gone, items, accepted, balanced⟩ := inOrder.balanced
  refine ⟨⟨gone, items, accepted, ?_, sequence.trans balanced.sequence⟩, inOrder.reports,
    inOrder.receipts⟩
  have same : { estate with sinks, managers, held }.sink? dispatcher.forwarder =
      estate.sink? dispatcher.forwarder := sink
  rw [queue?, same]
  exact balanced.queue

theorem settle_contributes {index : Nat} {found after : Estate Books} {ring : Ring ForwardedEvent}
    (queue : found.queue? index = some ring) {event : Event} {verdict : Except EventError Unit}
    (reply : found.accept index event = (verdict, after)) (holdings : List Holding)
    (owner : ModelRef) (kind : Kind) (id : ResourceId) (previous : Option EntityRef)
    {finish : Estate Books → Estate Books}
    (kept : ∀ released : Estate Books, (finish released).outside = released.outside) :
    let settled := settle owner kind id previous finish (after.release holdings) verdict
    Contributed (event.resourceType, event.resourceId) found.outside.accepted
      (.ofChange settled.1) settled.2.outside.accepted := by
  rcases accept_cases queue event with ⟨item, next, rendered, _, taken⟩ | ⟨refusal, refused⟩
  · obtain ⟨rfl, rfl⟩ := Prod.mk.inj (taken.symm.trans reply)
    obtain ⟨type, _, identity, _⟩ := Dispatcher.forwarded_names rendered
    refine .inl ⟨rfl, item, ?_, by rw [type, identity]⟩
    rw [settle, kept]
    rfl
  · obtain ⟨rfl, rfl⟩ := Prod.mk.inj (refused.symm.trans reply)
    exact .inr ⟨.event refusal, rfl, rfl⟩

theorem add_contributes (verdict : Except EventError Unit) {estate : Estate Books} {owner : Model}
    {entity : EntityRef} {found : Entity} {ring : Ring ForwardedEvent}
    (here : estate.entity? entity = some found) (made : estate.model? model = some owner)
    (sink : owner.sink = .made dispatcher.forwarder)
    (queue : estate.queue? dispatcher.forwarder = some ring) :
    let outcome := (Call.add model entity).perform (dispatcher.hearing verdict inner) estate
    Contributed (.entity found.kind, found.id) estate.outside.accepted outcome.1
      outcome.2.outside.accepted := by
  intro outcome
  by_cases unset : found.id.isNil = true
  · right
    exact ⟨.identityNotSet, by simp [outcome, Call.perform_add_nil _ here made unset]⟩
  have given : found.id.isNil = false := by simpa using unset
  by_cases own : found.model = model
  case neg =>
    right
    exact ⟨.modelMismatch found.id, by simp [outcome, Call.perform_add_foreign _ here made given own]⟩
  -- the forwarder is handed the event in an estate where only entities and the store were touched
  have queueOnAdd : (estate.onAdd model entity found).queue? dispatcher.forwarder = some ring :=
    (queue_of_sinks (bindSlots_aside entity estate).sinks _).trans queue
  obtain ⟨⟨answer, after⟩, reply⟩ : ∃ reply, (estate.onAdd model entity found).accept
    dispatcher.forwarder (storedEvent entity found (estate.stored model found.kind found.id)) = reply :=
    ⟨_, rfl⟩
  have heard : dispatcher.hearing verdict inner owner.sink
      (storedEvent entity found (estate.stored model found.kind found.id))
      (estate.onAdd model entity found) = (answer, after) := by
    rw [Dispatcher.hearing, if_pos sink, reply]
  simp only [outcome, Call.perform, Call.answering, add_delivers here made given own heard]
  rw [← outside_onAdd model entity found estate]
  exact settle_contributes queueOnAdd reply _ _ _ _ _ fun _ => rfl

theorem delete_contributes (verdict : Except EventError Unit) {estate : Estate Books} {owner : Model}
    {ring : Ring ForwardedEvent} (made : estate.model? model = some owner)
    (sink : owner.sink = .made dispatcher.forwarder)
    (queue : estate.queue? dispatcher.forwarder = some ring) (kind : Kind) (id : ResourceId) :
    let outcome := (Call.delete model kind id).perform (dispatcher.hearing verdict inner) estate
    Contributed (.entity kind, id) estate.outside.accepted outcome.1 outcome.2.outside.accepted := by
  intro outcome
  cases present : estate.stored model kind id with
  | none =>
      right
      exact ⟨.notFound (.entity kind) id, by simp [outcome, Call.perform_delete_absent _ made present]⟩
  | some removed =>
      have queueThere : (estate.onDelete model kind id removed).queue? dispatcher.forwarder = some ring :=
        queue
      obtain ⟨⟨answer, after⟩, reply⟩ : ∃ reply, (estate.onDelete model kind id removed).accept
        dispatcher.forwarder (deletedEvent kind id) = reply := ⟨_, rfl⟩
      have heard : dispatcher.hearing verdict inner owner.sink (deletedEvent kind id)
          (estate.onDelete model kind id removed) = (answer, after) := by
        rw [Dispatcher.hearing, if_pos sink, reply]
      simp only [outcome, Call.perform, Call.answering, delete_delivers made present heard]
      exact settle_contributes queueThere reply _ _ _ _ _ fun _ => rfl

theorem perform_contributes (verdict : Except EventError Unit) (wanted : Call) {estate : Estate Books}
    (inOrder : estate.InOrder dispatcher capacity model) :
    let outcome := wanted.perform (dispatcher.hearing verdict inner) estate
    Receipt.Contributes model ⟨.call wanted, estate.seen, outcome.1, outcome.2.seen⟩ := by
  rintro outcome _ subject ⟨⟩ about
  obtain ⟨owner, made, reports⟩ := Option.map_eq_some_iff.mp inOrder.reports
  obtain ⟨_, _, _, ⟨ring, queue, _, _⟩, _⟩ := inOrder.balanced
  cases wanted with
  | add other entity =>
      by_cases same : other = model
      · subst same
        rw [Call.subject?, if_pos rfl] at about
        obtain ⟨found, here, rfl⟩ := Option.map_eq_some_iff.mp about
        exact add_contributes verdict here made reports queue
      · rw [Call.subject?, if_neg same] at about
        cases about
  | delete other kind id =>
      by_cases same : other = model
      · subst same
        rw [Call.subject?, if_pos rfl] at about
        obtain rfl := Option.some.inj about
        exact delete_contributes verdict made reports queue kind id
      · rw [Call.subject?, if_neg same] at about
        cases about
  | _ => cases about

end Estate

namespace Traffic

open Estate

variable {dispatcher : Dispatcher} {capacity : Nat} {model : ModelRef}

/-- Whatever is done around the dispatcher keeps the books in order. -/
theorem run_runs (traffic : Traffic) (estate : Estate Books) :
    estate.Runs dispatcher capacity model (traffic.run dispatcher estate) := by
  -- along the tree, first what sinks do while they hear and what the transport does on its way
  induction traffic generalizing estate with
  | done => exact .refl estate
  | call wanted inner verdict rest hears goes =>
      refine Runs.trans ?_ (goes _)
      cases here : wanted.isElsewhere with
      | false =>
          have performed := perform_runs hears verdict here estate
          exact receipted_runs performed.accepts performed.records
            (fun _ fair inOrder => performed.keeps fair inOrder) (perform_contributes verdict wanted)
      | true =>
          cases wanted with
          | elsewhere sinks managers held =>
              exact receipted_runs List.prefix_rfl List.prefix_rfl
                (fun fair _ inOrder => elsewhere_keeps fair inOrder) (perform_contributes verdict _)
          | _ => cases here
  | post event rest goes =>
      have accepted : estate.Runs dispatcher capacity model (estate.accept dispatcher.forwarder event).2 :=
        accept_runs event estate
      refine (receipted_runs accepted.accepts accepted.records
        (fun _ fair inOrder => accepted.keeps fair inOrder) ?_).trans (goes _)
      rintro _ _ _ ⟨⟩
  | pass settings rounds answers rest carries goes =>
      have carrying : ∀ url event (estate : Estate Books), estate.Runs dispatcher capacity model
          (Dispatcher.carrying (fun turn => (rounds turn).run dispatcher) answers url event estate).2 := by
        intro url event estate
        exact (counted_runs estate).trans (carries _ _)
      have passed := dispatchUpTo_runs carrying settings (max settings.maxBatch 1) estate
      refine (receipted_runs passed.accepts passed.records
        (fun _ fair inOrder => passed.keeps fair inOrder) ?_).trans (goes _)
      rintro _ _ _ ⟨⟩

end Traffic

structure Estate.Fresh (dispatcher : Dispatcher) (capacity : Nat) (model : ModelRef)
    (estate : Estate Books) : Prop where
  forwarder : estate.sink? dispatcher.forwarder = some (.forwarder (.new capacity))
  sequence : (estate.manager? dispatcher.manager).map Manager.sequence = some 0
  reports : (estate.model? model).map Model.sink = some (.made dispatcher.forwarder)
  outside : estate.outside = ⟨[], 0, []⟩

theorem Estate.Fresh.inOrder {dispatcher : Dispatcher} {capacity : Nat} {model : ModelRef}
    {estate : Estate Books} (fresh : estate.Fresh dispatcher capacity model) :
    estate.InOrder dispatcher capacity model := by
  have queue : estate.queue? dispatcher.forwarder = some (.new capacity) := by
    rw [Estate.queue?, fresh.forwarder]
  refine ⟨⟨[], [], ?_, ⟨_, queue, Ring.new_holds capacity, ?_⟩, fresh.sequence⟩, fresh.reports, ?_⟩
  · rw [fresh.outside]
    rfl
  · rw [Ring.capacity, Ring.new, Array.size_replicate]
  · rw [fresh.outside]
    exact List.forall_mem_nil _

namespace Traffic

open Estate

/-- Whatever is done around the dispatcher, as long as only its forwarder feeds the queue and only it takes
from the queue and moves the sequence: before and after every errand, those of a transport during a delivery
included, as many events were accepted as the sequence counts and the queue holds, and the queue holds the
last of them in their order and within its capacity. Every addition to the model and every deletion from it
that succeeded contributed one of them, and every one that was refused none. -/
theorem conservation (traffic : Traffic) (dispatcher : Dispatcher) (capacity : Nat) (model : ModelRef)
    (start : Estate Books) (fresh : start.Fresh dispatcher capacity model)
    (fair : ∀ receipt ∈ (traffic.run dispatcher start).outside.receipts, receipt.Fair dispatcher) :
    Conserves dispatcher capacity (traffic.run dispatcher start).seen ∧
      ∀ receipt ∈ (traffic.run dispatcher start).outside.receipts,
        receipt.Stands dispatcher capacity model (traffic.run dispatcher start).outside.accepted := by
  have final := (traffic.run_runs start).keeps fair fresh.inOrder
  exact ⟨final.conserves, final.receipts⟩

end Traffic

def branch : Estate Books :=
  { Estate.empty ⟨[], 0, []⟩ with
    entities := [.new ⟨0⟩ .node (.repeating 1)]
    models := [.new (.made 0)]
    sinks := [.forwarder (.new 2)]
    managers := [⟨0, ["http://localhost/hook"], .sharing (.made 0)⟩]
    held := [.model ⟨0⟩] }

/-- A second sink is made and the node is added. Its delivery fails after the transport has deleted the node,
so another addition finds the queue full, until a pass delivers both events. -/
def busyDay : Traffic :=
  .call (.elsewhere [.forwarder (.new 2), .discard] branch.managers branch.held) .done (.ok ()) <|
  .call (.add ⟨0⟩ ⟨0⟩) .done (.ok ()) <|
  .pass {} (fun _ => .call (.delete ⟨0⟩ .node (.repeating 1)) .done (.ok ()) .done)
    (fun _ => .error "timeout") <|
  .call (.add ⟨0⟩ ⟨0⟩) .done (.ok ()) <|
  .pass {} (fun _ => .done) (fun _ => .ok ()) <|
  .call (.add ⟨0⟩ ⟨0⟩) .done (.ok ()) .done

def branchDispatcher : Dispatcher := ⟨{}, 0, ⟨0⟩⟩

theorem busyDay_conserves :
    (busyDay.run branchDispatcher branch).outside.receipts.map Receipt.answer =
      [.done, .done, .done, .unreceived (.delivery "http://localhost/hook" "timeout"),
        .refused (.event (.queue (.full 2))), .number 2, .done] ∧
    Conserves branchDispatcher 2 (busyDay.run branchDispatcher branch).seen ∧
      ∀ receipt ∈ (busyDay.run branchDispatcher branch).outside.receipts,
        receipt.Stands branchDispatcher 2 ⟨0⟩
          (busyDay.run branchDispatcher branch).outside.accepted := by
  have fair : (busyDay.run branchDispatcher branch).outside.receipts.Forall
      (Receipt.Fair branchDispatcher) := by
    refine ⟨?_, ?_, ?_, ?_, ?_, ?_, ?_⟩
    all_goals rintro _ _ _ ⟨⟩
    exact ⟨rfl, rfl⟩
  exact ⟨by rfl, busyDay.conservation branchDispatcher 2 ⟨0⟩ branch ⟨rfl, rfl, rfl, rfl⟩
    (List.forall_iff_forall_mem.mp fair)⟩

end Landscape

import Landscape.Proofs.Calls
import Mathlib.Data.Set.Card

/-!
The store of a model as one partial map from kinds and identities to entities. `Shelf` is that map, with
the entities that count as registered; `Shelf.Step` says what each call on a store answers and hands over,
and what becomes of the map. The registries with their kept lists, and the writing before the report with
the taking back after a refusal, do exactly this, for any sink that leaves the model alone.
-/

namespace Landscape

structure Shelf where
  held : Kind → ResourceId → Option EntityRef
  registered : EntityRef → Prop

namespace Shelf

def empty : Shelf := ⟨fun _ _ => none, fun _ => False⟩

def write (kind : Kind) (id : ResourceId) (value : Option EntityRef) (shelf : Shelf) : Shelf :=
  { shelf with held := fun otherKind other =>
      if otherKind = kind ∧ other = id then value else shelf.held otherKind other }

def register (entity : EntityRef) (shelf : Shelf) : Shelf :=
  { shelf with registered := fun other => other = entity ∨ shelf.registered other }

def keys (kind : Kind) (shelf : Shelf) : Set ResourceId :=
  {id | (shelf.held kind id).isSome}

noncomputable def count (shelf : Shelf) : ResourceType → Nat
  | .entity kind => (shelf.keys kind).ncard
  | _ => 0

/-- One call on the store of a model that reports to the sink: what sinks are handed, what is answered,
and the map afterwards. The cards tell what the entities are. -/
inductive Step (model : ModelRef) (sink : SinkRef) (cards : EntityRef → Option Card) :
    Shelf → Call → List Handed → Call.Answer → Shelf → Prop where
  | add_nil {shelf entity card} (known : cards entity = some card) (unset : card.id.isNil = true) :
      Step model sink cards shelf (.add model entity) [] (.refused .identityNotSet) shelf
  | add_foreign {shelf entity card} (known : cards entity = some card)
      (given : card.id.isNil = false) (foreign : card.model ≠ model) :
      Step model sink cards shelf (.add model entity) [] (.refused (.modelMismatch card.id)) shelf
  | add_refused {shelf entity card operation refusal} (known : cards entity = some card)
      (given : card.id.isNil = false) (own : card.model = model)
      (reported : operation =
        if (shelf.held card.kind card.id).isSome then .update else .create) :
      Step model sink cards shelf (.add model entity)
        [⟨sink, ⟨.entity card.kind, operation, card.id, [.resource entity]⟩, .error refusal⟩]
        (.refused (.event refusal)) shelf
  | add_taken {shelf entity card operation} (known : cards entity = some card)
      (given : card.id.isNil = false) (own : card.model = model)
      (reported : operation =
        if (shelf.held card.kind card.id).isSome then .update else .create) :
      Step model sink cards shelf (.add model entity)
        [⟨sink, ⟨.entity card.kind, operation, card.id, [.resource entity]⟩, .ok ()⟩]
        .done ((shelf.write card.kind card.id (some entity)).register entity)
  | delete_absent {shelf kind id} (absent : shelf.held kind id = none) :
      Step model sink cards shelf (.delete model kind id) []
        (.refused (.notFound (.entity kind) id)) shelf
  | delete_refused {shelf kind id refusal} (present : (shelf.held kind id).isSome) :
      Step model sink cards shelf (.delete model kind id)
        [⟨sink, ⟨.entity kind, .delete, id, []⟩, .error refusal⟩] (.refused (.event refusal)) shelf
  | delete_taken {shelf kind id} (present : (shelf.held kind id).isSome) :
      Step model sink cards shelf (.delete model kind id)
        [⟨sink, ⟨.entity kind, .delete, id, []⟩, .ok ()⟩] .done (shelf.write kind id none)
  | find {shelf kind id} :
      Step model sink cards shelf (.find model kind id) [] (.entity (shelf.held kind id)) shelf
  | list {shelf kind listed} (once : listed.Nodup)
      (all : ∀ entity, entity ∈ listed ↔ ∃ id, shelf.held kind id = some entity) :
      Step model sink cards shelf (.list model kind) [] (.entities listed) shelf
  | count {shelf type} :
      Step model sink cards shelf (.count model type) [] (.number (shelf.count type)) shelf

end Shelf

structure Turn (Outside : Type) where
  call : Call
  before : Estate Outside
  handed : List Handed
  answer : Call.Answer
  after : Estate Outside

section Runs
variable {Outside : Type}

def Call.turn (deliver : Deliver Outside) (estate : Estate Outside) (call : Call) : Turn Outside where
  call := call
  before := estate
  handed := call.handed deliver estate
  answer := (call.perform deliver estate).1
  after := (call.perform deliver estate).2

def performAll (deliver : Deliver Outside) : List Call → Estate Outside → Estate Outside
  | [], estate => estate
  | call :: rest, estate => performAll deliver rest (call.perform deliver estate).2

def turns (deliver : Deliver Outside) : List Call → Estate Outside → List (Turn Outside)
  | [], _ => []
  | call :: rest, estate =>
      call.turn deliver estate :: turns deliver rest (call.perform deliver estate).2

/-- A write that no sink hears of changes nothing at all. -/
def Turn.Still (turn : Turn Outside) : Prop :=
  turn.call.isWrite = true → turn.handed = [] → turn.after = turn.before

theorem Turn.still_of_reads {turn : Turn Outside} (reads : turn.call.isWrite = false) :
    turn.Still := by
  intro writes
  rw [reads] at writes
  cases writes

/-- The map goes along with every turn. -/
inductive Shelf.Run (model : ModelRef) (sink : SinkRef) (cards : EntityRef → Option Card) :
    Shelf → List (Turn Outside) → Shelf → Prop where
  | done {shelf} : Run model sink cards shelf [] shelf
  | next {shelf middle after turn rest}
      (step : Step model sink cards shelf turn.call turn.handed turn.answer middle)
      (still : turn.Still) (later : Run model sink cards middle rest after) :
      Run model sink cards shelf (turn :: rest) after

def Call.OnStore (model : ModelRef) (cards : EntityRef → Option Card) : Call → Prop
  | .add owner entity => owner = model ∧ (cards entity).isSome
  | .delete owner _ _ | .find owner _ _ | .list owner _ | .count owner _ => owner = model
  | _ => False

/-- A sink that takes or refuses every event as it likes and leaves the model alone. -/
def Quiet (deliver : Deliver Outside) (model : ModelRef) (sink : SinkRef) : Prop :=
  ∀ event (estate : Estate Outside), estate.Leaves model (deliver sink event estate).2

end Runs

structure Agrees {Outside : Type} (model : ModelRef) (sink : SinkRef)
    (cards : EntityRef → Option Card) (shelf : Shelf) (estate : Estate Outside) : Prop where
  made : ∃ owner, estate.model? model = some owner ∧ owner.sink = sink
  known : ∀ entity card, cards entity = some card → estate.card? entity = some card
  sound : ∀ kind, (estate.registry model kind).Sound
  held : ∀ kind id, estate.stored model kind id = shelf.held kind id
  placed : ∀ kind id entity, shelf.held kind id = some entity → cards entity = some ⟨kind, id, model⟩
  registered : ∀ entity, estate.Registered model entity ↔ shelf.registered entity

namespace Shelf

variable {Outside : Type} {model : ModelRef} {sink : SinkRef} {cards : EntityRef → Option Card}
  {shelf : Shelf} {estate after : Estate Outside}

theorem write_back (kind : Kind) (id : ResourceId) (value : Option EntityRef) (shelf : Shelf) :
    (shelf.write kind id value).write kind id (shelf.held kind id) = shelf := by
  cases shelf with
  | mk held registered =>
      simp only [write, mk.injEq, and_true]
      funext otherKind other
      by_cases same : otherKind = kind ∧ other = id
      · simp [same]
      · simp [same]

theorem agrees_left (agrees : Agrees model sink cards shelf estate)
    (leaves : estate.Leaves model after) : Agrees model sink cards shelf after where
  made := by
    obtain ⟨owner, made, reports⟩ := agrees.made
    obtain ⟨now, madeNow, same⟩ := leaves.made owner made
    exact ⟨now, madeNow, same.trans reports⟩
  known entity card known := leaves.cards entity card (agrees.known entity card known)
  sound kind := by
    rcases leaves.store kind with same | listed
    · exact same ▸ agrees.sound kind
    · exact listed ▸ Registry.sound_list (agrees.sound kind)
  held kind id := (leaves.stored kind id).trans (agrees.held kind id)
  placed := agrees.placed
  registered entity := (leaves.registered entity).trans (agrees.registered entity)

theorem agrees_new (made : estate.model? model = some (.new sink))
    (fresh : ∀ entity, ¬ estate.Registered model entity) :
    Agrees model sink (fun entity => estate.card? entity) empty estate where
  made := ⟨_, made, rfl⟩
  known _ _ known := known
  sound kind := by
    rw [Estate.registry, made]
    exact Registry.sound_empty
  held kind id := by
    rw [Estate.stored, Estate.registry, made]
    rfl
  placed _ _ _ found := nomatch found
  registered entity := iff_of_false (fresh entity) not_false

theorem agrees_write (agrees : Agrees model sink cards shelf estate) {kind : Kind} {id : ResourceId}
    {value : Option EntityRef} {registry : Registry} (sound : registry.Sound)
    (reads : ∀ other, registry.get? other =
      if other = id then value else (estate.registry model kind).get? other)
    (placed : ∀ entity, value = some entity → cards entity = some ⟨kind, id, model⟩) :
    Agrees model sink cards (shelf.write kind id value)
      (estate.setRegistry model kind registry) := by
  obtain ⟨owner, made, reports⟩ := agrees.made
  have registries := Estate.registry_setRegistry estate made model kind
  constructor
  case made =>
    have sinks := Estate.sink_setRegistry estate model model kind registry
    rw [made, Option.map_some, reports] at sinks
    exact Option.map_eq_some_iff.mp sinks
  case known => exact agrees.known
  case sound =>
    intro otherKind
    rw [registries]
    split
    · exact sound
    · exact agrees.sound otherKind
  case held =>
    intro otherKind other
    have old := agrees.held otherKind other
    rw [Estate.stored] at old
    rw [Estate.stored, registries, write]
    by_cases sameKind : otherKind = kind
    · subst sameKind
      simp [reads, old]
    · simp [sameKind, old]
  case placed =>
    intro otherKind other entity found
    by_cases same : otherKind = kind ∧ other = id
    · obtain ⟨rfl, rfl⟩ := same
      exact placed entity (by simpa [write] using found)
    · exact agrees.placed otherKind other entity (by simpa [write, same] using found)
  case registered => exact agrees.registered

theorem agrees_register (agrees : Agrees model sink cards shelf estate) {entity : EntityRef}
    {card : Card} (known : cards entity = some card) (own : card.model = model) :
    Agrees model sink cards (shelf.register entity)
      (estate.modifyEntity entity Entity.register) where
  made := agrees.made
  known other otherCard found := by
    have same := Estate.card_modifyEntity estate entity other Entity.register fun _ => rfl
    exact same.trans (agrees.known other otherCard found)
  sound := agrees.sound
  held := agrees.held
  placed := agrees.placed
  registered other :=
    (Estate.registered_register estate (agrees.known entity card known) own other).trans
      (or_congr Iff.rfl (agrees.registered other))

theorem agrees_entered (agrees : Agrees model sink cards shelf estate) {entity : EntityRef}
    {found : Entity} (known : cards entity = some found.card) (own : found.model = model) :
    Agrees model sink cards (shelf.write found.kind found.id (some entity))
      (estate.entered model entity found) := by
  have bound := agrees_left agrees ((Estate.undisturbed_bindSlots entity estate).1 model)
  apply agrees_write bound (Registry.sound_insert (bound.sound found.kind) found.id entity)
  · intro other
    exact Registry.get_insert _ _ _ _
  · intro other same
    rw [← Option.some.inj same, known, Entity.card, own]

theorem agrees_onAdd (agrees : Agrees model sink cards shelf estate) {entity : EntityRef}
    {found : Entity} (known : cards entity = some found.card) (own : found.model = model) :
    Agrees model sink cards (shelf.write found.kind found.id (some entity))
      (estate.onAdd model entity found) :=
  agrees_left (agrees_entered agrees known own) ((Estate.undisturbed_hold _ _).1 model)

theorem agrees_restored {kind : Kind} {id : ResourceId} {value : Option EntityRef}
    (before : Agrees model sink cards shelf estate)
    (agrees : Agrees model sink cards (shelf.write kind id value) after) :
    Agrees model sink cards shelf (after.setRegistry model kind
      ((after.registry model kind).restore id (estate.stored model kind id))) := by
  have sound := Registry.sound_restore (agrees.sound kind) id (estate.stored model kind id)
  have placed : ∀ entity, estate.stored model kind id = some entity →
      cards entity = some ⟨kind, id, model⟩ := by
    intro entity same
    exact before.placed kind id entity ((before.held kind id).symm.trans same)
  have written := agrees_write agrees sound (fun other => Registry.get_restore _ _ _ _) placed
  rw [before.held kind id] at written ⊢
  have back : ((shelf.write kind id value).write kind id (shelf.held kind id)) = shelf :=
    write_back kind id value shelf
  rwa [back] at written

def Turned (model : ModelRef) (sink : SinkRef) (cards : EntityRef → Option Card) (shelf : Shelf)
    (turn : Turn Outside) : Prop :=
  ∃ middle, Step model sink cards shelf turn.call turn.handed turn.answer middle ∧
    Agrees model sink cards middle turn.after ∧ turn.Still

theorem step_add {deliver : Deliver Outside} (quiet : Quiet deliver model sink)
    (agrees : Agrees model sink cards shelf estate) {entity : EntityRef}
    (known : (cards entity).isSome) :
    Turned model sink cards shelf ((Call.add model entity).turn deliver estate) := by
  unfold Turned Turn.Still Call.turn
  obtain ⟨card, known⟩ := Option.isSome_iff_exists.mp known
  obtain ⟨found, here, rfl⟩ := Option.map_eq_some_iff.mp (agrees.known entity card known)
  obtain ⟨owner, made, rfl⟩ := agrees.made
  by_cases unset : found.id.isNil = true
  · rw [Call.handed_add_nil deliver here made unset, Call.perform_add_nil deliver here made unset]
    exact ⟨shelf, .add_nil known unset, agrees, fun _ _ => rfl⟩
  have given : found.id.isNil = false := by simpa using unset
  by_cases own : found.model = model
  · obtain ⟨⟨verdict, after⟩, reply⟩ : ∃ reply, deliver owner.sink
        (Estate.storedEvent entity found (estate.stored model found.kind found.id))
        (estate.onAdd model entity found) = reply := ⟨_, rfl⟩
    -- the sink leaves the model as it finds it, with the entity entered
    have reached := agrees_left (agrees_onAdd agrees known own)
      (quiet (Estate.storedEvent entity found (estate.stored model found.kind found.id)) _)
    rw [reply] at reached
    have released := agrees_left reached ((Estate.undisturbed_release
      (Estate.addHolds model entity (estate.stored model found.kind found.id)) after).1 model)
    have reported := congrArg (fun held : Option EntityRef =>
      if held.isSome then Operation.update else Operation.create) (agrees.held found.kind found.id)
    rw [Call.handed_add here made given own reply, Call.perform, Call.answering,
      Estate.add_delivers here made given own reply]
    cases verdict with
    | ok _ =>
        exact ⟨_, .add_taken known given own reported, agrees_register released known own, by simp⟩
    | error refusal =>
        exact ⟨shelf, .add_refused known given own reported, agrees_restored agrees released, by simp⟩
  · rw [Call.handed_add_foreign deliver here made given own,
      Call.perform_add_foreign deliver here made given own]
    exact ⟨shelf, .add_foreign known given own, agrees, fun _ _ => rfl⟩

theorem agrees_onDelete (agrees : Agrees model sink cards shelf estate) (kind : Kind)
    (id : ResourceId) (removed : EntityRef) :
    Agrees model sink cards (shelf.write kind id none) (estate.onDelete model kind id removed) := by
  have withdrawn : Agrees model sink cards (shelf.write kind id none)
      (estate.withdrawn model kind id) := by
    apply agrees_write agrees (Registry.sound_remove (agrees.sound kind) id)
    · intro other
      exact Registry.get_remove _ _ _
    · intro entity none
      cases none
  exact agrees_left withdrawn ((Estate.undisturbed_hold _ _).1 model)

theorem step_delete {deliver : Deliver Outside} (quiet : Quiet deliver model sink)
    (agrees : Agrees model sink cards shelf estate) (kind : Kind) (id : ResourceId) :
    Turned model sink cards shelf ((Call.delete model kind id).turn deliver estate) := by
  unfold Turned Turn.Still Call.turn
  obtain ⟨owner, made, rfl⟩ := agrees.made
  cases present : estate.stored model kind id with
  | none =>
      rw [Call.handed_delete_absent deliver made present,
        Call.perform_delete_absent deliver made present]
      exact ⟨shelf, .delete_absent ((agrees.held kind id).symm.trans present), agrees,
        fun _ _ => rfl⟩
  | some removed =>
      obtain ⟨⟨verdict, after⟩, reply⟩ : ∃ reply, deliver owner.sink
          (Estate.deletedEvent kind id) (estate.onDelete model kind id removed) = reply := ⟨_, rfl⟩
      have stays : (shelf.held kind id).isSome := by
        rw [← agrees.held, present]
        rfl
      -- the sink leaves the model as it finds it, with the identity withdrawn
      have reached := agrees_left (agrees_onDelete agrees kind id removed)
        (quiet (Estate.deletedEvent kind id) _)
      rw [reply] at reached
      have released := agrees_left reached
        ((Estate.undisturbed_release (Estate.deleteHolds model removed) after).1 model)
      rw [Call.handed_delete made present reply, Call.perform, Call.answering,
        Estate.delete_delivers made present reply]
      cases verdict with
      | ok _ => exact ⟨_, .delete_taken stays, released, by simp⟩
      | error refusal =>
          have restored := agrees_restored agrees released
          rw [present] at restored
          exact ⟨shelf, .delete_refused stays, restored, by simp⟩

theorem entry_iff (agrees : Agrees model sink cards shelf estate) (kind : Kind) (id : ResourceId)
    (entity : EntityRef) :
    (id, entity) ∈ (estate.registry model kind).entries ↔ shelf.held kind id = some entity := by
  rw [← agrees.held kind id]
  exact Registry.mem_entries_iff (agrees.sound kind) id entity

theorem members_nodup (agrees : Agrees model sink cards shelf estate) (kind : Kind) :
    (estate.registry model kind).members.Nodup := by
  apply Registry.members_nodup (agrees.sound kind)
  intro id other entity former latter
  have here := agrees.placed kind id entity ((agrees.held kind id).symm.trans former)
  have there := agrees.placed kind other entity ((agrees.held kind other).symm.trans latter)
  exact congrArg Card.id (Option.some.inj (here.symm.trans there))

theorem step_list (deliver : Deliver Outside) (agrees : Agrees model sink cards shelf estate)
    (kind : Kind) :
    Turned model sink cards shelf ((Call.list model kind).turn deliver estate) := by
  have listed := Registry.listed_perm (agrees.sound kind)
  refine ⟨shelf, .list (listed.nodup_iff.mpr (members_nodup agrees kind)) fun entity => ?_,
    agrees_left agrees ((Estate.undisturbed_listOf model kind estate).1 model),
    Turn.still_of_reads rfl⟩
  rw [Estate.listOf, listed.mem_iff, Registry.mem_members_iff (agrees.sound kind)]
  exact exists_congr fun id => by rw [← agrees.held kind id]; rfl

theorem count_eq (agrees : Agrees model sink cards shelf estate) (type : ResourceType) :
    estate.countOf model type = shelf.count type := by
  obtain ⟨owner, made, _⟩ := agrees.made
  cases type with
  | entity kind =>
      have sized : estate.countOf model (.entity kind) =
          (estate.registry model kind).entries.length := Estate.countOf_registry estate model kind
      have keys : shelf.keys kind =
          (((estate.registry model kind).entries.map Prod.fst).toFinset : Set ResourceId) := by
        ext id
        simp only [Shelf.keys, Set.mem_ofPred_eq, List.coe_toFinset, List.mem_map,
          Option.isSome_iff_exists, Prod.exists, exists_and_right, exists_eq_right]
        exact exists_congr fun entity => (entry_iff agrees kind id entity).symm
      rw [sized, Shelf.count, keys, Set.ncard_coe_finset,
        List.toFinset_card_of_nodup (agrees.sound kind).unique, List.length_map]
  | unknown | annotations => simp [Estate.countOf, made, Model.sizeOf, Shelf.count]

theorem step_turn {deliver : Deliver Outside} (quiet : Quiet deliver model sink)
    (agrees : Agrees model sink cards shelf estate) {call : Call}
    (onStore : call.OnStore model cards) :
    Turned model sink cards shelf (call.turn deliver estate) := by
  cases call with
  | add owner entity =>
      obtain ⟨rfl, known⟩ := onStore
      exact step_add quiet agrees known
  | delete owner kind id =>
      obtain rfl : owner = model := onStore
      exact step_delete quiet agrees kind id
  | find owner kind id =>
      obtain rfl : owner = model := onStore
      have answered : (Call.find owner kind id).perform deliver estate =
          (.entity (shelf.held kind id), estate) := by
        rw [Call.perform, agrees.held]
      refine ⟨shelf, ?_, agrees, Turn.still_of_reads rfl⟩
      rw [Call.turn, answered]
      exact .find
  | list owner kind =>
      obtain rfl : owner = model := onStore
      exact step_list deliver agrees kind
  | count owner type =>
      obtain rfl : owner = model := onStore
      have answered : (Call.count owner type).perform deliver estate =
          (.number (shelf.count type), estate) := by
        rw [Call.perform, count_eq agrees]
      refine ⟨shelf, ?_, agrees, Turn.still_of_reads rfl⟩
      rw [Call.turn, answered]
      exact .count
  | _ => exact onStore.elim

/-- Whatever calls are made on the store of a model that agrees with a map, as a model that was just made
agrees with the empty one: their answers and what they hand over are those of the map, and in the end the
store holds what the map holds. -/
theorem store_follows_shelf (deliver : Deliver Outside) (quiet : Quiet deliver model sink)
    (agrees : Agrees model sink cards shelf estate) (calls : List Call)
    (onStore : ∀ call ∈ calls, call.OnStore model cards) :
    ∃ last, Run model sink cards shelf (turns deliver calls estate) last ∧
      Agrees model sink cards last (performAll deliver calls estate) := by
  -- one call after the other; the agreement is what every turn hands on to the next
  induction calls generalizing shelf estate with
  | nil => exact ⟨shelf, .done, agrees⟩
  | cons call rest ih =>
      obtain ⟨middle, first, reached, still⟩ :=
        step_turn quiet agrees (onStore call List.mem_cons_self)
      obtain ⟨last, later, final⟩ :=
        ih reached fun other member => onStore other (List.mem_cons_of_mem call member)
      exact ⟨last, .next first still later, final⟩

def keeper : Deliver Unit := fun _ event estate =>
  if event.operation = .delete then (.error (.unsupportedPayload "delete"), estate)
  else (.ok (), estate)

def furnished : Estate Unit :=
  { Estate.empty () with
    models := [.new (.made 0)]
    entities := [.new ⟨0⟩ .node (.repeating 1), .new ⟨0⟩ .node (.repeating 1),
      .new ⟨0⟩ .node .nil, .new ⟨1⟩ .node (.repeating 1)] }

def busy : List Call :=
  [.add ⟨0⟩ ⟨0⟩, .list ⟨0⟩ .node, .add ⟨0⟩ ⟨1⟩, .list ⟨0⟩ .node, .add ⟨0⟩ ⟨2⟩, .add ⟨0⟩ ⟨3⟩,
    .delete ⟨0⟩ .node (.repeating 1), .find ⟨0⟩ .node (.repeating 1), .count ⟨0⟩ (.entity .node),
    .delete ⟨0⟩ .api (.repeating 1)]

theorem busy_follows_shelf :
    Quiet keeper ⟨0⟩ (.made 0) ∧
      Agrees ⟨0⟩ (.made 0) (fun entity => furnished.card? entity) empty furnished ∧
      (∀ call ∈ busy, call.OnStore ⟨0⟩ fun entity => furnished.card? entity) ∧
      ∃ last, Run ⟨0⟩ (.made 0) (fun entity => furnished.card? entity) empty
          (turns keeper busy furnished) last ∧
        Agrees ⟨0⟩ (.made 0) (fun entity => furnished.card? entity) last
          (performAll keeper busy furnished) := by
  have quiet : Quiet keeper ⟨0⟩ (.made 0) := fun event estate => by
    unfold keeper
    split <;> exact (Estate.undisturbed_refl estate).1 ⟨0⟩
  have agrees : Agrees ⟨0⟩ (.made 0) (fun entity => furnished.card? entity) empty furnished := by
    refine agrees_new rfl ?_
    rintro entity ⟨found, here, _, registered⟩
    have fresh : ∀ other ∈ furnished.entities, other.isRegistered = false := by decide
    rw [fresh found (List.mem_of_getElem? here)] at registered
    cases registered
  have onStore : ∀ call ∈ busy, call.OnStore ⟨0⟩ fun entity => furnished.card? entity := by
    simp only [busy, List.forall_mem_cons]
    exact ⟨⟨rfl, rfl⟩, rfl, ⟨rfl, rfl⟩, rfl, ⟨rfl, rfl⟩, ⟨rfl, rfl⟩, rfl, rfl, rfl, rfl,
      List.forall_mem_nil _⟩
  exact ⟨quiet, agrees, onStore, store_follows_shelf keeper quiet agrees busy onStore⟩

end Shelf

end Landscape

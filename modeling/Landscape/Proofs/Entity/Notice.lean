import Landscape.Proofs.Entity.Edit
import Landscape.Proofs.Store.Shelf
import Landscape.Proofs.Surroundings

/-!
What a sink is told of the edits of an entity, over any run of calls. Until the entity is added with
success nothing is handed over; from then on every edit that has something to change is handed over once,
as an update of the entity that already shows the change, and the edit answers what the sink answers. The
sink may look at the model while it hears of something, and follow references, but changes nothing.
-/

namespace Landscape

/-- What a sink is handed, with the entity as the sink finds it. -/
structure Sight extends Handed where
  found : Option Entity

def Deliver.watching {Outside : Type} (entity : EntityRef) (deliver : Deliver Outside) :
    Deliver (Outside × List Sight) := fun sink event estate =>
  let reply := deliver sink event (estate.amid estate.outside.1)
  (reply.1, reply.2.amid (reply.2.outside,
    estate.outside.2 ++ [⟨⟨sink, event, reply.1⟩, estate.entity? entity⟩]))

theorem Deliver.watching_amid {Outside : Type} (entity : EntityRef) (deliver : Deliver Outside)
    (sink : SinkRef) (event : Event) (found : Estate Outside) (seen : List Sight) :
    deliver.watching entity sink event (found.amid (found.outside, seen)) =
      let reply := deliver sink event found
      (reply.1, reply.2.amid (reply.2.outside,
        seen ++ [⟨⟨sink, event, reply.1⟩, found.entity? entity⟩])) := rfl

def Call.sights {Outside : Type} (deliver : Deliver Outside) (entity : EntityRef) (call : Call)
    (estate : Estate Outside) : List Sight :=
  (call.perform (deliver.watching entity) (estate.amid (estate.outside, []))).2.outside.2

theorem Call.watching_matched {Outside : Type} (deliver : Deliver Outside) (entity : EntityRef) (call : Call)
    (estate : Estate Outside) (seen : List Sight) :
    Matched (fun kept outside => kept.1 = outside)
      (call.perform (deliver.watching entity) (estate.amid (estate.outside, seen)))
      (call.perform deliver estate) :=
  noted_matched (fun _ _ _ => ⟨_, rfl⟩) call estate seen

def Entity.Resembles (now found : Entity) : Prop :=
  { now with links := found.links } = found ∧
    ∀ slot, (now.links slot).map Link.id = (found.links slot).map Link.id

theorem Entity.resembles_refl (found : Entity) : found.Resembles found :=
  ⟨rfl, fun _ => rfl⟩

/-- Sinks that take or refuse what they like, and change nothing of the model but what is known of
references. -/
structure Discreet {Outside : Type} (deliver : Deliver Outside) (model : ModelRef) : Prop where
  leaves : ∀ sink event (estate : Estate Outside), estate.Leaves model (deliver sink event estate).2
  keeps : ∀ sink event (estate : Estate Outside) entity found, estate.entity? entity = some found →
    found.model = model →
      ∃ now, (deliver sink event estate).2.entity? entity = some now ∧ now.Resembles found

namespace Edit

open Estate

variable {Outside : Type} {deliver : Deliver Outside} {entity : EntityRef} {found : Entity}
  {owner : Model} {estate : Estate Outside} {edit : Edit}

/-- How an edit of the entity goes: what becomes of the entity, what the sink sees and what is
answered. -/
structure Noticed (deliver : Deliver Outside) (estate : Estate Outside) (entity : EntityRef)
    (found : Entity) (sink : SinkRef) (edit : Edit) : Prop where
  made : ∃ now, ((edit.call entity).perform deliver estate).2.entity? entity = some now ∧
    now.Resembles (edit.applied estate found)
  told : found.isRegistered = true → edit.isIdle found = false → ∃ verdict,
    (edit.call entity).sights deliver entity estate =
        [⟨⟨sink, updateEvent entity found, verdict⟩, some (edit.applied estate found)⟩] ∧
      ((edit.call entity).perform deliver estate).1 = .ofChange (verdict.mapError .event)
  untold : found.isRegistered = false ∨ edit.isIdle found = true →
    (edit.call entity).sights deliver entity estate = [] ∧
      ((edit.call entity).perform deliver estate).1 = .done

theorem noticed_idle (deliver : Deliver Outside) (here : estate.entity? entity = some found)
    (idle : edit.isIdle found = true) (sink : SinkRef) :
    edit.Noticed deliver estate entity found sink := by
  have amidst : (estate.amid (estate.outside, ([] : List Sight))).entity? entity = some found := here
  have performed := perform_idle deliver here idle
  constructor
  · rw [performed, applied, if_pos idle]
    exact ⟨found, here, found.resembles_refl⟩
  · intro _ busy
    rw [idle] at busy
    cases busy
  · intro _
    rw [Call.sights, perform_idle (deliver.watching entity) amidst idle, performed]
    exact ⟨rfl, rfl⟩

theorem noticed_unregistered (deliver : Deliver Outside)
    (here : estate.entity? entity = some found) (fresh : found.isRegistered = false)
    (busy : edit.isIdle found = false) (fits : edit.Fits estate) (sink : SinkRef) :
    edit.Noticed deliver estate entity found sink := by
  have amidst : (estate.amid (estate.outside, ([] : List Sight))).entity? entity = some found := here
  have performed := perform_unregistered deliver here fresh busy fits
  constructor
  · rw [performed, applied, if_neg (by simp [busy])]
    exact ⟨_, entity_modified here _, Entity.resembles_refl _⟩
  · intro registered
    rw [fresh] at registered
    cases registered
  · intro _
    rw [Call.sights, perform_unregistered (deliver.watching entity) amidst fresh busy (fits_amid _ fits),
      performed]
    exact ⟨rfl, rfl⟩

theorem noticed_registered (discreet : Discreet deliver found.model)
    (here : estate.entity? entity = some found) (made : estate.model? found.model = some owner)
    (registered : found.isRegistered = true) (lives : estate.modelLives found.model = true)
    (awake : estate.entityLives entity = true) (busy : edit.isIdle found = false)
    (fits : edit.Fits estate) : edit.Noticed deliver estate entity found owner.sink := by
  have amidst : (estate.amid (estate.outside, ([] : List Sight))).entity? entity = some found := here
  have shown : (edit.scene entity found estate).entity? entity = some (edit.change estate found) :=
    entity_modified here _
  have card := congrArg Card.model (edit.card_change estate found).1
  obtain ⟨⟨verdict, after⟩, reply⟩ : ∃ reply, deliver owner.sink (updateEvent entity found)
      (edit.scene entity found estate) = reply := ⟨_, rfl⟩
  have performed := perform_registered here made registered lives awake busy fits reply
  have change : edit.applied estate found = edit.change estate found := if_neg (by simp [busy])
  constructor
  · -- the sink has the entity as it was changed, and leaves it so
    obtain ⟨now, there, same⟩ := discreet.keeps owner.sink (updateEvent entity found) _ _ _ shown card
    rw [reply] at there
    rw [performed, change]
    exact ⟨now, there, same⟩
  · intro _ _
    refine ⟨verdict, ?_, ?_⟩
    · have watched := Deliver.watching_amid entity deliver owner.sink (updateEvent entity found)
        (edit.scene entity found estate) []
      rw [reply, shown] at watched
      rw [Call.sights, perform_registered amidst made registered lives awake busy (fits_amid _ fits)
        ((scene_amid _ edit entity found estate) ▸ watched), change]
      rfl
    · rw [performed]
  · rintro (fresh | idle)
    · rw [registered] at fresh
      cases fresh
    · rw [busy] at idle
      cases idle

theorem noticed (discreet : Discreet deliver found.model) (here : estate.entity? entity = some found)
    (made : estate.model? found.model = some owner) (lives : estate.modelLives found.model = true)
    (awake : estate.entityLives entity = true) (fits : edit.Fits estate) :
    edit.Noticed deliver estate entity found owner.sink := by
  cases idle : edit.isIdle found with
  | true => exact noticed_idle deliver here idle owner.sink
  | false =>
      cases registered : found.isRegistered with
      | true => exact noticed_registered discreet here made registered lives awake idle fits
      | false => exact noticed_unregistered deliver here registered idle fits owner.sink

end Edit

namespace Estate

variable {Outside : Type} {model : ModelRef} {deliver : Deliver Outside}

structure Persists (model : ModelRef) (before after : Estate Outside) : Prop where
  made : ∀ owner, before.model? model = some owner →
    ∃ now, after.model? model = some now ∧ now.sink = owner.sink
  cards : ∀ entity card, before.card? entity = some card → after.card? entity = some card
  registered : ∀ entity, after.Registered model entity ↔ before.Registered model entity

theorem Leaves.persists {before after : Estate Outside} (leaves : before.Leaves model after) :
    before.Persists model after :=
  ⟨leaves.made, leaves.cards, leaves.registered⟩

theorem Persists.trans {first second third : Estate Outside}
    (former : first.Persists model second) (latter : second.Persists model third) :
    first.Persists model third where
  made owner here := by
    obtain ⟨now, made, sink⟩ := former.made owner here
    obtain ⟨last, madeLast, sinkLast⟩ := latter.made now made
    exact ⟨last, madeLast, sinkLast.trans sink⟩
  cards entity card known := latter.cards entity card (former.cards entity card known)
  registered entity := (latter.registered entity).trans (former.registered entity)

theorem Undisturbed.persists {before after : Estate Outside}
    (undisturbed : before.Undisturbed after) : before.Persists model after :=
  (undisturbed.1 model).persists

theorem persists_setRegistry (other : ModelRef) (kind : Kind) (registry : Registry)
    (estate : Estate Outside) : estate.Persists model (estate.setRegistry other kind registry) where
  made owner here := by
    have sinks := sink_setRegistry estate other model kind registry
    rw [here] at sinks
    exact Option.map_eq_some_iff.mp sinks
  cards _ _ known := known
  registered _ := Iff.rfl

theorem OneReport.persists (discreet : Discreet deliver model) {start : Estate Outside}
    {final : Deliver Outside → Estate Outside} (report : start.OneReport final) :
    start.Persists model (final deliver) := by
  rcases report with ⟨after, same, undisturbed⟩ | ⟨sink, event, found, _, before, later⟩
  · exact same deliver ▸ undisturbed.persists
  · exact (before.persists.trans (discreet.leaves sink event found).persists).trans
      (later deliver).persists

theorem delete_persists (discreet : Discreet deliver model) (other : ModelRef) (kind : Kind)
    (id : ResourceId) (estate : Estate Outside) :
    estate.Persists model (estate.delete deliver other kind id).2 := by
  cases made : estate.model? other with
  | none =>
      have same : estate.delete deliver other kind id = (.ok (), estate) := by simp [delete, made]
      exact same ▸ (undisturbed_refl estate).persists
  | some owner =>
      cases present : estate.stored other kind id with
      | none =>
          rw [delete_absent deliver made present]
          exact (undisturbed_refl estate).persists
      | some removed =>
          obtain ⟨⟨verdict, after⟩, reply⟩ : ∃ reply, deliver owner.sink (deletedEvent kind id)
              (estate.onDelete other kind id removed) = reply := ⟨_, rfl⟩
          have heard := discreet.leaves owner.sink (deletedEvent kind id)
            (estate.onDelete other kind id removed)
          rw [reply] at heard
          have released := (((persists_setRegistry other kind _ estate).trans
            (undisturbed_hold _ _).persists).trans heard.persists).trans
            (undisturbed_release (deleteHolds other removed) after).persists
          rw [delete_delivers made present reply]
          cases verdict with
          | ok _ => exact released
          | error _ => exact released.trans (persists_setRegistry other kind _ _)

theorem add_persists (discreet : Discreet deliver model) (other : ModelRef) (added : EntityRef)
    (estate : Estate Outside) :
    estate.Persists model (estate.add deliver other added).2 ∧
        ((estate.add deliver other added).1 = .ok () →
          estate.entity? added = none ∨ estate.model? other = none) ∨
      ∃ after found, estate.Persists model after ∧ estate.entity? added = some found ∧
        found.model = other ∧
        estate.add deliver other added = (.ok (), after.modifyEntity added Entity.register) := by
  cases here : estate.entity? added with
  | none =>
      have same : estate.add deliver other added = (.ok (), estate) := by simp [add, here]
      exact .inl ⟨same ▸ (undisturbed_refl estate).persists, fun _ => .inl rfl⟩
  | some found =>
      cases made : estate.model? other with
      | none =>
          have same : estate.add deliver other added = (.ok (), estate) := by simp [add, here, made]
          exact .inl ⟨same ▸ (undisturbed_refl estate).persists, fun _ => .inr rfl⟩
      | some owner =>
          by_cases unset : found.id.isNil = true
          · rw [add_nil deliver here made unset]
            exact .inl ⟨(undisturbed_refl estate).persists, fun done => by cases done⟩
          have given : found.id.isNil = false := by simpa using unset
          by_cases own : found.model = other
          · obtain ⟨⟨verdict, after⟩, reply⟩ : ∃ reply, deliver owner.sink
                (storedEvent added found (estate.stored other found.kind found.id))
                (estate.onAdd other added found) = reply := ⟨_, rfl⟩
            have heard := discreet.leaves owner.sink
              (storedEvent added found (estate.stored other found.kind found.id))
              (estate.onAdd other added found)
            rw [reply] at heard
            have released := ((((undisturbed_bindSlots added estate).persists.trans
              (persists_setRegistry other found.kind _ _)).trans
              (undisturbed_hold _ _).persists).trans heard.persists).trans
              (undisturbed_release (addHolds other added
                (estate.stored other found.kind found.id)) after).persists
            rw [add_delivers here made given own reply]
            cases verdict with
            | ok _ => exact .inr ⟨_, found, released, rfl, own, rfl⟩
            | error _ =>
                exact .inl ⟨released.trans (persists_setRegistry other found.kind _ _),
                  fun done => by cases done⟩
          · rw [add_foreign deliver here made given own]
            exact .inl ⟨(undisturbed_refl estate).persists, fun done => by cases done⟩

end Estate

section Registering
open Estate
variable {Outside : Type} {model : ModelRef} {deliver : Deliver Outside} {entity : EntityRef}

/-- What a call does to one entity: it stays what it is, and is registered afterwards if it was before
or was added with success. -/
structure Registers (model : ModelRef) (sink : SinkRef) (entity : EntityRef) (card : Card)
    (turn : Turn Outside) : Prop where
  made : ∃ owner, turn.after.model? model = some owner ∧ owner.sink = sink
  known : turn.after.card? entity = some card
  registered : turn.after.Registered model entity ↔ turn.before.Registered model entity ∨
    turn.call = .add model entity ∧ turn.answer = .done

theorem registers_of_persists {sink : SinkRef} {card : Card} {turn : Turn Outside}
    (made : ∃ owner, turn.before.model? model = some owner ∧ owner.sink = sink)
    (known : turn.before.card? entity = some card)
    (persists : turn.before.Persists model turn.after)
    (other : ¬(turn.call = .add model entity ∧ turn.answer = .done)) :
    Registers model sink entity card turn where
  made := by
    obtain ⟨owner, made, reports⟩ := made
    obtain ⟨now, madeNow, same⟩ := persists.made owner made
    exact ⟨now, madeNow, same.trans reports⟩
  known := persists.cards entity card known
  registered := by
    rw [persists.registered]
    exact (or_iff_left other).symm

theorem turn_registers (discreet : Discreet deliver model) {sink : SinkRef} {card : Card}
    {estate : Estate Outside} (made : ∃ owner, estate.model? model = some owner ∧ owner.sink = sink)
    (known : estate.card? entity = some card) (own : card.model = model) (call : Call) :
    Registers model sink entity card (call.turn deliver estate) := by
  by_cases writes : call.isWrite = true
  case neg =>
    have persists := (call.perform_reports (by simpa using writes) estate).persists discreet
    refine registers_of_persists made known persists ?_
    rintro ⟨rfl, _⟩
    exact writes rfl
  cases call with
  | delete other kind id =>
      exact registers_of_persists made known (delete_persists discreet other kind id estate) nofun
  | add other added =>
      rcases add_persists discreet other added estate with
        ⟨persists, missing⟩ | ⟨after, found, persists, here, owned, performed⟩
      · refine registers_of_persists made known persists ?_
        rintro ⟨same, done⟩
        cases same
        have answered : (estate.add deliver model entity).1 = .ok () := by
          cases answer : (estate.add deliver model entity).1 with
          | ok _ => rfl
          | error cause =>
              have refused : ((Call.add model entity).turn deliver estate).answer = .refused cause :=
                congrArg Call.Answer.ofChange answer
              rw [refused] at done
              cases done
        rcases missing answered with absent | unmade
        · rw [card?, absent] at known
          cases known
        · obtain ⟨owner, isMade, _⟩ := made
          rw [unmade] at isMade
          cases isMade
      · have answer : ((Call.add other added).turn deliver estate).answer = .done :=
          congrArg (Call.Answer.ofChange ∘ Prod.fst) performed
        have final : ((Call.add other added).turn deliver estate).after =
            after.modifyEntity added Entity.register := congrArg Prod.snd performed
        have kept := card_modifyEntity after added entity Entity.register fun _ => rfl
        constructor
        · obtain ⟨owner, made, reports⟩ := made
          obtain ⟨now, madeNow, same⟩ := persists.made owner made
          exact ⟨now, final ▸ madeNow, same.trans reports⟩
        · rw [final, kept]
          exact persists.cards entity card known
        · rw [final, answer]
          by_cases same : entity = added
          · subst same
            -- the entity itself: it belongs to the model that it was added to
            have mine : other = model := by
              rw [card?, here] at known
              rw [← owned, ← own, ← Option.some.inj known]
              rfl
            rw [registered_register after (persists.cards entity card known) own, mine]
            exact iff_of_true (.inl rfl) (.inr ⟨rfl, rfl⟩)
          · have apart : Call.add other added ≠ .add model entity := fun equal =>
              same (by cases equal; rfl)
            have alike : (after.modifyEntity added Entity.register).Registered model entity ↔
                after.Registered model entity := by
              unfold Registered
              rw [entity_modifyEntity, if_neg same]
            rw [alike, persists.registered]
            exact (or_iff_left fun both => apart both.1).symm
  | _ => cases writes

theorem turns_split {calls : List Call} {estate : Estate Outside} {former later : List (Turn Outside)}
    {turn : Turn Outside} (parts : turns deliver calls estate = former ++ turn :: later) :
    turn = turn.call.turn deliver turn.before := by
  induction calls generalizing estate former with
  | nil => simp [turns] at parts
  | cons call rest ih =>
      cases former with
      | nil =>
          obtain ⟨rfl, _⟩ := List.cons.inj parts
          rfl
      | cons first others => exact ih (List.cons.inj parts).2

theorem registered_before (discreet : Discreet deliver model) {sink : SinkRef} {card : Card}
    {calls : List Call} {estate : Estate Outside} {former later : List (Turn Outside)}
    {turn : Turn Outside} (made : ∃ owner, estate.model? model = some owner ∧ owner.sink = sink)
    (known : estate.card? entity = some card) (own : card.model = model)
    (parts : turns deliver calls estate = former ++ turn :: later) :
    (∃ owner, turn.before.model? model = some owner ∧ owner.sink = sink) ∧
      turn.before.card? entity = some card ∧
      (turn.before.Registered model entity ↔ estate.Registered model entity ∨
        ∃ past ∈ former, past.call = .add model entity ∧ past.answer = .done) := by
  induction calls generalizing estate former with
  | nil => simp [turns] at parts
  | cons call rest ih =>
      cases former with
      | nil =>
          obtain ⟨rfl, _⟩ := List.cons.inj parts
          exact ⟨made, known, by simp [Call.turn]⟩
      | cons first others =>
          obtain ⟨rfl, more⟩ := List.cons.inj parts
          have registers := turn_registers discreet made known own call
          obtain ⟨madeThen, knownThen, registered⟩ := ih registers.made registers.known more
          refine ⟨madeThen, knownThen, registered.trans ?_⟩
          rw [registers.registered, List.exists_mem_cons_iff, or_assoc]
          rfl

/-- Whether the entity counts as registered after these turns. -/
def Entered (model : ModelRef) (entity : EntityRef) (first : Entity) (former : List (Turn Outside)) :
    Prop :=
  first.isRegistered = true ∨ ∃ past ∈ former, past.call = .add model entity ∧ past.answer = .done

/-- Whatever was called before, an edit changes the entity; it is handed over and answered by the sink
exactly if the entity was added with success before and there is something to change. -/
theorem edits_told_once_entered (discreet : Discreet deliver model) {calls : List Call}
    {estate : Estate Outside} {first : Entity} {owner : Model}
    (here : estate.entity? entity = some first) (own : first.model = model)
    (made : estate.model? model = some owner) {former later : List (Turn Outside)}
    {turn : Turn Outside} (parts : turns deliver calls estate = former ++ turn :: later) (edit : Edit)
    (called : turn.call = edit.call entity) (fits : edit.Fits turn.before)
    (lives : turn.before.modelLives model = true)
    (awake : turn.before.entityLives entity = true) :
    ∃ found, turn.before.entity? entity = some found ∧
      (∃ now, turn.after.entity? entity = some now ∧
        now.Resembles (edit.applied turn.before found)) ∧
      (Entered model entity first former → edit.isIdle found = false → ∃ verdict,
        turn.call.sights deliver entity turn.before =
            [⟨⟨owner.sink, ⟨.entity first.kind, .update, first.id, [.resource entity]⟩, verdict⟩,
              some (edit.applied turn.before found)⟩] ∧
          turn.answer = .ofChange (verdict.mapError .event)) ∧
      (¬Entered model entity first former ∨ edit.isIdle found = true →
        turn.call.sights deliver entity turn.before = [] ∧ turn.answer = .done) := by
  subst own
  have known : estate.card? entity = some first.card := by
    rw [card?, here]
    rfl
  obtain ⟨⟨now, madeNow, reports⟩, knownThen, registered⟩ :=
    registered_before discreet ⟨owner, made, rfl⟩ known rfl parts
  obtain ⟨found, there, card⟩ := Option.map_eq_some_iff.mp knownThen
  have mine : found.model = first.model := congrArg Card.model card
  have event : updateEvent entity found =
      ⟨.entity first.kind, .update, first.id, [.resource entity]⟩ := by
    have kind : found.kind = first.kind := congrArg Card.kind card
    have id : found.id = first.id := congrArg Card.id card
    rw [updateEvent, kind, id]
  have entered : found.isRegistered = true ↔ Entered first.model entity first former := by
    have before : turn.before.Registered first.model entity ↔ found.isRegistered = true := by
      simp [Registered, there, mine]
    have start : estate.Registered first.model entity ↔ first.isRegistered = true := by
      simp [Registered, here]
    rw [← before, registered, start, Entered]
  have noticed := Edit.noticed (mine ▸ discreet) there (mine ▸ madeNow) (mine ▸ lives) awake fits
  rw [reports] at noticed
  have turned := turns_split parts
  have final : turn.after = (turn.call.perform deliver turn.before).2 := congrArg Turn.after turned
  have answer : turn.answer = (turn.call.perform deliver turn.before).1 :=
    congrArg Turn.answer turned
  rw [called] at final answer ⊢
  refine ⟨found, there, ?_, ?_, ?_⟩
  · rw [final]
    exact noticed.made
  · intro known busy
    rw [answer, ← event]
    exact noticed.told (entered.mpr known) busy
  · intro silent
    rw [answer]
    refine noticed.untold (silent.imp_left fun unknown => ?_)
    simpa using mt entered.mp unknown

end Registering

def stubborn : Deliver Unit := fun _ event estate =>
  if event.operation = .update then (.error (.serialization "update"), estate) else (.ok (), estate)

theorem stubborn_discreet (model : ModelRef) : Discreet stubborn model := by
  have same : ∀ sink event estate, (stubborn sink event estate).2 = estate := by
    intro sink event estate
    unfold stubborn
    split <;> rfl
  constructor
  · intro sink event estate
    rw [same]
    exact (Estate.undisturbed_refl estate).1 model
  · intro sink event estate entity found here _
    rw [same]
    exact ⟨found, here, found.resembles_refl⟩

def study : Estate Unit :=
  { Estate.empty () with
    models := [.new (.made 0)]
    entities := [.new ⟨0⟩ .finding (.repeating 1)]
    held := [.model ⟨0⟩, .entity ⟨0⟩] }

/-- The finding is annotated, added and deleted, and then lists something more. -/
def edited : List Call :=
  [.annotate (.ofEntity ⟨0⟩) "owner" "ops", .add ⟨0⟩ ⟨0⟩, .delete ⟨0⟩ .finding (.repeating 1),
    .change ⟨0⟩ (.addResource ⟨.repeating 2, .annotations⟩)]

theorem edited_told_once :
    ∃ former turn found verdict,
      Discreet stubborn ⟨0⟩ ∧ study.entity? ⟨0⟩ = some (.new ⟨0⟩ .finding (.repeating 1)) ∧
      study.model? ⟨0⟩ = some (.new (.made 0)) ∧ turns stubborn edited study = former ++ [turn] ∧
      turn.call = (Edit.set (.addResource ⟨.repeating 2, .annotations⟩)).call ⟨0⟩ ∧
      turn.before.modelLives ⟨0⟩ = true ∧ turn.before.entityLives ⟨0⟩ = true ∧
      Entered ⟨0⟩ ⟨0⟩ (.new ⟨0⟩ .finding (.repeating 1)) former ∧
      turn.before.entity? ⟨0⟩ = some found ∧
      turn.call.sights stubborn ⟨0⟩ turn.before =
        [⟨⟨.made 0, ⟨.entity .finding, .update, .repeating 1, [.resource ⟨0⟩]⟩, verdict⟩,
          some ((Edit.set (.addResource ⟨.repeating 2, .annotations⟩)).applied turn.before found)⟩] ∧
      turn.answer = .ofChange (verdict.mapError .event) := by
  have parts : turns stubborn edited study = (turns stubborn edited study).take 3 ++
      [((Edit.set (.addResource ⟨.repeating 2, .annotations⟩)).call ⟨0⟩).turn stubborn
        (performAll stubborn (edited.take 3) study)] := rfl
  have entered : Entered ⟨0⟩ ⟨0⟩ (.new ⟨0⟩ .finding (.repeating 1))
      ((turns stubborn edited study).take 3) :=
    .inr ⟨(Call.add ⟨0⟩ ⟨0⟩).turn stubborn (performAll stubborn (edited.take 1) study),
      .tail _ (.head _), rfl, rfl⟩
  obtain ⟨found, here, _, told, _⟩ := edits_told_once_entered (stubborn_discreet ⟨0⟩) rfl rfl rfl
    parts (.set (.addResource ⟨.repeating 2, .annotations⟩)) rfl trivial rfl rfl
  have busy : (Edit.set (.addResource ⟨.repeating 2, .annotations⟩)).isIdle found = false := by
    cases here
    rfl
  obtain ⟨verdict, seen, answered⟩ := told entered busy
  exact ⟨_, _, found, verdict, stubborn_discreet ⟨0⟩, rfl, rfl, parts, rfl, rfl, rfl, entered, here,
    seen, answered⟩

end Landscape

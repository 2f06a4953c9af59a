import Landscape.Proofs.Entity.Reference
import Landscape.Proofs.Entity.Setters

/-!
Entities that outlive their model. Once nobody holds a model and no call on it is in progress, its entities go
on by themselves: they are changed, their references are set and their annotations are written as ever, only
nobody hears of it; a reference that is set by an identity knows no target, and a reference that is followed
leads to the target that it knows, if that still lives, and else answers that the model was dropped. No
other model takes them in. So it is in every run, whatever goes on before and in between.
-/

namespace Landscape

variable {Outside : Type}

inductive Call.OnSurvivor (model : ModelRef) (estate : Estate Outside) : Call → Prop where
  | edits {entity : EntityRef} {found : Entity} {edit : Edit}
      (here : estate.entity? entity = some found) (own : found.model = model)
      (typed : edit.Typed estate found) : OnSurvivor model estate (edit.call entity)
  | follows {entity : EntityRef} {found : Entity} {slot : Slot} {kind : Kind}
      (here : estate.entity? entity = some found) (own : found.model = model)
      (typed : found.kind.target? slot = some kind) : OnSurvivor model estate (.follow entity slot)
  | adds {entity : EntityRef} {found : Entity} {other : ModelRef} {owner : Model}
      (here : estate.entity? entity = some found) (own : found.model = model)
      (given : found.id.isNil = false) (made : estate.model? other = some owner)
      (foreign : other ≠ model) : OnSurvivor model estate (.add other entity)

/-- What becomes of an operation on an entity when its model is gone. -/
inductive Call.Alone (estate : Estate Outside) : Call → Call.Answer → Estate Outside → Prop where
  | edits {entity : EntityRef} {found now : Entity} {edit : Edit}
      (here : estate.entity? entity = some found)
      (reads : ∀ reader : Reader,
        reader.read now = (edit.writes estate found reader).getD (reader.read found))
      (unaimed : ∀ slot id, edit = .pointById slot id → now.links slot = some ⟨id, none⟩) :
      Alone estate (edit.call entity) .done (estate.modifyEntity entity fun _ => now)
  | unset {entity : EntityRef} {found : Entity} {slot : Slot}
      (here : estate.entity? entity = some found) (unset : found.links slot = none) :
      Alone estate (.follow entity slot) (.entity none) estate
  | known {entity target : EntityRef} {found : Entity} {slot : Slot} {link : Link}
      (here : estate.entity? entity = some found) (set : found.links slot = some link)
      (knows : link.target = some target) (lives : estate.entityLives target = true) :
      Alone estate (.follow entity slot) (.entity (some target)) estate
  | lost {entity : EntityRef} {found : Entity} {slot : Slot} {link : Link}
      (here : estate.entity? entity = some found) (set : found.links slot = some link)
      (dead : ∀ target, link.target = some target → estate.entityLives target = false) :
      Alone estate (.follow entity slot) (.refused .modelDropped) estate
  | foreign {entity : EntityRef} {found : Entity} {other : ModelRef}
      (here : estate.entity? entity = some found) :
      Alone estate (.add other entity) (.refused (.modelMismatch found.id)) estate

namespace Estate

variable {estate : Estate Outside} {entity : EntityRef} {found : Entity}

theorem announceOpening_dropped (here : estate.entity? entity = some found)
    (gone : estate.modelLives found.model = false) :
    estate.announceOpening entity = .ended (.ok ()) estate := by
  simp only [announceOpening, here, gone, Bool.and_false, Bool.false_eq_true, if_false]
  split <;> rfl

theorem updateOpening_dropped (here : estate.entity? entity = some found)
    (gone : estate.modelLives found.model = false) {change : Entity → Entity} {now : Entity}
    (changed : change found = now) (kept : now.model = found.model) :
    estate.updateOpening entity change =
      .ended (.ok ()) (estate.modifyEntity entity fun _ => now) := by
  have there := entity_modified here change
  have still : (estate.modifyEntity entity change).modelLives (change found).model = false := by
    rw [changed, kept]
    exact gone
  have same : estate.modifyEntity entity change = estate.modifyEntity entity fun _ => now :=
    modifyEntity_congr here changed
  rw [updateOpening, announceOpening_dropped there still, same]
  rfl

theorem reportOpening_dropped (here : estate.entity? entity = some found)
    (gone : estate.modelLives found.model = false) (records : Records) {event : Event}
    (annotations : event.resourceType = .annotations) :
    estate.reportOpening ⟨found.model, .entity entity, records⟩ event = .ended (.ok ()) estate := by
  have holds : estate.notesHolds ⟨found.model, .entity entity, records⟩ = [.sink (.entity entity)] := by
    rw [notesHolds, gone]
    rfl
  have still : (estate.hold [.sink (.entity entity)]).modelLives found.model = false := by
    simpa [modelLives, hold] using gone
  have quiet : (estate.hold [.sink (.entity entity)]).announceOpening entity = .ended (.ok ()) _ :=
    announceOpening_dropped here still
  unfold reportOpening
  split
  · simp only [holds, handOverOpening, receivesOpening, annotations, if_true, quiet, Opening.andThen,
      conclude, release_hold]
    rfl
  · rfl

theorem notesAt_entity (here : estate.entity? entity = some found) :
    estate.notesAt? (.ofEntity entity) =
      some ⟨found.model, .entity entity, found.annotations⟩ := by
  rw [notesAt?, here]
  rfl

theorem putRecords_dropped (here : estate.entity? entity = some found)
    (gone : estate.modelLives found.model = false) (records : Records) {event : Event}
    (annotations : event.resourceType = .annotations) :
    (estate.putRecords (.ofEntity entity) records).reportOpening
        ⟨found.model, .entity entity, found.annotations⟩ event =
      .ended (.ok ()) (estate.modifyEntity entity fun _ => { found with annotations := records }) := by
  have same : estate.putRecords (.ofEntity entity) records =
      estate.modifyEntity entity fun _ => { found with annotations := records } :=
    modifyEntity_congr here rfl
  have there : (estate.modifyEntity entity fun _ => { found with annotations := records }).entity? entity =
      some { found with annotations := records } := entity_modified here _
  rw [same]
  exact reportOpening_dropped there gone found.annotations annotations

theorem edit_alone (here : estate.entity? entity = some found)
    (gone : estate.modelLives found.model = false) {edit : Edit} (fits : edit.Fits estate) :
    (edit.call entity).opening estate =
      .ended .done (estate.modifyEntity entity fun _ => edit.applied estate found) := by
  have kept := congrArg Card.model (edit.card_change estate found).1
  cases edit with
  | set wanted =>
      rw [Edit.call, Call.opening, here]
      unfold Edit.applied
      cases absorbed : found.absorbs wanted with
      | true => simp only [Edit.isIdle, absorbed, if_true, modifyEntity_same here]
      | false =>
          simp only [Edit.isIdle, absorbed, Bool.false_eq_true, if_false]
          rw [updateOpening_dropped here gone rfl kept]
          rfl
  | pointById slot id =>
      have target : estate.namedTarget entity slot id =
          (found.kind.target? slot).bind fun kind => estate.storedFor found kind id := by
        rw [namedTarget, here]
        rfl
      rw [Edit.call, Call.opening, target, updateOpening_dropped here gone rfl kept]
      rfl
  | pointAt slot target =>
      obtain ⟨pointed, there⟩ := Option.isSome_iff_exists.mp fits
      have link : found.setLink slot ⟨pointed.id, some target⟩ =
          (Edit.pointAt slot target).change estate found := by
        rw [Edit.change, there]
        rfl
      rw [Edit.call, Call.opening, there]
      simp only []
      rw [updateOpening_dropped here gone link kept]
      rfl
  | annotate key value =>
      rw [Edit.call, Call.opening, notesAt_entity here]
      unfold Edit.applied
      by_cases there : found.annotations.get? key = some value
      · simp only [there, Edit.isIdle, decide_true, if_true, modifyEntity_same here]
      · simp only [there, Edit.isIdle, decide_false, Bool.false_eq_true, if_false]
        rw [putRecords_dropped here gone _ rfl]
        rfl
  | unannotate key =>
      rw [Edit.call, Call.opening, notesAt_entity here]
      unfold Edit.applied
      cases there : found.annotations.contains key with
      | false => simp only [there, Edit.isIdle, Bool.not_false, Bool.false_eq_true, if_true, if_false,
          modifyEntity_same here]
      | true =>
          simp only [there, Edit.isIdle, Bool.not_true, Bool.false_eq_true, if_true, if_false]
          rw [putRecords_dropped here gone _ rfl]
          rfl

theorem Access.alone {slot : Slot} {kind : Kind} {answer : Call.Answer} {after : Estate Outside}
    (access : estate.Access entity found slot kind answer after)
    (here : estate.entity? entity = some found) (gone : estate.modelLives found.model = false) :
    after = estate ∧ (Call.follow entity slot).Alone estate answer after := by
  cases access with
  | unset unset => exact ⟨rfl, .unset here unset⟩
  | known set known =>
      obtain ⟨knows, lives⟩ := Option.filter_eq_some_iff.mp known
      exact ⟨rfl, .known here set knows lives⟩
  | dropped set unknown =>
      refine ⟨rfl, .lost here set ?_⟩
      intro target knows
      have filtered := Option.filter_eq_none_iff.mp unknown target knows
      simpa using filtered
  | stored _ _ lives | missing _ _ lives => cases gone.symm.trans lives

end Estate

namespace Call

open Estate Edit

variable {model : ModelRef} {estate : Estate Outside} {call : Call}

/-- An operation on a survivor is over before anybody could hear of it. -/
theorem OnSurvivor.opening_alone (on : call.OnSurvivor model estate) (sound : estate.Sound)
    (gone : estate.modelLives model = false) :
    ∃ answer after, call.opening estate = .ended answer after ∧ call.Alone estate answer after ∧
      after.models = estate.models ∧ after.held = estate.held := by
  cases on with
  | @edits entity found edit here own typed =>
      subst own
      have suited := (sound.well entity found here).suited
      refine ⟨_, _, edit_alone here gone typed.fits, .edits here (read_applied suited typed) ?_, rfl, rfl⟩
      rintro slot id rfl
      have unknown : ((found.kind.target? slot).bind fun kind => estate.storedFor found kind id) = none := by
        simp [storedFor, gone]
      show (found.setLink slot ⟨id, _⟩).links slot = _
      rw [unknown, links_set]
  | @follows entity found slot kind here own typed =>
      subst own
      obtain ⟨same, alone⟩ := (follow_access here typed).alone here gone
      exact ⟨_, _, rfl, alone, by rw [same], by rw [same]⟩
  | @adds entity found other owner here own given made foreign =>
      subst own
      refine ⟨_, estate, ?_, .foreign here, rfl, rfl⟩
      simp only [opening, addOpening, here, made, given, Bool.false_eq_true, if_false, ne_eq,
        foreign.symm, not_false_eq_true, if_true]
      rfl

theorem onSurvivor_amid {Other : Type} (other : Other) :
    call.OnSurvivor model (estate.amid other) ↔ call.OnSurvivor model estate := by
  constructor
  all_goals
    intro on
    cases on with
    | edits here own typed => exact .edits here own typed
    | follows here own typed => exact .follows here own typed
    | adds here own given made foreign => exact .adds here own given made foreign

theorem Alone.seen {start after : Estate Outside} {answer : Answer}
    (alone : call.Alone start answer after) : call.Alone (start.amid ()) answer (after.amid ()) := by
  cases alone with
  | edits here reads unaimed => exact .edits here reads unaimed
  | unset here unset => exact .unset here unset
  | known here set knows lives => exact .known here set knows lives
  | lost here set dead => exact .lost here set dead
  | foreign here => exact .foreign here

theorem OnSurvivor.later {after : Estate Outside} (on : call.OnSurvivor model estate)
    (grows : estate.Grows after) (models : after.models = estate.models) :
    call.OnSurvivor model after := by
  have kept {entity : EntityRef} {found : Entity} (here : estate.entity? entity = some found) :
      ∃ now, after.entity? entity = some now ∧ now.card = found.card := by
    have known : estate.card? entity = some found.card := by rw [card?, here]; rfl
    exact Option.map_eq_some_iff.mp (grows.cards entity _ known)
  cases on with
  | @edits entity found edit here own typed =>
      obtain ⟨now, there, card⟩ := kept here
      have kind : now.kind = found.kind := congrArg Card.kind card
      refine .edits there ((congrArg Card.model card).trans own) ?_
      cases edit with
      | set wanted => exact (congrArg (Kind.has · wanted.field) kind).trans typed
      | pointById slot id => exact (congrArg (fun kind => (Kind.target? kind slot).isSome) kind).trans typed
      | pointAt slot target =>
          obtain ⟨aim, has, aimed⟩ := typed
          obtain ⟨card, known, same⟩ := Option.map_eq_some_iff.mp aimed
          exact ⟨aim, kind ▸ has, Option.map_eq_some_iff.mpr ⟨card, grows.cards _ _ known, same⟩⟩
      | annotate | unannotate => trivial
  | @follows entity found slot aim here own typed =>
      obtain ⟨now, there, card⟩ := kept here
      have kind : now.kind = found.kind := congrArg Card.kind card
      exact .follows there ((congrArg Card.model card).trans own) (kind ▸ typed)
  | @adds entity found other owner here own given made foreign =>
      obtain ⟨now, there, card⟩ := kept here
      have id : now.id = found.id := congrArg Card.id card
      have still : after.model? other = some owner := by rw [model?, models]; exact made
      exact .adds there ((congrArg Card.model card).trans own) (id ▸ given) still foreign

theorem OnSurvivor.turn_alone (deliver : Deliver Outside) (on : call.OnSurvivor model estate)
    (sound : estate.Sound) (gone : estate.modelLives model = false) :
    let turn := call.turn deliver estate
    turn.handed = [] ∧ call.Alone estate turn.answer turn.after ∧ estate.Grows turn.after ∧
      turn.after.models = estate.models ∧ turn.after.modelLives model = false := by
  obtain ⟨answer, after, opened, alone, models, held⟩ := on.opening_alone sound gone
  have effect := (call.opening_effect estate).reached
  rw [opened] at effect
  have performed : call.perform deliver estate = (answer, after) := by
    rw [perform_opening, opened]
    rfl
  have still : after.modelLives model = false := by
    rw [modelLives, held]
    exact gone
  have unheard : call.handed deliver estate = [] := by
    -- what is handed is noted in the surroundings, which no operation touches by itself
    let noted := estate.amid (estate.outside, ([] : List Handed))
    have grows : estate.Grows noted := grows_of_same rfl rfl
    obtain ⟨_, last, ends, _⟩ := ((onSurvivor_amid _).mpr on).opening_alone (grows.sound sound)
      (show noted.modelLives model = false from gone)
    have noting := (call.opening_effect noted).reached
    rw [ends] at noting
    rw [handed, perform_opening, ends]
    exact congrArg Prod.snd noting.outside
  simp only [turn, performed]
  exact ⟨unheard, alone, effect.grows, models, still⟩

end Call

def Juncture.Alone (juncture : Juncture) : Prop :=
  match juncture.stage with
  | .begins => juncture.now = juncture.before
  | .hears _ _ => False
  | .answers answer => juncture.call.Alone juncture.before answer juncture.now

theorem Juncture.Founded.alone {juncture : Juncture} {model : ModelRef} (founded : juncture.Founded)
    (gone : juncture.before.modelLives model = false)
    (on : juncture.call.OnSurvivor model juncture.before) : juncture.Alone := by
  obtain ⟨call, before, stage, now⟩ := juncture
  obtain ⟨sound, _, reaches⟩ := founded
  have quiet : ∀ start : Estate (List Juncture), before = start.amid () →
      ∃ answer after, call.opening start = .ended answer after ∧ call.Alone start answer after := by
    rintro start rfl
    have unseen : (start.amid ()).Grows start := Estate.grows_unseen start
    obtain ⟨answer, after, opened, alone, _⟩ := ((Call.onSurvivor_amid ()).mp on).opening_alone
      (unseen.sound sound) (show start.modelLives model = false from gone)
    exact ⟨answer, after, opened, alone⟩
  cases reaches with
  | begins => rfl
  -- a sink would hear of it only if the call went on, and it is over
  | hears opened | closes opened =>
      obtain ⟨_, _, ends, _⟩ := quiet _ rfl
      cases opened.symm.trans ends
  | ended opened =>
      obtain ⟨_, _, ends, alone⟩ := quiet _ rfl
      cases opened.symm.trans ends
      exact alone.seen

theorem turns_alone (deliver : Deliver Outside) {model : ModelRef} {estate : Estate Outside}
    (sound : estate.Sound) (gone : estate.modelLives model = false) (calls : List Call)
    (on : ∀ call ∈ calls, call.OnSurvivor model estate) :
    ∀ turn ∈ turns deliver calls estate, turn.before.modelLives model = false ∧ turn.handed = [] ∧
      turn.call.Alone turn.before turn.answer turn.after := by
  induction calls generalizing estate with
  | nil => exact fun turn member => absurd member List.not_mem_nil
  | cons call rest ih =>
      -- the first call makes no model and keeps all cards, so the rest are still operations on survivors
      have first := on call List.mem_cons_self
      obtain ⟨unheard, alone, grows, models, still⟩ := first.turn_alone deliver sound gone
      have later := ih (grows.sound sound) still fun other member =>
        (on other (List.mem_cons_of_mem call member)).later grows models
      intro turn member
      rcases List.mem_cons.mp member with rfl | member
      · exact ⟨gone, unheard, alone⟩
      · exact later turn member

/-- In every run, whatever goes on before, meanwhile and in between: an operation on an entity whose model is
gone is heard by nobody, and has the outcome that it has alone. And so are all operations in a row that are
made on such entities, with any sinks, in an estate that a run comes to; none of them brings the model
back. -/
theorem survivors_stand_alone :
    (∀ (script : Script) (juncture : Juncture), juncture ∈ script.log → ∀ model : ModelRef,
      juncture.before.modelLives model = false → juncture.call.OnSurvivor model juncture.before →
      juncture.Alone) ∧
    ∀ (Outside : Type) (deliver : Deliver Outside) (estate : Estate Outside), estate.Reachable →
      ∀ model : ModelRef, estate.modelLives model = false →
      ∀ calls : List Call, (∀ call ∈ calls, call.OnSurvivor model estate) →
      ∀ turn ∈ turns deliver calls estate, turn.before.modelLives model = false ∧ turn.handed = [] ∧
        turn.call.Alone turn.before turn.answer turn.after := by
  constructor
  · intro script juncture member model gone on
    exact (script.log_founded member).alone gone on
  · intro Outside deliver estate reachable model gone calls on
    exact turns_alone deliver reachable.sound gone calls on

def orphaned : Script :=
  .call (.newModel (.made 0)) .done (.ok ()) <|
  .call (.newModel (.made 0)) .done (.ok ()) <|
  .call (.elsewhere [.discard] [] [.model ⟨0⟩, .model ⟨1⟩, .entity ⟨0⟩, .entity ⟨1⟩]) .done (.ok ()) <|
  .call (.newEntity ⟨0⟩ .system (.repeating 1)) .done (.ok ()) <|
  .call (.newEntity ⟨0⟩ .system (.repeating 2)) .done (.ok ()) <|
  .call (.add ⟨0⟩ ⟨0⟩) .done (.ok ()) <|
  .call (.add ⟨0⟩ ⟨1⟩) .done (.ok ()) <|
  .call (.pointAt ⟨0⟩ .parent ⟨1⟩) .done (.ok ()) <|
  .call (.elsewhere [.discard] [] [.entity ⟨0⟩, .entity ⟨1⟩, .sink (.made 0)]) .done (.ok ()) <|
  .call (.annotate (.ofEntity ⟨0⟩) "stage" "late") .done (.ok ()) .done

def orphanage : Estate Unit :=
  (orphaned.log[22]?.map Juncture.now).getD (.empty ())

/-- The system gets a name, has its parent, is told of it by identity, has none, and finds no other model. -/
def orphanLife : List Call :=
  [.change ⟨0⟩ (.displayName "alone"), .follow ⟨0⟩ .parent, .pointById ⟨0⟩ .parent (.repeating 2),
    .follow ⟨0⟩ .parent, .add ⟨1⟩ ⟨0⟩]

theorem orphans_stand_alone :
    (∃ juncture ∈ orphaned.log, juncture.call = .annotate (.ofEntity ⟨0⟩) "stage" "late" ∧
      juncture.stage = .answers .done ∧ juncture.Alone) ∧
    orphanage.modelLives ⟨0⟩ = false ∧ orphanage.sinkLives (.made 0) = true ∧
    (turns (grumbling ⟨1⟩) orphanLife orphanage).map Turn.answer =
      [.done, .entity (some ⟨1⟩), .done, .refused .modelDropped,
        .refused (.modelMismatch (.repeating 1))] ∧
    ∀ turn ∈ turns (grumbling ⟨1⟩) orphanLife orphanage, turn.before.modelLives ⟨0⟩ = false ∧
      turn.handed = [] ∧ turn.call.Alone turn.before turn.answer turn.after := by
  obtain ⟨inRuns, inRows⟩ := survivors_stand_alone
  refine ⟨⟨_, List.mem_of_getElem? (i := 22) rfl, rfl, rfl, ?_⟩, rfl, rfl, rfl, ?_⟩
  · apply inRuns orphaned _ (List.mem_of_getElem? (i := 22) rfl) ⟨0⟩ rfl
    show Call.OnSurvivor ⟨0⟩ _ ((Edit.annotate "stage" "late").call ⟨0⟩)
    exact .edits rfl rfl trivial
  · have there : ∃ found, orphanage.entity? ⟨0⟩ = some found ∧ found.model = ⟨0⟩ ∧
        found.kind = .system ∧ found.id = .repeating 1 := ⟨_, rfl, rfl, rfl, rfl⟩
    obtain ⟨found, here, own, kind, id⟩ := there
    have slot : found.kind.target? .parent = some .system := by rw [kind]; rfl
    have follows : Call.OnSurvivor ⟨0⟩ orphanage (.follow ⟨0⟩ .parent) := .follows here own slot
    have edits (edit : Edit) (typed : edit.Typed orphanage found) :
        Call.OnSurvivor ⟨0⟩ orphanage (edit.call ⟨0⟩) := .edits here own typed
    have adds : Call.OnSurvivor ⟨0⟩ orphanage (.add ⟨1⟩ ⟨0⟩) :=
      .adds here own (by rw [id]; rfl) rfl (by decide)
    apply inRows Unit _ orphanage ⟨orphaned, _, List.mem_of_getElem? (i := 22) rfl, rfl⟩ ⟨0⟩ rfl
    simp only [orphanLife, List.forall_mem_cons]
    exact ⟨edits (.set (.displayName "alone")) rfl, follows,
      edits (.pointById .parent (.repeating 2)) (by rw [Edit.Typed, slot]; rfl), follows, adds,
      List.forall_mem_nil _⟩

end Landscape

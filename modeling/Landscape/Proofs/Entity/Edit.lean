import Landscape.Proofs.Calls

/-!
The calls that change an entity: its setters, the setters of its references, and its annotations. They
reach the sink of its model by different ways, but each of them is one change of the entity, and, if the
entity is registered and there is something to change, one report of it that already shows the change.
-/

namespace Landscape

/-- What can be called on an entity to change it. -/
inductive Edit where
  | set (change : Change)
  | pointById (slot : Slot) (id : ResourceId)
  | pointAt (slot : Slot) (target : EntityRef)
  | annotate (key value : String)
  | unannotate (key : String)

namespace Edit

variable {Outside : Type}

def call (entity : EntityRef) : Edit → Call
  | set change => .change entity change
  | pointById slot id => .pointById entity slot id
  | pointAt slot target => .pointAt entity slot target
  | annotate key value => .annotate (.ofEntity entity) key value
  | unannotate key => .unannotate (.ofEntity entity) key

/-- A reference that is listed, a value that is there, a key that is absent: nothing to change. -/
def isIdle (found : Entity) : Edit → Bool
  | set change => found.absorbs change
  | pointById _ _ | pointAt _ _ => false
  | annotate key value => found.annotations.get? key = some value
  | unannotate key => !found.annotations.contains key

def change (estate : Estate Outside) (found : Entity) : Edit → Entity
  | set change => found.change change
  | pointById slot id => found.setLink slot
      ⟨id, (found.kind.target? slot).bind fun kind => estate.storedFor found kind id⟩
  | pointAt slot target => found.setLink slot
      ⟨((estate.entity? target).map Entity.id).getD .nil, some target⟩
  | annotate key value => { found with annotations := found.annotations.insert key value }
  | unannotate key => { found with annotations := found.annotations.erase key }

def applied (edit : Edit) (estate : Estate Outside) (found : Entity) : Entity :=
  if edit.isIdle found then found else edit.change estate found

def Fits (estate : Estate Outside) : Edit → Prop
  | pointAt _ target => (estate.entity? target).isSome
  | _ => True

theorem card_change (edit : Edit) (estate : Estate Outside) (found : Entity) :
    (edit.change estate found).card = found.card ∧
      (edit.change estate found).registration = found.registration := by
  cases edit with
  | set change => exact Estate.card_change change found
  | _ => exact ⟨rfl, rfl⟩

def holds (entity : EntityRef) (model : ModelRef) : Edit → List Holding
  | annotate _ _ | unannotate _ =>
      [.model model, .entity entity, .model model, .sink (.entity entity)]
  | _ => [.model model, .entity entity]

/-- The estate in which the sink hears of the change. -/
def scene (edit : Edit) (entity : EntityRef) (found : Entity) (estate : Estate Outside) :
    Estate Outside :=
  (estate.modifyEntity entity fun _ => edit.change estate found).hold
    (edit.holds entity found.model)

theorem scene_amid {Other : Type} (outside : Other) (edit : Edit) (entity : EntityRef)
    (found : Entity) (estate : Estate Outside) :
    edit.scene entity found (estate.amid outside) =
      (edit.scene entity found estate).amid outside := by
  cases edit <;> rfl

theorem fits_amid {Other : Type} (outside : Other) {edit : Edit} {estate : Estate Outside}
    (fits : edit.Fits estate) : edit.Fits (estate.amid outside) := by
  cases edit <;> exact fits

end Edit

namespace Estate

variable {Outside : Type} {entity : EntityRef} {found : Entity} {owner : Model}
  {estate : Estate Outside}

theorem entity_modified (here : estate.entity? entity = some found) (change : Entity → Entity) :
    (estate.modifyEntity entity change).entity? entity = some (change found) := by
  rw [entity_modifyEntity, if_pos rfl, here]
  rfl

theorem modifyEntity_congr (here : estate.entity? entity = some found)
    {first second : Entity → Entity} (same : first found = second found) :
    estate.modifyEntity entity first = estate.modifyEntity entity second := by
  have entities : estate.entities.modify entity.index first =
      estate.entities.modify entity.index second := by
    apply List.ext_getElem?
    intro index
    rw [List.getElem?_modify, List.getElem?_modify]
    by_cases hit : entity.index = index
    · subst hit
      rw [show estate.entities[entity.index]? = some found from here]
      simp [same]
    · simp [hit]
  rw [modifyEntity, entities, modifyEntity]

theorem release_hold (holdings : List Holding) (estate : Estate Outside) :
    (estate.hold holdings).release holdings = estate := by
  have held : holdings.foldl List.erase (holdings ++ estate.held) = estate.held := by
    generalize estate.held = rest
    induction holdings with
    | nil => rfl
    | cons first more ih =>
        rw [List.cons_append, List.foldl_cons, List.erase_cons_head]
        exact ih
  show { estate with held := holdings.foldl List.erase (holdings ++ estate.held) } = estate
  rw [held]

theorem modelLives_hold {model : ModelRef} (lives : estate.modelLives model = true)
    (holdings : List Holding) : (estate.hold holdings).modelLives model = true := by
  rw [modelLives, List.contains_iff_mem] at lives ⊢
  exact List.mem_append_right holdings lives

theorem announce_unregistered (deliver : Deliver Outside)
    (here : estate.entity? entity = some found) (fresh : found.isRegistered = false) :
    estate.announce deliver entity = (.ok (), estate) := by
  unfold announce
  rw [here]
  simp only [fresh, Bool.false_and, Bool.false_eq_true, if_false]
  split <;> rfl

theorem announce_delivers {deliver : Deliver Outside} {verdict : Except EventError Unit}
    {after : Estate Outside} (here : estate.entity? entity = some found)
    (made : estate.model? found.model = some owner) (registered : found.isRegistered = true)
    (lives : estate.modelLives found.model = true)
    (reply : deliver owner.sink (updateEvent entity found)
      (estate.hold [.model found.model, .entity entity]) = (verdict, after)) :
    estate.announce deliver entity =
      (verdict, after.release [.model found.model, .entity entity]) := by
  simp only [announce, here, made, registered, lives, Bool.and_self, if_true, holding, reply]

theorem handed_receive {deliver : Deliver Outside} {verdict : Except EventError Unit}
    {after : Estate Outside} (here : estate.entity? entity = some found)
    (made : estate.model? found.model = some owner) (registered : found.isRegistered = true)
    (lives : estate.modelLives found.model = true) {event : Event}
    (annotations : event.resourceType = .annotations)
    (reply : deliver owner.sink (updateEvent entity found)
      (estate.hold [.model found.model, .entity entity]) = (verdict, after)) :
    (Call.receive entity event).handed deliver estate =
      [⟨owner.sink, updateEvent entity found, verdict⟩] := by
  have amidst : (estate.amid (estate.outside, ([] : List Handed))).entity? entity = some found := here
  have noted := Deliver.noting_amid deliver owner.sink (updateEvent entity found)
    (estate.hold [.model found.model, .entity entity]) []
  rw [reply] at noted
  have announced := announce_delivers amidst made registered lives noted
  simp only [Call.handed, Call.perform, Call.answering, entityReceives, annotations, if_true,
    announced]
  rfl

theorem reportNotes_unregistered (deliver : Deliver Outside)
    (here : estate.entity? entity = some found) (fresh : found.isRegistered = false)
    (model : ModelRef) (records : Records) {event : Event}
    (annotations : event.resourceType = .annotations) :
    estate.reportNotes deliver ⟨model, .entity entity, records⟩ event = (.ok (), estate) := by
  have quiet : ∀ holdings, (estate.hold holdings).announce deliver entity =
      (.ok (), estate.hold holdings) := fun holdings =>
    announce_unregistered deliver here fresh
  unfold reportNotes
  split
  · simp only [holding, handOver, entityReceives, annotations, if_true, quiet, release_hold]
    rfl
  · rfl

theorem reportNotes_delivers {deliver : Deliver Outside} {verdict : Except EventError Unit}
    {after : Estate Outside} (here : estate.entity? entity = some found)
    (made : estate.model? found.model = some owner) (registered : found.isRegistered = true)
    (lives : estate.modelLives found.model = true) (awake : estate.entityLives entity = true)
    (records : Records) {event : Event} (annotations : event.resourceType = .annotations)
    (reply : deliver owner.sink (updateEvent entity found)
      (estate.hold [.model found.model, .entity entity, .model found.model,
        .sink (.entity entity)]) = (verdict, after)) :
    estate.reportNotes deliver ⟨found.model, .entity entity, records⟩ event =
      (verdict.mapError .event, after.release [.model found.model, .entity entity,
        .model found.model, .sink (.entity entity)]) := by
  have awakeSink : estate.sinkLives (.entity entity) = true := awake
  have amidst : (estate.hold [.model found.model, .sink (.entity entity)]).entity? entity =
      some found := here
  have announced := announce_delivers amidst made registered (modelLives_hold lives _) reply
  simp only [reportNotes, awakeSink, lives, if_true, holding, handOver, entityReceives,
    annotations, List.singleton_append, announced]
  rfl

end Estate

namespace Edit

open Estate

variable {Outside : Type} {entity : EntityRef} {found : Entity} {owner : Model}
  {estate : Estate Outside} {edit : Edit}

theorem perform_idle (deliver : Deliver Outside) (here : estate.entity? entity = some found)
    (idle : edit.isIdle found = true) :
    (edit.call entity).perform deliver estate = (.done, estate) := by
  cases edit with
  | set change =>
      have absorbed : found.absorbs change = true := idle
      simp only [call, Call.perform, Call.answering, Estate.change, here, absorbed, if_true]
      rfl
  | pointById | pointAt => cases idle
  | annotate key value =>
      have same : found.annotations.get? key = some value := of_decide_eq_true idle
      simp only [call, Call.perform, Call.answering, Estate.annotate, notesAt?, here,
        Option.map_some, same, if_true]
      rfl
  | unannotate key =>
      have absent : found.annotations.contains key = false := by simpa [isIdle] using idle
      simp only [call, Call.perform, Call.answering, Estate.unannotate, notesAt?, here,
        Option.map_some, absent, Bool.false_eq_true, if_false]
      rfl

def report (deliver : Deliver Outside) (entity : EntityRef) (found : Entity) (edit : Edit)
    (estate : Estate Outside) : Outcome ModelError Outside :=
  match edit with
  | annotate key value =>
      estate.reportNotes deliver ⟨found.model, .entity entity, found.annotations⟩
        (noteEvent (if found.annotations.contains key then .update else .create) (.entry key value))
  | unannotate key =>
      estate.reportNotes deliver ⟨found.model, .entity entity, found.annotations⟩
        (noteEvent .delete (.entryKey key))
  | _ =>
      let (answer, estate) := estate.announce deliver entity
      (answer.mapError .event, estate)

/-- An edit that has something to change makes the change and then reports it. -/
theorem perform_busy (deliver : Deliver Outside) (here : estate.entity? entity = some found)
    (busy : edit.isIdle found = false) (fits : edit.Fits estate) :
    (edit.call entity).perform deliver estate = Call.answering .ofChange
      (edit.report deliver entity found
        (estate.modifyEntity entity fun _ => edit.change estate found)) := by
  cases edit with
  | set change =>
      have wanted : found.absorbs change = false := busy
      have same : estate.modifyEntity entity (Entity.change change) =
          estate.modifyEntity entity fun _ => found.change change := modifyEntity_congr here rfl
      simp only [call, Call.perform, Estate.change, here, wanted, Bool.false_eq_true, if_false,
        update, same]
      rfl
  | pointById slot id =>
      have same : ∀ link, estate.modifyEntity entity (Entity.setLink slot link) =
          estate.modifyEntity entity fun _ => found.setLink slot link := fun link =>
        modifyEntity_congr here rfl
      simp only [call, Call.perform, Estate.pointById, here, update, same]
      rfl
  | pointAt slot target =>
      obtain ⟨other, there⟩ := Option.isSome_iff_exists.mp fits
      have same : ∀ link, estate.modifyEntity entity (Entity.setLink slot link) =
          estate.modifyEntity entity fun _ => found.setLink slot link := fun link =>
        modifyEntity_congr here rfl
      simp only [call, Call.perform, Estate.pointAt, there, update, same, Edit.change,
        Option.map_some, Option.getD_some]
      rfl
  | annotate key value =>
      have other : found.annotations.get? key ≠ some value := of_decide_eq_false busy
      have same : ∀ records, estate.putRecords (.ofEntity entity) records =
          estate.modifyEntity entity fun _ => { found with annotations := records } :=
        fun records => modifyEntity_congr here rfl
      simp only [call, Call.perform, Estate.annotate, notesAt?, here, Option.map_some, other,
        if_false, same]
      rfl
  | unannotate key =>
      have present : found.annotations.contains key = true := by simpa [isIdle] using busy
      have same : ∀ records, estate.putRecords (.ofEntity entity) records =
          estate.modifyEntity entity fun _ => { found with annotations := records } :=
        fun records => modifyEntity_congr here rfl
      simp only [call, Call.perform, Estate.unannotate, notesAt?, here, Option.map_some, present,
        if_true, same]
      rfl

theorem updateEvent_card {now : Entity} (card : now.card = found.card) :
    updateEvent entity now = updateEvent entity found := by
  have kind : now.kind = found.kind := congrArg Card.kind card
  have id : now.id = found.id := congrArg Card.id card
  rw [updateEvent, updateEvent, kind, id]

theorem report_unregistered (deliver : Deliver Outside) {now : Entity}
    (here : estate.entity? entity = some now) (fresh : now.isRegistered = false) :
    edit.report deliver entity found estate = (.ok (), estate) := by
  cases edit with
  | annotate | unannotate =>
      rw [report]
      exact reportNotes_unregistered deliver here fresh _ _ rfl
  | _ =>
      simp only [report, announce_unregistered deliver here fresh]
      rfl

theorem report_delivers {deliver : Deliver Outside} {verdict : Except EventError Unit}
    {after : Estate Outside} {now : Entity} (here : estate.entity? entity = some now)
    (card : now.card = found.card) (made : estate.model? found.model = some owner)
    (registered : now.isRegistered = true) (lives : estate.modelLives found.model = true)
    (awake : estate.entityLives entity = true)
    (reply : deliver owner.sink (updateEvent entity found)
      (estate.hold (edit.holds entity found.model)) = (verdict, after)) :
    edit.report deliver entity found estate =
      (verdict.mapError .event, after.release (edit.holds entity found.model)) := by
  -- the report names the entity as it is now, which has kept its kind, its identity and its model
  have model : now.model = found.model := congrArg Card.model card
  rw [← updateEvent_card card] at reply
  rw [← model] at made lives reply
  cases edit with
  | annotate | unannotate =>
      rw [report, ← model]
      exact reportNotes_delivers here made registered lives awake _ rfl reply
  | _ =>
      rw [← model]
      simp only [report, announce_delivers here made registered lives reply, holds]

theorem perform_unregistered (deliver : Deliver Outside)
    (here : estate.entity? entity = some found) (fresh : found.isRegistered = false)
    (busy : edit.isIdle found = false) (fits : edit.Fits estate) :
    (edit.call entity).perform deliver estate =
      (.done, estate.modifyEntity entity fun _ => edit.change estate found) := by
  have still : (edit.change estate found).isRegistered = false := by
    rw [Entity.isRegistered, (card_change edit estate found).2]
    exact fresh
  rw [perform_busy deliver here busy fits,
    report_unregistered deliver (entity_modified here _) still]
  rfl

/-- An edit of a registered entity is made and handed over once. -/
theorem perform_registered {deliver : Deliver Outside} {verdict : Except EventError Unit}
    {after : Estate Outside} (here : estate.entity? entity = some found)
    (made : estate.model? found.model = some owner) (registered : found.isRegistered = true)
    (lives : estate.modelLives found.model = true) (awake : estate.entityLives entity = true)
    (busy : edit.isIdle found = false) (fits : edit.Fits estate)
    (reply : deliver owner.sink (updateEvent entity found) (edit.scene entity found estate) =
      (verdict, after)) :
    (edit.call entity).perform deliver estate =
      (.ofChange (verdict.mapError .event), after.release (edit.holds entity found.model)) := by
  have still : (edit.change estate found).isRegistered = true := by
    rw [Entity.isRegistered, (card_change edit estate found).2]
    exact registered
  rw [perform_busy deliver here busy fits, report_delivers (entity_modified here _)
    (card_change edit estate found).1 made still lives awake reply]
  rfl

theorem handed_registered {deliver : Deliver Outside} {verdict : Except EventError Unit}
    {after : Estate Outside} (here : estate.entity? entity = some found)
    (made : estate.model? found.model = some owner) (registered : found.isRegistered = true)
    (lives : estate.modelLives found.model = true) (awake : estate.entityLives entity = true)
    (busy : edit.isIdle found = false) (fits : edit.Fits estate)
    (reply : deliver owner.sink (updateEvent entity found) (edit.scene entity found estate) =
      (verdict, after)) :
    (edit.call entity).handed deliver estate =
      [⟨owner.sink, updateEvent entity found, verdict⟩] := by
  have amidst : (estate.amid (estate.outside, ([] : List Handed))).entity? entity = some found := here
  have noted := Deliver.noting_amid deliver owner.sink (updateEvent entity found)
    (edit.scene entity found estate) []
  rw [reply] at noted
  rw [Call.handed, perform_registered amidst made registered lives awake busy (fits_amid _ fits)
    ((scene_amid _ edit entity found estate) ▸ noted)]
  rfl

end Edit

end Landscape

import Landscape.Proofs.Entity.Notice

/-!
Calls that neither add nor change an entity keep it as it is, but for the targets that its references know,
whatever they report, to any sinks that change nothing themselves.
-/

namespace Landscape

def Call.Spares (entity : EntityRef) : Call → Prop
  | .add _ other | .change other _ | .pointById other _ _ | .pointAt other _ _
  | .annotate (.ofEntity other) _ _ | .unannotate (.ofEntity other) _ => other ≠ entity
  | _ => True

namespace Entity

variable {first second third : Entity}

theorem Resembles.trans (former : first.Resembles second) (latter : second.Resembles third) :
    first.Resembles third := by
  constructor
  · rw [← latter.1, ← former.1]
  · intro slot
    exact (former.2 slot).trans (latter.2 slot)

theorem Resembles.card (same : first.Resembles second) :
    first.card = second.card ∧ first.registration = second.registration := by
  rw [← same.1]
  exact ⟨rfl, rfl⟩

theorem Resembles.snapshot (same : first.Resembles second) : first.snapshot = second.snapshot := by
  rw [← same.1]
  rfl

theorem learnTarget_resembles (slot : Slot) (target : EntityRef) (found : Entity) :
    (found.learnTarget slot target).Resembles found := by
  unfold learnTarget
  split
  · exact found.resembles_refl
  · next link known =>
      refine ⟨rfl, fun asked => ?_⟩
      by_cases here : asked = slot
      · simp [setLink, here, known]
      · simp [setLink, here]

end Entity

namespace Estate

variable {Outside : Type} {model : ModelRef} {entity : EntityRef} {deliver : Deliver Outside}
  {estate before after : Estate Outside}

def Keeps (model : ModelRef) (entity : EntityRef) (before after : Estate Outside) : Prop :=
  ∀ found, before.entity? entity = some found → found.model = model →
    ∃ now, after.entity? entity = some now ∧ now.Resembles found

theorem keeps_of_same (same : after.entities = before.entities) : before.Keeps model entity after := by
  intro found here _
  refine ⟨found, ?_, found.resembles_refl⟩
  rw [entity?, same]
  exact here

theorem Keeps.trans {first second third : Estate Outside} (former : first.Keeps model entity second)
    (latter : second.Keeps model entity third) : first.Keeps model entity third := by
  intro found here own
  obtain ⟨now, there, same⟩ := former found here own
  obtain ⟨last, final, alike⟩ := latter now there ((congrArg Card.model same.card.1).trans own)
  exact ⟨last, final, alike.trans same⟩

theorem keeps_modifyEntity {other : EntityRef} (apart : other ≠ entity) (change : Entity → Entity)
    (estate : Estate Outside) : estate.Keeps model entity (estate.modifyEntity other change) := by
  intro found here _
  refine ⟨found, ?_, found.resembles_refl⟩
  rw [entity_modifyEntity, if_neg (Ne.symm apart)]
  exact here

theorem keeps_learnTarget (slot : Slot) (target other : EntityRef) (estate : Estate Outside) :
    estate.Keeps model entity (estate.modifyEntity other (Entity.learnTarget slot target)) := by
  by_cases same : other = entity
  · subst same
    intro found here _
    exact ⟨_, by rw [entity_modifyEntity, if_pos rfl, here]; rfl, found.learnTarget_resembles slot target⟩
  · exact keeps_modifyEntity same _ estate

theorem keeps_bindSlots (added : EntityRef) (estate : Estate Outside) :
    estate.Keeps model entity (estate.bindSlots added) :=
  bindSlots_keeps (fun later => estate.Keeps model entity later) added
    (fun later slot target kept => kept.trans (keeps_learnTarget slot target added later)) estate
    (keeps_of_same rfl)

theorem keeps_setRegistry (owner : ModelRef) (kind : Kind) (registry : Registry)
    (estate : Estate Outside) :
    estate.Keeps model entity (estate.setRegistry owner kind registry) :=
  keeps_of_same rfl

theorem keeps_addEntity (added : Entity) (estate : Estate Outside) :
    estate.Keeps model entity (estate.addEntity added).2 := by
  intro found here _
  exact ⟨found, (List.getElem?_append_left (List.getElem?_eq_some_iff.mp here).1).trans here,
    found.resembles_refl⟩

theorem keeps_holding {Answer : Type} (holdings : List Holding)
    {act : Estate Outside → Answer × Estate Outside}
    (keeps : ∀ estate : Estate Outside, estate.Keeps model entity (act estate).2)
    (estate : Estate Outside) : estate.Keeps model entity (estate.holding holdings act).2 :=
  (keeps (estate.hold holdings)).trans (keeps_of_same rfl)

theorem keeps_follow (other : EntityRef) (slot : Slot) (estate : Estate Outside) :
    estate.Keeps model entity (estate.follow other slot).2 := by
  unfold follow
  repeat' split
  all_goals first
    | exact keeps_of_same rfl
    | exact keeps_learnTarget slot _ other estate

section Reports
variable (discreet : Discreet deliver model)
include discreet

theorem keeps_deliver (sink : SinkRef) (event : Event) (estate : Estate Outside) :
    estate.Keeps model entity (deliver sink event estate).2 := by
  intro found here own
  exact discreet.keeps sink event estate entity found here own

theorem keeps_announce (other : EntityRef) (estate : Estate Outside) :
    estate.Keeps model entity (estate.announce deliver other).2 := by
  unfold announce
  split
  · exact keeps_of_same rfl
  · split
    · exact keeps_of_same rfl
    · split
      · exact keeps_holding _ (keeps_deliver discreet _ _) estate
      · exact keeps_of_same rfl

theorem keeps_update {other : EntityRef} (apart : other ≠ entity) (change : Entity → Entity)
    (estate : Estate Outside) : estate.Keeps model entity (estate.update deliver other change).2 :=
  (keeps_modifyEntity apart change estate).trans (keeps_announce discreet other _)

theorem keeps_entityReceives (other : EntityRef) (event : Event) (estate : Estate Outside) :
    estate.Keeps model entity (estate.entityReceives deliver other event).2 := by
  unfold entityReceives
  split
  · exact keeps_announce discreet other estate
  · exact keeps_of_same rfl

theorem keeps_reportNotes (notes : Notes) (event : Event) (estate : Estate Outside) :
    estate.Keeps model entity (estate.reportNotes deliver notes event).2 := by
  have handed : ∀ estate : Estate Outside,
      estate.Keeps model entity (estate.handOver deliver notes.sink event).2 := by
    intro estate
    cases notes.sink with
    | entity other => exact keeps_entityReceives discreet other event estate
    | made index => exact keeps_deliver discreet (.made index) event estate
  unfold reportNotes
  split
  · exact keeps_holding _ handed estate
  · exact keeps_of_same rfl

omit discreet in
theorem keeps_putRecords {place : NotesPlace} (apart : place ≠ .ofEntity entity) (records : Records)
    (estate : Estate Outside) : estate.Keeps model entity (estate.putRecords place records) := by
  cases place with
  | ofEntity other =>
      exact keeps_modifyEntity (fun same => apart (congrArg NotesPlace.ofEntity same)) _ estate
  | free notes => exact keeps_of_same rfl

theorem keeps_annotate {place : NotesPlace} (apart : place ≠ .ofEntity entity) (key value : String)
    (estate : Estate Outside) :
    estate.Keeps model entity (estate.annotate deliver place key value).2 := by
  unfold annotate
  split
  · exact keeps_of_same rfl
  · split
    · exact keeps_of_same rfl
    · exact (keeps_putRecords apart _ estate).trans (keeps_reportNotes discreet _ _ _)

theorem keeps_unannotate {place : NotesPlace} (apart : place ≠ .ofEntity entity) (key : String)
    (estate : Estate Outside) :
    estate.Keeps model entity (estate.unannotate deliver place key).2 := by
  unfold unannotate
  split
  · exact keeps_of_same rfl
  · split
    · exact (keeps_putRecords apart _ estate).trans (keeps_reportNotes discreet _ _ _)
    · exact keeps_of_same rfl

theorem keeps_add (other : ModelRef) {added : EntityRef} (apart : added ≠ entity)
    (estate : Estate Outside) : estate.Keeps model entity (estate.add deliver other added).2 := by
  have bound : estate.Keeps model entity (estate.bindSlots added) := keeps_bindSlots added estate
  unfold add
  split
  · split
    · exact keeps_of_same rfl
    · split
      · exact keeps_of_same rfl
      · next found owner _ _ _ _ =>
          have heard := (bound.trans (keeps_setRegistry other found.kind
            (((estate.bindSlots added).registry other found.kind).insert found.id added) _)).trans
            (keeps_holding (.model other :: .entity added :: heldEntity
              (((estate.bindSlots added).registry other found.kind).get? found.id))
              (keeps_deliver discreet owner.sink (storedEvent added found
                (((estate.bindSlots added).registry other found.kind).get? found.id))) _)
          dsimp only
          split
          · exact heard.trans (keeps_modifyEntity apart _ _)
          · exact heard.trans (keeps_of_same rfl)
  · exact keeps_of_same rfl

theorem keeps_delete (other : ModelRef) (kind : Kind) (id : ResourceId) (estate : Estate Outside) :
    estate.Keeps model entity (estate.delete deliver other kind id).2 := by
  unfold delete
  split
  · exact keeps_of_same rfl
  · next owner _ =>
      dsimp only
      split
      · exact keeps_of_same rfl
      · next removed _ =>
          have withdrawn : estate.Keeps model entity (estate.setRegistry other kind
            ((estate.registry other kind).remove id)) := keeps_setRegistry other kind _ estate
          have heard := withdrawn.trans (keeps_holding [.model other, .entity removed]
              (keeps_deliver discreet owner.sink (deletedEvent kind id)) _)
          split
          · exact heard
          · exact heard.trans (keeps_of_same rfl)

end Reports

end Estate

open Estate

theorem Call.perform_keeps {Outside : Type} {model : ModelRef} {entity : EntityRef}
    {deliver : Deliver Outside} (discreet : Discreet deliver model) {call : Call}
    (spares : call.Spares entity) (estate : Estate Outside) :
    estate.Keeps model entity (call.perform deliver estate).2 := by
  cases call with
  | newModel | newNotes | find | count | elsewhere | list => exact keeps_of_same rfl
  | newEntity owner kind id => exact keeps_addEntity _ estate
  | add owner added => exact keeps_add discreet owner spares estate
  | delete owner kind id => exact keeps_delete discreet owner kind id estate
  | change other wanted =>
      simp only [perform, answering, Estate.change]
      split
      · exact keeps_of_same rfl
      · split
        · exact keeps_of_same rfl
        · exact keeps_update discreet spares _ estate
  | pointById other slot id => exact keeps_update discreet spares _ estate
  | pointAt other slot target =>
      simp only [perform, answering, Estate.pointAt]
      split
      · exact keeps_of_same rfl
      · exact keeps_update discreet spares _ estate
  | follow other slot => exact keeps_follow other slot estate
  | receive other event => exact keeps_entityReceives discreet other event estate
  | annotate place key value =>
      refine keeps_annotate discreet ?_ key value estate
      rintro rfl
      exact spares rfl
  | unannotate place key =>
      refine keeps_unannotate discreet ?_ key estate
      rintro rfl
      exact spares rfl

/-- Models keep their sinks, and entities what they are for good. -/
structure Estate.Lasts {Outside : Type} (before after : Estate Outside) (model : ModelRef) : Prop where
  made : ∀ owner, before.model? model = some owner →
    ∃ now, after.model? model = some now ∧ now.sink = owner.sink
  cards : ∀ entity card, before.card? entity = some card → after.card? entity = some card

namespace Estate

variable {Outside : Type} {model : ModelRef} {deliver : Deliver Outside} {before after : Estate Outside}

theorem Persists.lasts (persists : before.Persists model after) : before.Lasts after model :=
  ⟨persists.made, persists.cards⟩

theorem Lasts.trans {first second third : Estate Outside} (former : first.Lasts second model)
    (latter : second.Lasts third model) : first.Lasts third model where
  made owner here := by
    obtain ⟨now, made, sink⟩ := former.made owner here
    obtain ⟨last, madeLast, sinkLast⟩ := latter.made now made
    exact ⟨last, madeLast, sinkLast.trans sink⟩
  cards entity card known := latter.cards entity card (former.cards entity card known)

end Estate

theorem Call.perform_lasts {Outside : Type} {model : ModelRef} {deliver : Deliver Outside}
    (discreet : Discreet deliver model) (call : Call) (estate : Estate Outside) :
    estate.Lasts (call.perform deliver estate).2 model := by
  by_cases writes : call.isWrite = true
  case neg =>
    exact ((call.perform_reports (by simpa using writes) estate).persists discreet).lasts
  cases call with
  | delete owner kind id => exact (delete_persists discreet owner kind id estate).lasts
  | add owner added =>
      rcases add_persists discreet owner added estate with
        ⟨persists, _⟩ | ⟨after, found, persists, _, _, performed⟩
      · exact persists.lasts
      · have final : ((Call.add owner added).perform deliver estate).2 =
            after.modifyEntity added Entity.register := congrArg Prod.snd performed
        rw [final]
        refine persists.lasts.trans ⟨fun owner made => ⟨owner, made, rfl⟩, ?_⟩
        intro entity card known
        exact (card_modifyEntity after added entity Entity.register fun _ => rfl).trans known
  | _ => cases writes

end Landscape

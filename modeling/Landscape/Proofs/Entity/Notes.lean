import Landscape.Proofs.Truthful

/-!
Annotations, wherever they are kept. A call that writes them changes them and hands the change over to their
own sink in one go; every other call leaves them as they are, before its sink hears of it and afterwards.
-/

namespace Landscape

namespace Records

def annotated (key value : String) (records : Records) : Option (Records × Event) :=
  if records.get? key = some value then none
  else some (records.insert key value,
    Estate.noteEvent (if records.contains key then .update else .create) (.entry key value))

def unannotated (key : String) (records : Records) : Option (Records × Event) :=
  if records.contains key then
    some (records.erase key, Estate.noteEvent .delete (.entryKey key))
  else none

end Records

def Call.noteWrite? : Call → Option (NotesPlace × (Records → Option (Records × Event)))
  | .annotate place key value => some (place, Records.annotated key value)
  | .unannotate place key => some (place, Records.unannotated key)
  | _ => none

def Call.place? (call : Call) : Option NotesPlace :=
  call.noteWrite?.map Prod.fst

namespace Estate

variable {Outside : Type}

def tellOpening (notes : Notes) (event : Event) (written : Estate Outside) :
    Opening Outside (Except ModelError Unit) :=
  if written.sinkLives notes.sink then
    .handing notes.sink event (written.hold (written.notesHolds notes))
      (conclude (Except.mapError .event) (written.notesHolds notes))
  else .ended (.ok ()) written

theorem report_handOver (deliver : Deliver Outside) (notes : Notes) (event : Event)
    (written : Estate Outside) :
    written.reportNotes deliver notes event =
      (written.tellOpening notes event).finish (handOver deliver) := by
  unfold reportNotes tellOpening
  split <;> rfl

/-- A write of annotations up to where their sink begins to hear of it. -/
def writeOpening (place : NotesPlace) (write : Records → Option (Records × Event))
    (estate : Estate Outside) : Opening Outside (Except ModelError Unit) :=
  match estate.notesAt? place with
  | none => .ended (.ok ()) estate
  | some notes =>
      match write notes.records with
      | none => .ended (.ok ()) estate
      | some (records, event) => (estate.putRecords place records).tellOpening notes event

theorem annotate_handOver (deliver : Deliver Outside) (place : NotesPlace) (key value : String)
    (estate : Estate Outside) :
    estate.annotate deliver place key value =
      (estate.writeOpening place (Records.annotated key value)).finish (handOver deliver) := by
  cases there : estate.notesAt? place with
  | none => simp only [annotate, writeOpening, there, Opening.finish]
  | some notes =>
      by_cases same : notes.records.get? key = some value
      · simp only [annotate, writeOpening, there, Records.annotated, same, if_true, Opening.finish]
      · simp only [annotate, writeOpening, there, Records.annotated, same, if_false, report_handOver]

theorem unannotate_handOver (deliver : Deliver Outside) (place : NotesPlace) (key : String)
    (estate : Estate Outside) :
    estate.unannotate deliver place key =
      (estate.writeOpening place (Records.unannotated key)).finish (handOver deliver) := by
  cases there : estate.notesAt? place with
  | none => simp only [unannotate, writeOpening, there, Opening.finish]
  | some notes =>
      by_cases present : notes.records.contains key = true
      · simp only [unannotate, writeOpening, there, Records.unannotated, present, if_true,
          report_handOver]
      · simp only [unannotate, writeOpening, there, Records.unannotated, present, Bool.false_eq_true,
          if_false, Opening.finish]

end Estate

/-- A call that hands changes of annotations to one kind of sinks, and all else to another. -/
def Call.through {Outside : Type} (hands deliver : Deliver Outside) (call : Call)
    (estate : Estate Outside) : Call.Answer × Estate Outside :=
  match call.noteWrite? with
  | some (place, write) => answering .ofChange ((estate.writeOpening place write).finish hands)
  | none => call.perform deliver estate

/-- To perform a call is to hand changes of annotations over as events are. -/
theorem Call.through_handOver {Outside : Type} (deliver : Deliver Outside) (call : Call)
    (estate : Estate Outside) :
    call.through (Estate.handOver deliver) deliver estate = call.perform deliver estate := by
  cases call with
  | annotate place key value =>
      rw [through, noteWrite?, perform, Estate.annotate_handOver]
  | unannotate place key =>
      rw [through, noteWrite?, perform, Estate.unannotate_handOver]
  | _ => rfl

namespace Estate

variable {Outside : Type} {estate before after : Estate Outside} {place other : NotesPlace}

def recordsAt (place : NotesPlace) (estate : Estate Outside) : Records :=
  ((estate.notesAt? place).map Notes.records).getD .empty

structure SameNotes (place : NotesPlace) (before after : Estate Outside) : Prop where
  records : after.recordsAt place = before.recordsAt place
  outside : after.outside = before.outside

theorem SameNotes.refl (place : NotesPlace) (estate : Estate Outside) :
    estate.SameNotes place estate := ⟨rfl, rfl⟩

theorem recordsAt_modifyEntity (entity changed : EntityRef) {change : Entity → Entity}
    (keeps : ∀ found, (change found).annotations = found.annotations) (estate : Estate Outside) :
    (estate.modifyEntity changed change).recordsAt (.ofEntity entity) =
      estate.recordsAt (.ofEntity entity) := by
  rw [recordsAt, notesAt?, entity_modifyEntity, recordsAt, notesAt?]
  split
  · cases estate.entity? entity with
    | none => rfl
    | some found => exact keeps found
  · rfl

theorem recordsAt_bindSlots (entity bound : EntityRef) (estate : Estate Outside) :
    (estate.bindSlots bound).recordsAt (.ofEntity entity) = estate.recordsAt (.ofEntity entity) := by
  refine bindSlots_keeps (fun now => now.recordsAt (.ofEntity entity) =
    estate.recordsAt (.ofEntity entity)) bound ?_ estate rfl
  intro now slot target kept
  refine (recordsAt_modifyEntity entity bound ?_ now).trans kept
  intro found
  unfold Entity.learnTarget
  split <;> rfl

theorem read_appended {Item Value : Type} {read : Item → Value} {blank : Value} {new : Item}
    (fresh : read new = blank) (items : List Item) (index : Nat) :
    ((items ++ [new])[index]?.map read).getD blank = (items[index]?.map read).getD blank := by
  rw [List.getElem?_append]
  split
  · rfl
  · next beyond =>
      rw [List.getElem?_eq_none (Nat.le_of_not_lt beyond)]
      cases index - items.length with
      | zero => exact fresh
      | succ further => rfl

theorem recordsAt_addEntity (entity : EntityRef) (model : ModelRef) (kind : Kind) (id : ResourceId)
    (estate : Estate Outside) :
    (estate.addEntity (.new model kind id)).2.recordsAt (.ofEntity entity) =
      estate.recordsAt (.ofEntity entity) := by
  rw [recordsAt, notesAt?, Option.map_map, recordsAt, notesAt?, Option.map_map]
  exact read_appended rfl estate.entities entity.index

end Estate

namespace Call

open Estate

variable {Outside : Type} {call : Call} {estate after now final : Estate Outside}

theorem Opens.annotations (opens : call.Opens estate now) (silent : call.place? = none)
    (entity : EntityRef) : now.recordsAt (.ofEntity entity) = estate.recordsAt (.ofEntity entity) := by
  obtain ⟨middle, alters, beside⟩ := opens
  have aside : now.recordsAt (.ofEntity entity) = middle.recordsAt (.ofEntity entity) := by
    rw [recordsAt, notesAt?, entity?, beside.entities, recordsAt, notesAt?, entity?]
  refine aside.trans ?_
  cases alters with
  | nothing | withdraws | lists | makesModel => rfl
  | enters => exact recordsAt_bindSlots entity _ estate
  | makesEntity model kind id => exact recordsAt_addEntity entity model kind id estate
  | modifies modifies =>
      apply recordsAt_modifyEntity
      intro found
      cases modifies with
      | change _ wanted => cases wanted <;> rfl
      | pointById | pointAt => rfl
      | follow =>
          unfold Entity.learnTarget
          split <;> rfl
      | annotate | unannotate => cases silent

theorem Closes.annotations (closes : call.Closes estate after final) (entity : EntityRef) :
    final.recordsAt (.ofEntity entity) = after.recordsAt (.ofEntity entity) := by
  obtain ⟨middle, settles, beside⟩ := closes
  have aside : final.recordsAt (.ofEntity entity) = middle.recordsAt (.ofEntity entity) := by
    rw [recordsAt, notesAt?, entity?, beside.entities, recordsAt, notesAt?, entity?]
  refine aside.trans ?_
  cases settles with
  | nothing | restores => rfl
  | registers =>
      apply recordsAt_modifyEntity
      intro found
      rfl

end Call

end Landscape

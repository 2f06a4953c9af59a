import Landscape.Proofs.Opening
import Landscape.Proofs.Script

/-!
The surroundings play no part in what the library does: in estates that differ by them alone a call does the
same, if its sinks do. A run may therefore keep a log of itself in the surroundings, and seen without its log
it is the run that keeps none.
-/

namespace Landscape

variable {First Second Value Other : Type}

namespace Estate

/-- The same things in surroundings that are related. -/
def Twin (related : First → Second → Prop) (former : Estate First) (latter : Estate Second) : Prop :=
  ∃ outside, former = latter.amid outside ∧ related outside latter.outside

section Reads
variable (outside : First) (estate : Estate Second)

theorem entity_amid (entity : EntityRef) :
    (estate.amid outside).entity? entity = estate.entity? entity := rfl

theorem model_amid (model : ModelRef) : (estate.amid outside).model? model = estate.model? model := rfl

theorem registry_amid (model : ModelRef) (kind : Kind) :
    (estate.amid outside).registry model kind = estate.registry model kind := rfl

theorem stored_amid (model : ModelRef) (kind : Kind) (id : ResourceId) :
    (estate.amid outside).stored model kind id = estate.stored model kind id := rfl

theorem knownTarget_amid (link : Link) :
    (estate.amid outside).knownTarget link = estate.knownTarget link := rfl

theorem notesAt_amid (place : NotesPlace) :
    (estate.amid outside).notesAt? place = estate.notesAt? place := by
  cases place <;> rfl

end Reads

end Estate

variable {related : First → Second → Prop}

structure Matched (related : First → Second → Prop) (former : Value × Estate First)
    (latter : Value × Estate Second) : Prop where
  answer : former.1 = latter.1
  twins : former.2.Twin related latter.2

theorem Matched.ite {condition : Prop} [Decidable condition] {one ones : Value × Estate First}
    {other others : Value × Estate Second} (yes : Matched related one other)
    (no : Matched related ones others) :
    Matched related (if condition then one else ones) (if condition then other else others) := by
  by_cases holds : condition
  · simp only [if_pos holds]
    exact yes
  · simp only [if_neg holds]
    exact no

def Deliver.Twin (related : First → Second → Prop) (one : Deliver First) (other : Deliver Second) : Prop :=
  ∀ sink event (former : Estate First) (latter : Estate Second), former.Twin related latter →
    Matched related (one sink event former) (other sink event latter)

namespace Opening

/-- Openings that end in twin estates, or hand the same event over in such and close in such. -/
inductive Twin (related : First → Second → Prop) : Opening First Value → Opening Second Value → Prop where
  | ended {value : Value} {former : Estate First} {latter : Estate Second}
      (twins : former.Twin related latter) : Twin related (.ended value former) (.ended value latter)
  | handing {sink : SinkRef} {event : Event} {former : Estate First} {latter : Estate Second}
      {close : Except EventError Unit → Estate First → Value × Estate First}
      {closes : Except EventError Unit → Estate Second → Value × Estate Second}
      (twins : former.Twin related latter)
      (closing : ∀ verdict (after : Estate First) (later : Estate Second), after.Twin related later →
        Matched related (close verdict after) (closes verdict later)) :
      Twin related (.handing sink event former close) (.handing sink event latter closes)

variable {one : Opening First Value} {other : Opening Second Value}

theorem Twin.finish (twins : one.Twin related other) {deliver : Deliver First}
    {delivers : Deliver Second} (hears : deliver.Twin related delivers) :
    Matched related (one.finish deliver) (other.finish delivers) := by
  cases twins with
  | ended twins => exact ⟨rfl, twins⟩
  | handing twins closing =>
      obtain ⟨answer, later⟩ := hears _ _ _ _ twins
      simp only [Opening.finish]
      rw [answer]
      exact closing _ _ _ later

theorem Twin.andThen (twins : one.Twin related other)
    {more : Value → Estate First → Other × Estate First}
    {mores : Value → Estate Second → Other × Estate Second}
    (ends : ∀ value (former : Estate First) (latter : Estate Second), former.Twin related latter →
      Matched related (more value former) (mores value latter)) :
    (one.andThen more).Twin related (other.andThen mores) := by
  cases twins with
  | ended twins =>
      obtain ⟨answer, later⟩ := ends _ _ _ twins
      simp only [Opening.andThen]
      rw [answer]
      exact .ended later
  | handing twins closing =>
      apply Twin.handing twins
      intro verdict after later same
      obtain ⟨answer, closed⟩ := closing verdict after later same
      rw [answer]
      exact ends _ _ _ closed

theorem Twin.ite {condition : Prop} [Decidable condition] {ones : Opening First Value}
    {others : Opening Second Value} (yes : one.Twin related other) (no : ones.Twin related others) :
    (if condition then one else ones).Twin related (if condition then other else others) := by
  by_cases holds : condition
  · simp only [if_pos holds]
    exact yes
  · simp only [if_neg holds]
    exact no

end Opening

namespace Estate

theorem release_twin {former : Estate First} {latter : Estate Second} (twins : former.Twin related latter)
    (holdings : List Holding) : (former.release holdings).Twin related (latter.release holdings) := by
  obtain ⟨outside, rfl, holds⟩ := twins
  exact ⟨outside, rfl, holds⟩

theorem conclude_matched (view : Value → Other) (holdings : List Holding) (value : Value)
    (former : Estate First) (latter : Estate Second) (twins : former.Twin related latter) :
    Matched related (former.conclude view holdings value) (latter.conclude view holdings value) :=
  ⟨rfl, release_twin twins holdings⟩

variable {former : Estate First} {latter : Estate Second}

theorem announceOpening_twin (twins : former.Twin related latter) (entity : EntityRef) :
    (former.announceOpening entity).Twin related (latter.announceOpening entity) := by
  obtain ⟨outside, rfl, holds⟩ := twins
  simp only [announceOpening, entity_amid, model_amid]
  cases latter.entity? entity with
  | none => exact .ended ⟨outside, rfl, holds⟩
  | some found =>
      dsimp only
      cases latter.model? found.model with
      | none => exact .ended ⟨outside, rfl, holds⟩
      | some model =>
          exact .ite (.handing ⟨outside, rfl, holds⟩ (conclude_matched _ _)) (.ended ⟨outside, rfl, holds⟩)

theorem updateOpening_twin (twins : former.Twin related latter) (entity : EntityRef)
    (change : Entity → Entity) :
    (former.updateOpening entity change).Twin related (latter.updateOpening entity change) := by
  obtain ⟨outside, rfl, holds⟩ := twins
  have changed : ((latter.amid outside).modifyEntity entity change).Twin related
      (latter.modifyEntity entity change) := ⟨outside, rfl, holds⟩
  exact (announceOpening_twin changed entity).andThen (conclude_matched _ _)

theorem receivesOpening_twin (twins : former.Twin related latter) (entity : EntityRef) (event : Event) :
    (former.receivesOpening entity event).Twin related (latter.receivesOpening entity event) := by
  have announced := announceOpening_twin twins entity
  obtain ⟨outside, rfl, holds⟩ := twins
  exact .ite announced (.ended ⟨outside, rfl, holds⟩)

theorem handOverOpening_twin (twins : former.Twin related latter) (sink : SinkRef) (event : Event) :
    (former.handOverOpening sink event).Twin related (latter.handOverOpening sink event) := by
  cases sink with
  | entity entity => exact receivesOpening_twin twins entity event
  | made index => exact .handing twins (conclude_matched _ _)

theorem reportOpening_twin (twins : former.Twin related latter) (notes : Notes) (event : Event) :
    (former.reportOpening notes event).Twin related (latter.reportOpening notes event) := by
  obtain ⟨outside, rfl, holds⟩ := twins
  have held : ((latter.amid outside).hold (latter.notesHolds notes)).Twin related
      (latter.hold (latter.notesHolds notes)) := ⟨outside, rfl, holds⟩
  exact .ite ((handOverOpening_twin held notes.sink event).andThen (conclude_matched _ _))
    (.ended ⟨outside, rfl, holds⟩)

theorem settle_matched (twins : former.Twin related latter) (model : ModelRef) (kind : Kind)
    (id : ResourceId) (previous : Option EntityRef) {finish : Estate First → Estate First}
    {finishes : Estate Second → Estate Second} (finished : (finish former).Twin related (finishes latter))
    (verdict : Except EventError Unit) :
    Matched related (settle model kind id previous finish former verdict)
      (settle model kind id previous finishes latter verdict) := by
  cases verdict with
  | ok => exact ⟨rfl, finished⟩
  | error refusal =>
      obtain ⟨outside, rfl, holds⟩ := twins
      exact ⟨rfl, outside, rfl, holds⟩

theorem modifyEntity_twin (twins : former.Twin related latter) (entity : EntityRef)
    (change : Entity → Entity) :
    (former.modifyEntity entity change).Twin related (latter.modifyEntity entity change) := by
  obtain ⟨outside, rfl, holds⟩ := twins
  exact ⟨outside, rfl, holds⟩

theorem putRecords_twin (twins : former.Twin related latter) (place : NotesPlace) (records : Records) :
    (former.putRecords place records).Twin related (latter.putRecords place records) := by
  obtain ⟨outside, rfl, holds⟩ := twins
  cases place <;> exact ⟨outside, rfl, holds⟩

theorem addOpening_twin (twins : former.Twin related latter) (model : ModelRef) (entity : EntityRef) :
    (former.addOpening model entity).Twin related (latter.addOpening model entity) := by
  obtain ⟨outside, rfl, holds⟩ := twins
  have same : (latter.amid outside).Twin related latter := ⟨outside, rfl, holds⟩
  simp only [addOpening, entity_amid, model_amid, stored_amid, onAdd_amid]
  cases latter.entity? entity with
  | none => exact .ended same
  | some found =>
      cases latter.model? model with
      | none => exact .ended same
      | some owner =>
          refine .ite (.ended same) (.ite (.ended same) (.handing ⟨outside, rfl, ?_⟩ ?_))
          · rw [outside_onAdd]
            exact holds
          · intro verdict after later twins
            have released := release_twin twins (addHolds model entity (latter.stored model found.kind found.id))
            exact settle_matched released _ _ _ _ (modifyEntity_twin released entity Entity.register) verdict

theorem deleteOpening_twin (twins : former.Twin related latter) (model : ModelRef) (kind : Kind)
    (id : ResourceId) :
    (former.deleteOpening model kind id).Twin related (latter.deleteOpening model kind id) := by
  obtain ⟨outside, rfl, holds⟩ := twins
  have same : (latter.amid outside).Twin related latter := ⟨outside, rfl, holds⟩
  simp only [deleteOpening, model_amid, stored_amid]
  cases latter.model? model with
  | none => exact .ended same
  | some owner =>
      dsimp only
      cases latter.stored model kind id with
      | none => exact .ended same
      | some removed =>
          refine .handing ⟨outside, rfl, holds⟩ ?_
          intro verdict after later twins
          have released := release_twin twins (deleteHolds model removed)
          exact settle_matched released _ _ _ _ released verdict

theorem follow_matched (twins : former.Twin related latter) (entity : EntityRef) (slot : Slot) :
    Matched related (former.follow entity slot) (latter.follow entity slot) := by
  obtain ⟨outside, rfl, holds⟩ := twins
  have same : (latter.amid outside).Twin related latter := ⟨outside, rfl, holds⟩
  simp only [follow, entity_amid, knownTarget_amid, registry_amid]
  cases latter.entity? entity with
  | none => exact ⟨rfl, same⟩
  | some found =>
      dsimp only
      cases found.links slot with
      | none => exact ⟨rfl, same⟩
      | some link =>
          cases found.kind.target? slot with
          | none => exact ⟨rfl, same⟩
          | some kind =>
              dsimp only
              cases latter.knownTarget link with
              | some target => exact ⟨rfl, same⟩
              | none =>
                  refine .ite ?_ ⟨rfl, same⟩
                  cases (latter.registry found.model kind).get? link.id with
                  | none => exact ⟨rfl, same⟩
                  | some target => exact ⟨rfl, modifyEntity_twin same entity _⟩

end Estate

namespace Call

open Estate

variable {former : Estate First} {latter : Estate Second}

theorem opening_twin (twins : former.Twin related latter) (call : Call) :
    (call.opening former).Twin related (call.opening latter) := by
  cases call with
  | add model entity => exact (addOpening_twin twins model entity).andThen (conclude_matched _ _)
  | delete model kind id => exact (deleteOpening_twin twins model kind id).andThen (conclude_matched _ _)
  | receive entity event => exact (receivesOpening_twin twins entity event).andThen (conclude_matched _ _)
  | change entity wanted =>
      have updated := updateOpening_twin twins entity (Entity.change wanted)
      obtain ⟨outside, rfl, holds⟩ := twins
      simp only [opening, entity_amid]
      cases latter.entity? entity with
      | none => exact .ended ⟨outside, rfl, holds⟩
      | some found => exact .ite (.ended ⟨outside, rfl, holds⟩) (updated.andThen (conclude_matched _ _))
  | pointById entity slot id =>
      have updated := updateOpening_twin twins entity
        (Entity.setLink slot ⟨id, latter.namedTarget entity slot id⟩)
      obtain ⟨outside, rfl, holds⟩ := twins
      exact updated.andThen (conclude_matched _ _)
  | pointAt entity slot target =>
      have updated := fun found => updateOpening_twin twins entity (Entity.setLink slot ⟨found, some target⟩)
      obtain ⟨outside, rfl, holds⟩ := twins
      simp only [opening, entity_amid]
      cases latter.entity? target with
      | none => exact .ended ⟨outside, rfl, holds⟩
      | some found => exact (updated found.id).andThen (conclude_matched _ _)
  | annotate place key value =>
      have written := putRecords_twin twins place
      obtain ⟨outside, rfl, holds⟩ := twins
      simp only [opening, notesAt_amid]
      cases latter.notesAt? place with
      | none => exact .ended ⟨outside, rfl, holds⟩
      | some notes =>
          exact .ite (.ended ⟨outside, rfl, holds⟩)
            ((reportOpening_twin (written _) notes _).andThen (conclude_matched _ _))
  | unannotate place key =>
      have written := putRecords_twin twins place
      obtain ⟨outside, rfl, holds⟩ := twins
      simp only [opening, notesAt_amid]
      cases latter.notesAt? place with
      | none => exact .ended ⟨outside, rfl, holds⟩
      | some notes =>
          exact .ite ((reportOpening_twin (written _) notes _).andThen (conclude_matched _ _))
            (.ended ⟨outside, rfl, holds⟩)
  | follow entity slot =>
      obtain ⟨answer, after⟩ := follow_matched twins entity slot
      simp only [opening]
      rw [answer]
      exact .ended after
  | _ =>
      obtain ⟨outside, rfl, holds⟩ := twins
      exact .ended ⟨outside, rfl, holds⟩

/-- In twin estates a call answers the same and leaves twins, if its sinks do. -/
theorem perform_matched (twins : former.Twin related latter) {deliver : Deliver First}
    {delivers : Deliver Second} (hears : deliver.Twin related delivers) (call : Call) :
    Matched related (call.perform deliver former) (call.perform delivers latter) := by
  rw [perform_opening, perform_opening]
  exact (opening_twin twins call).finish hears

theorem noted_matched {Outside Note : Type} {deliver : Deliver Outside} {noting : Deliver (Outside × Note)}
    (keeps : ∀ sink event found, ∃ notes, noting sink event found =
      ((deliver sink event (found.amid found.outside.1)).1,
        (deliver sink event (found.amid found.outside.1)).2.amid
          ((deliver sink event (found.amid found.outside.1)).2.outside, notes)))
    (call : Call) (estate : Estate Outside) (notes : Note) :
    Matched (fun kept outside => kept.1 = outside)
      (call.perform noting (estate.amid (estate.outside, notes))) (call.perform deliver estate) := by
  have twins : (estate.amid (estate.outside, notes)).Twin (fun kept outside => kept.1 = outside) estate :=
    ⟨_, rfl, rfl⟩
  refine perform_matched twins ?_ call
  rintro sink event _ found ⟨kept, rfl, same⟩
  obtain ⟨outside, former⟩ := kept
  obtain rfl : outside = found.outside := same
  obtain ⟨more, reply⟩ := keeps sink event (found.amid (found.outside, former))
  rw [reply]
  exact ⟨rfl, _, rfl, rfl⟩

theorem noting_matched {Outside : Type} (deliver : Deliver Outside) (call : Call) (estate : Estate Outside)
    (noted : List Handed) :
    Matched (fun kept outside => kept.1 = outside)
      (call.perform deliver.noting (estate.amid (estate.outside, noted))) (call.perform deliver estate) :=
  noted_matched (fun _ _ _ => ⟨_, rfl⟩) call estate noted

end Call

def erase (outcome : Value × Estate First) : Value × Estate Unit :=
  (outcome.1, outcome.2.amid ())

def Deliver.Erases (logged : Deliver First) (plain : Deliver Unit) : Prop :=
  ∀ sink event (found : Estate First), erase (logged sink event found) = plain sink event (found.amid ())

theorem Matched.erased {plain : Value × Estate Unit} {logged : Value × Estate First}
    (matched : Matched (fun _ _ => True) logged plain) : erase logged = plain := by
  obtain ⟨answer, twins⟩ := matched
  obtain ⟨after, estate⟩ := plain
  obtain ⟨outside, same, _⟩ := twins
  rw [erase, answer, same]
  rfl

variable {logged : Deliver First} {plain : Deliver Unit}

theorem Deliver.Erases.twins (erases : logged.Erases plain) : logged.Twin (fun _ _ => True) plain := by
  rintro sink event _ found ⟨outside, rfl, _⟩
  have erased := erases sink event (found.amid outside)
  constructor
  · exact congrArg Prod.fst erased
  · refine ⟨(logged sink event (found.amid outside)).2.outside, ?_, trivial⟩
    exact congrArg (Estate.amid (logged sink event (found.amid outside)).2.outside)
      (congrArg Prod.snd erased)

theorem Estate.twin_erased (estate : Estate First) :
    estate.Twin (fun _ _ => True) (estate.amid ()) :=
  ⟨estate.outside, rfl, trivial⟩

theorem Call.perform_erased (erases : logged.Erases plain) (call : Call) (estate : Estate First) :
    erase (call.perform logged estate) = call.perform plain (estate.amid ()) :=
  (perform_matched estate.twin_erased erases.twins call).erased

namespace Script

def enact : Script → Estate Unit → Estate Unit
  | done, estate => estate
  | call wanted inner verdict rest, estate =>
      rest.enact (wanted.perform (fun _ _ found => (verdict, inner.enact found)) estate).2

/-- A run without its trace is the run that leaves none. -/
theorem run_erased (script : Script) (estate : Estate Trace) :
    (script.run estate).amid () = script.enact (estate.amid ()) := by
  -- along the tree of calls: what the sink calls in turn is erased first, and makes its sink one that erases
  induction script generalizing estate with
  | done => rfl
  | call wanted inner verdict rest hears goes =>
      have erases : (hearing wanted (wanted.sender estate) verdict inner.run).Erases
          fun _ _ found => (verdict, inner.enact found) := by
        intro sink event found
        exact congrArg (Prod.mk verdict) (hears (found.amid .still))
      rw [run, enact, goes, ← Call.perform_erased erases wanted estate]
      rfl

end Script

end Landscape

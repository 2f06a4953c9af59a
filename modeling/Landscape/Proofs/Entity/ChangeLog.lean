import Landscape.Proofs.Entity.Notes
import Mathlib.Data.Set.Card

/-!
The events of annotations as a log of their changes. A write changes the annotations and hands the change over
in one go, so whatever sinks call in turn and refuse, the events so far always replay to the records as they
are. A run is jotted down where the sink of the annotations itself begins to hear, be it an entity, which may
or may not pass the event on, or a sink that stands on its own.
-/

namespace Landscape

/-- Jots down that a sink begins to hear of a change of annotations, and lets it hear. -/
def overhearing (call : Call) (before : Estate Unit) (deliver : Deliver (List Juncture)) :
    Deliver (List Juncture) :=
  fun sink event found => (found.jot call before (.hears sink event)).handOver deliver sink event

section Erasing
variable {First Second : Type} {related : First → Second → Prop}

theorem Estate.tellOpening_twin {former : Estate First} {latter : Estate Second}
    (twins : former.Twin related latter) (notes : Notes) (event : Event) :
    (former.tellOpening notes event).Twin related (latter.tellOpening notes event) := by
  obtain ⟨outside, rfl, holds⟩ := twins
  exact .ite (.handing ⟨outside, rfl, holds⟩ (conclude_matched _ _)) (.ended ⟨outside, rfl, holds⟩)

theorem Estate.writeOpening_twin {former : Estate First} {latter : Estate Second}
    (twins : former.Twin related latter) (place : NotesPlace)
    (write : Records → Option (Records × Event)) :
    (former.writeOpening place write).Twin related (latter.writeOpening place write) := by
  have written := putRecords_twin twins place
  obtain ⟨outside, rfl, holds⟩ := twins
  simp only [writeOpening, notesAt_amid]
  cases latter.notesAt? place with
  | none => exact .ended ⟨outside, rfl, holds⟩
  | some notes =>
      dsimp only
      cases write notes.records with
      | none => exact .ended ⟨outside, rfl, holds⟩
      | some wrote => exact tellOpening_twin (written wrote.1) notes wrote.2

theorem Call.through_matched {former : Estate First} {latter : Estate Second}
    (twins : former.Twin related latter) {hands deliver : Deliver First} {takes delivers : Deliver Second}
    (hears : hands.Twin related takes) (heeds : deliver.Twin related delivers) (call : Call) :
    Matched related (call.through hands deliver former) (call.through takes delivers latter) := by
  unfold through
  split
  · obtain ⟨answer, after⟩ := (Estate.writeOpening_twin twins _ _).finish hears
    exact ⟨congrArg Answer.ofChange answer, after⟩
  · exact perform_matched twins heeds call

theorem Estate.handOver_twin {deliver : Deliver First} {delivers : Deliver Second}
    (hears : deliver.Twin related delivers) :
    Deliver.Twin related (Estate.handOver deliver) (Estate.handOver delivers) := by
  intro sink event former latter twins
  rw [handOver_opening, handOver_opening]
  exact (handOverOpening_twin twins sink event).finish hears

end Erasing

theorem Call.overheard_erased {logged : Deliver (List Juncture)} {plain : Deliver Unit}
    (erases : logged.Erases plain) (call : Call) (before : Estate Unit) (estate : Estate (List Juncture)) :
    erase (call.through (overhearing call before logged) logged estate) =
      call.perform plain (estate.amid ()) := by
  have hears : (overhearing call before logged).Twin (fun _ _ => True) (Estate.handOver plain) := by
    rintro sink event _ found ⟨outside, rfl, _⟩
    exact Estate.handOver_twin erases.twins sink event _ found ⟨_, rfl, trivial⟩
  rw [← Call.through_handOver]
  exact (Call.through_matched estate.twin_erased hears erases.twins call).erased

namespace Script

def annals : Script → Estate (List Juncture) → Estate (List Juncture)
  | done, estate => estate
  | call wanted inner verdict rest, estate =>
      let reacts : Deliver (List Juncture) := fun _ _ found => (verdict, inner.annals found)
      let outcome := wanted.through (overhearing wanted (estate.amid ()) reacts) reacts
        (estate.jot wanted (estate.amid ()) .begins)
      rest.annals (outcome.2.jot wanted (estate.amid ()) (.answers outcome.1))

/-- A run without its annals is the run that keeps none: the log tells of the calls themselves. -/
theorem annals_erased (script : Script) (estate : Estate (List Juncture)) :
    (script.annals estate).amid () = script.enact (estate.amid ()) := by
  -- along the tree of calls, the sink's own calls first
  induction script generalizing estate with
  | done => rfl
  | call wanted inner verdict rest hears goes =>
      have erases : Deliver.Erases (fun _ _ found => (verdict, inner.annals found))
          fun _ _ found => (verdict, inner.enact found) := by
        intro sink event found
        exact congrArg (Prod.mk verdict) (hears found)
      have performed := Call.overheard_erased erases wanted (estate.amid ())
        (estate.jot wanted (estate.amid ()) .begins)
      rw [annals, enact, goes]
      exact congrArg (fun outcome => rest.enact outcome.2) performed

end Script

/-- What an event of annotations does to a map: creations and updates insert their pair, deletions remove
their key. -/
def replayNote (map : String → Option String) (event : Event) : String → Option String :=
  match event.operation, event.payload with
  | .create, [.entry key value] | .update, [.entry key value] => Function.update map key (some value)
  | .delete, [.entryKey key] => Function.update map key none
  | _, _ => map

def replayNotes (events : List Event) : String → Option String :=
  events.foldl replayNote fun _ => none

def Juncture.noted (place : NotesPlace) (juncture : Juncture) : List Event :=
  if juncture.call.place? = some place then
    match juncture.stage with
    | .hears _ event => [event]
    | _ => []
  else []

/-- The events of which the sink of these annotations has begun to hear, in that order. -/
def notesTold (place : NotesPlace) (log : List Juncture) : List Event :=
  log.flatMap (Juncture.noted place)

theorem notesTold_append (place : NotesPlace) (log : List Juncture) (juncture : Juncture) :
    notesTold place (log ++ [juncture]) = notesTold place log ++ juncture.noted place := by
  simp [notesTold]

namespace Call

def Idle (map : String → Option String) : Call → Prop
  | .annotate _ key value => map key = some value
  | .unannotate _ key => map key = none
  | _ => False

/-- What a call has to tell, given the map that it changes. -/
inductive Tells (map : String → Option String) : Call → Event → Prop where
  | created {place : NotesPlace} {key value : String} (absent : map key = none) :
      Tells map (.annotate place key value) (Estate.noteEvent .create (.entry key value))
  | updated {place : NotesPlace} {key value former : String} (present : map key = some former)
      (other : former ≠ value) :
      Tells map (.annotate place key value) (Estate.noteEvent .update (.entry key value))
  | deleted {place : NotesPlace} {key former : String} (present : map key = some former) :
      Tells map (.unannotate place key) (Estate.noteEvent .delete (.entryKey key))

variable {call : Call} {place : NotesPlace} {write : Records → Option (Records × Event)}
  {records after : Records} {event : Event}

end Call

namespace Juncture

/-- What is so of a juncture when events were told of the annotations before. -/
structure Exact (place : NotesPlace) (told : List Event) (juncture : Juncture) : Prop where
  replayed : replayNotes (told ++ juncture.noted place) =
    fun key => (juncture.now.recordsAt place).get? key
  tells : juncture.call.place? = some place → ∀ sink event, juncture.stage = .hears sink event →
    juncture.call.Tells (replayNotes told) event
  silent : juncture.call.place? = some place →
    juncture.call.Idle (fun key => (juncture.before.recordsAt place).get? key) →
    juncture.stage = .begins ∨ juncture.stage = .answers .done

def heeded (place : NotesPlace) (juncture : Juncture) : Bool :=
  match juncture.stage with
  | .begins => juncture.call.place? ≠ some place ||
      (juncture.now.notesAt? place).all fun notes => juncture.now.sinkLives notes.sink
  | _ => true

end Juncture

def ExactLog (place : NotesPlace) (log : List Juncture) : Prop :=
  ∀ (index : Nat) (juncture : Juncture), log[index]? = some juncture →
    juncture.Exact place (notesTold place (log.take index))

theorem ExactLog.replayed {place : NotesPlace} {log : List Juncture} (exact : ExactLog place log)
    {index : Nat} {juncture : Juncture} (here : log[index]? = some juncture) :
    replayNotes (notesTold place (log.take (index + 1))) =
      fun key => (juncture.now.recordsAt place).get? key := by
  have next : log.take (index + 1) = log.take index ++ [juncture] := by
    rw [List.take_add_one, here]
    rfl
  rw [next, notesTold_append, (exact index juncture here).replayed]

namespace Estate

variable {place : NotesPlace} {estate before after : Estate (List Juncture)}

/-- The log is exact, and replays to the records as they are. -/
structure Exact (place : NotesPlace) (estate : Estate (List Juncture)) : Prop where
  log : ExactLog place estate.outside
  now : replayNotes (notesTold place estate.outside) = fun key => (estate.recordsAt place).get? key

/-- The log goes on, and stays exact if the sink was alive all along. -/
structure Proceeds (place : NotesPlace) (before after : Estate (List Juncture)) : Prop where
  goesOn : before.outside <+: after.outside
  keeps : (∀ juncture ∈ after.outside, juncture.heeded place = true) → before.Exact place → after.Exact place

theorem Proceeds.trans {first second third : Estate (List Juncture)}
    (former : first.Proceeds place second) (latter : second.Proceeds place third) :
    first.Proceeds place third where
  goesOn := former.goesOn.trans latter.goesOn
  keeps heeded exact :=
    latter.keeps heeded
      (former.keeps (fun juncture member => heeded juncture (latter.goesOn.subset member)) exact)

theorem SameNotes.proceeds (same : before.SameNotes place after) : before.Proceeds place after where
  goesOn := by rw [same.outside]
  keeps _ exact := by
    constructor
    · rw [same.outside]
      exact exact.log
    · rw [same.outside, same.records]
      exact exact.now

end Estate

namespace Script

open Estate

end Script

namespace Records

/-- Every way of reading the records answers as the map does. -/
structure ReadsAs (map : String → Option String) (records : Records) : Prop where
  entries : ∀ key, records.get? key = map key
  value : ∀ key, records.value key = (map key).getD ""
  contains : ∀ key, records.contains key = (map key).isSome
  distinct : records.keys.Nodup
  keys : ∀ key, key ∈ records.keys ↔ (map key).isSome
  size : records.size = {key | (map key).isSome}.ncard

end Records

namespace Script

end Script

end Landscape

import Landscape.Proofs.Script
import Mathlib.Data.Set.Basic

/-!
The accepted events of a model replay to what its store holds, also when sinks call back while they hear
of a write. One identity is followed at a time: the accepted events about it tell how its presence goes
from one value to another. A refused write leaves no trace of its own, so the events that were accepted
while it was heard of tell the same whether the write is counted or not, as long as none of them is an
accepted write of the same identity.
-/

namespace Landscape

namespace Heard

def isAccepted (entry : Heard) : Bool := entry.verdict.isOk

def Counts (model : ModelRef) (entry : Heard) : Prop :=
  entry.isAccepted = true ∧ entry.sender = some model

def Writes (model : ModelRef) (entry : Heard) : Prop :=
  entry.call.isWrite = true ∧ entry.sender = some model

def About (kind : Kind) (id : ResourceId) (entry : Heard) : Prop :=
  entry.event.resourceType = .entity kind ∧ entry.event.resourceId = id

def Settles (kind : Kind) (id : ResourceId) (entry : Heard) : Prop :=
  entry.About kind id ∧ (entry.event.operation = .create ∨ entry.event.operation = .delete)

instance (model : ModelRef) : DecidablePred (Counts model) := fun entry =>
  inferInstanceAs (Decidable (entry.isAccepted = true ∧ entry.sender = some model))

instance (model : ModelRef) : DecidablePred (Writes model) := fun entry =>
  inferInstanceAs (Decidable (entry.call.isWrite = true ∧ entry.sender = some model))

instance (kind : Kind) (id : ResourceId) : DecidablePred (About kind id) := fun entry =>
  inferInstanceAs (Decidable (entry.event.resourceType = .entity kind ∧ entry.event.resourceId = id))

instance (kind : Kind) (id : ResourceId) : DecidablePred (Settles kind id) := fun entry =>
  inferInstanceAs (Decidable (entry.About kind id ∧ (_ ∨ _)))

end Heard

namespace Trace

def accepted (model : ModelRef) (trace : Trace) : List Heard :=
  trace.flat.filter fun entry => entry.Counts model

/-- While a write of the model is heard of and then refused, no other write of the same kind and identity
is accepted. -/
def Settled (model : ModelRef) : Trace → Prop
  | still => True
  | heard entry inner rest =>
      (entry.Writes model → entry.isAccepted = false → ∀ other ∈ inner.flat,
        other.Writes model → other.isAccepted = true →
          ¬(other.event.resourceType = entry.event.resourceType ∧
            other.event.resourceId = entry.event.resourceId)) ∧
        inner.Settled model ∧ rest.Settled model

instance decidableSettled (model : ModelRef) : DecidablePred (Settled model)
  | still => .isTrue trivial
  | heard _ inner rest =>
      have : Decidable (inner.Settled model) := decidableSettled model inner
      have : Decidable (rest.Settled model) := decidableSettled model rest
      inferInstanceAs (Decidable (_ ∧ _ ∧ _))

theorem settled_append (model : ModelRef) (first second : Trace) :
    (first.append second).Settled model ↔ first.Settled model ∧ second.Settled model := by
  induction first with
  | still => simp [append, Settled]
  | heard entry inner rest _ ih => simp [append, Settled, ih, and_assoc]

def about (model : ModelRef) (kind : Kind) (id : ResourceId) (trace : Trace) : List Heard :=
  (trace.accepted model).filter fun entry => entry.About kind id

theorem about_append (model : ModelRef) (kind : Kind) (id : ResourceId) (first second : Trace) :
    (first.append second).about model kind id =
      first.about model kind id ++ second.about model kind id := by
  simp only [about, accepted, flat_append, List.filter_append]

theorem about_heard (model : ModelRef) (kind : Kind) (id : ResourceId) (entry : Heard)
    (inner : Trace) :
    (heard entry inner still).about model kind id =
      if entry.Counts model ∧ entry.About kind id
      then entry :: inner.about model kind id else inner.about model kind id := by
  simp only [about, accepted, flat, List.append_nil]
  by_cases counted : entry.Counts model
  · by_cases here : entry.About kind id
    · simp [counted, here]
    · simp [counted, here]
  · simp [counted]

end Trace

/-- The entries take the presence of an identity from one value to another. -/
inductive Tells : Bool → List Heard → Bool → Prop where
  | nothing {present} : Tells present [] present
  | created {entry rest after} (create : entry.event.operation = .create)
      (writes : entry.call.isWrite = true) (later : Tells true rest after) :
      Tells false (entry :: rest) after
  | deleted {entry rest after} (delete : entry.event.operation = .delete)
      (writes : entry.call.isWrite = true) (later : Tells false rest after) :
      Tells true (entry :: rest) after
  | updated {entry present rest after} (update : entry.event.operation = .update)
      (known : entry.call.isWrite = true → present = true) (later : Tells present rest after) :
      Tells present (entry :: rest) after

namespace Tells

theorem append {first second : List Heard} {before middle after : Bool}
    (former : Tells before first middle) (latter : Tells middle second after) :
    Tells before (first ++ second) after := by
  induction former with
  | nothing => exact latter
  | created create writes _ ih => exact .created create writes (ih latter)
  | deleted delete writes _ ih => exact .deleted delete writes (ih latter)
  | updated update known _ ih => exact .updated update known (ih latter)

theorem split {first second : List Heard} {before after : Bool}
    (tells : Tells before (first ++ second) after) :
    ∃ middle, Tells before first middle ∧ Tells middle second after := by
  induction first generalizing before with
  | nil => exact ⟨before, .nothing, tells⟩
  | cons entry rest ih =>
      cases tells with
      | created create writes later =>
          obtain ⟨middle, former, latter⟩ := ih later
          exact ⟨middle, .created create writes former, latter⟩
      | deleted delete writes later =>
          obtain ⟨middle, former, latter⟩ := ih later
          exact ⟨middle, .deleted delete writes former, latter⟩
      | updated update known later =>
          obtain ⟨middle, former, latter⟩ := ih later
          exact ⟨middle, .updated update known former, latter⟩

theorem unwritten {entries : List Heard} {before after : Bool} (tells : Tells before entries after)
    (reads : ∀ entry ∈ entries, entry.call.isWrite = false) (present : Bool) :
    Tells present entries present := by
  induction tells with
  | nothing => exact .nothing
  | @created entry _ _ _ writes | @deleted entry _ _ _ writes =>
      rw [reads entry List.mem_cons_self] at writes
      cases writes
  | @updated entry _ _ _ update _ _ ih =>
      refine .updated update (fun writes => ?_)
        (ih fun other member => reads other (List.mem_cons_of_mem entry member))
      rw [reads entry List.mem_cons_self] at writes
      cases writes

theorem of_turns {entry : Heard} {old new : Option EntityRef} {rest : List Heard} {after : Bool}
    (turns : Estate.Turns entry.event.operation old new) (writes : entry.call.isWrite = true)
    (later : Tells new.isSome rest after) : Tells old.isSome (entry :: rest) after := by
  generalize wrote : entry.event.operation = operation at turns
  cases turns with
  | create => exact .created wrote writes later
  | update => exact .updated wrote (fun _ => rfl) later
  | delete => exact .deleted wrote writes later

/-- The last creation or deletion decides. -/
theorem last_decides {kind : Kind} {id : ResourceId} {entries : List Heard} {before after : Bool}
    (tells : Tells before entries after) (about : ∀ entry ∈ entries, entry.About kind id) :
    after = ((entries.filter fun entry => entry.Settles kind id).getLast?.elim before
      fun entry => entry.event.operation = .create) := by
  induction tells with
  | nothing => rfl
  | @created entry rest after create writes later ih =>
      have here : entry.Settles kind id := ⟨about entry List.mem_cons_self, .inl create⟩
      rw [ih fun other member => about other (List.mem_cons_of_mem entry member)]
      simp only [List.filter_cons, here, decide_true, if_true, List.getLast?_cons]
      cases (rest.filter fun entry => entry.Settles kind id).getLast? with
      | none => simp [create]
      | some last => rfl
  | @deleted entry rest after delete writes later ih =>
      have here : entry.Settles kind id := ⟨about entry List.mem_cons_self, .inr delete⟩
      rw [ih fun other member => about other (List.mem_cons_of_mem entry member)]
      simp only [List.filter_cons, here, decide_true, if_true, List.getLast?_cons]
      cases (rest.filter fun entry => entry.Settles kind id).getLast? with
      | none => simp [delete]
      | some last => rfl
  | @updated entry present rest after update known later ih =>
      have away : ¬entry.Settles kind id := by simp [Heard.Settles, update]
      rw [ih fun other member => about other (List.mem_cons_of_mem entry member)]
      simp only [List.filter_cons, away, decide_false, Bool.false_eq_true, if_false]

end Tells

section Tracking
variable {model : ModelRef} {kind : Kind} {id : ResourceId}

/-- Models stay, and what was accepted meanwhile tells how the presence of the identity went. -/
structure Tracked (model : ModelRef) (kind : Kind) (id : ResourceId) (before after : Estate Trace)
    (trace : Trace) : Prop where
  made : ∀ other, (before.model? other).isSome → (after.model? other).isSome
  told : trace.Settled model → Tells (before.stored model kind id).isSome
    (trace.about model kind id) (after.stored model kind id).isSome

theorem Tracked.trans {first second third : Estate Trace} {former latter : Trace}
    (begins : Tracked model kind id first second former)
    (continues : Tracked model kind id second third latter) :
    Tracked model kind id first third (former.append latter) where
  made other isMade := continues.made other (begins.made other isMade)
  told settled := by
    obtain ⟨settledFirst, settledSecond⟩ := (Trace.settled_append model former latter).mp settled
    rw [Trace.about_append]
    exact (begins.told settledFirst).append (continues.told settledSecond)

theorem tracked_undisturbed {before after : Estate Trace} (undisturbed : before.Undisturbed after) :
    Tracked model kind id before after .still where
  made other isMade := by
    obtain ⟨owner, made⟩ := Option.isSome_iff_exists.mp isMade
    obtain ⟨now, madeNow, _⟩ := (undisturbed.1 other).made owner made
    exact Option.isSome_iff_exists.mpr ⟨now, madeNow⟩
  told _ := by
    rw [(undisturbed.1 model).stored]
    exact .nothing

def Follows (model : ModelRef) (kind : Kind) (id : ResourceId)
    (inner : Estate Trace → Estate Trace) : Prop :=
  ∀ found : Estate Trace, found.outside = .still →
    Tracked model kind id found (inner found) (inner found).outside

variable {inner : Estate Trace → Estate Trace} {call : Call} {sender : Option ModelRef}
  {verdict : Except EventError Unit}

theorem report_tracked (follows : Follows model kind id inner) (reads : call.isWrite = false)
    {event : Event} (reporting : Estate.Reporting event) (found : Estate Trace) :
    Tracked model kind id found (hearing call sender verdict inner (.made 0) event found).2
      (.heard ⟨call, sender, event, verdict⟩ (inner (found.amid .still)).outside .still) where
  made := (follows (found.amid .still) rfl).made
  told settled := by
    have told := (follows (found.amid .still) rfl).told settled.2.1
    rw [Trace.about_heard]
    split
    · next counted =>
        have update : event.operation = .update := by
          rcases reporting with update | annotations
          · exact update
          · cases annotations.symm.trans counted.2.1
        exact .updated update (fun writes => by rw [reads] at writes; cases writes) told
    · exact told

theorem read_tracked (follows : Follows model kind id inner) (reads : call.isWrite = false)
    (estate : Estate Trace) :
    ∃ trace, (call.perform (hearing call sender verdict inner) estate).2.outside =
        estate.outside.append trace ∧
      Tracked model kind id estate (call.perform (hearing call sender verdict inner) estate).2
        trace := by
  rcases call.perform_reports reads estate with
    ⟨after, same, undisturbed⟩ | ⟨sink, event, found, reporting, before, later⟩
  · have quiet : (call.perform (hearing call sender verdict inner) estate).2 = after := same _
    rw [quiet]
    exact ⟨.still, undisturbed.2.trans (Trace.append_still _).symm, tracked_undisturbed undisturbed⟩
  · have heard := later (hearing call sender verdict inner)
    refine ⟨_, ?_, ((tracked_undisturbed before).trans
      (report_tracked follows reads reporting found)).trans (tracked_undisturbed heard)⟩
    rw [Trace.append_still, ← before.2]
    exact heard.2

theorem settled_reads {entry : Heard} {nested rest : Trace}
    (settled : (Trace.heard entry nested rest).Settled model) (writes : entry.Writes model)
    (refused : entry.isAccepted = false) (here : entry.About kind id) :
    ∀ other ∈ nested.about model kind id, other.call.isWrite = false := by
  intro other member
  obtain ⟨counted, about⟩ := List.mem_filter.mp member
  obtain ⟨heard, counts⟩ := List.mem_filter.mp counted
  obtain ⟨accepted, sent⟩ := of_decide_eq_true counts
  obtain ⟨sameKind, sameId⟩ := of_decide_eq_true about
  by_contra wrote
  exact settled.1 writes refused other heard ⟨by simpa using wrote, sent⟩ accepted
    ⟨sameKind.trans here.1.symm, sameId.trans here.2.symm⟩

theorem own_tells {entry : Heard} {nested : Trace} {old new : Option EntityRef} {after : Bool}
    (settled : (Trace.heard entry nested .still).Settled model) (writes : entry.Writes model)
    (here : entry.About kind id) (turns : Estate.Turns entry.event.operation old new)
    (told : Tells new.isSome (nested.about model kind id) after) :
    Tells old.isSome ((Trace.heard entry nested .still).about model kind id)
      (if entry.isAccepted then after else old.isSome) := by
  rw [Trace.about_heard]
  cases accepted : entry.isAccepted with
  | true =>
      rw [if_pos ⟨⟨accepted, writes.2⟩, here⟩]
      exact .of_turns turns writes.1 told
  | false =>
      have uncounted : ¬(entry.Counts model ∧ entry.About kind id) := by
        rintro ⟨⟨counted, _⟩, _⟩
        rw [accepted] at counted
        cases counted
      rw [if_neg uncounted]
      exact told.unwritten (settled_reads settled writes accepted here) old.isSome

/-- A write that is heard of tells of its own identity what was accepted, and of others nothing. -/
theorem write_tracked (follows : Follows model kind id inner) (writes : call.isWrite = true)
    (estate : Estate Trace) :
    ∃ trace, (call.perform (hearing call (call.sender estate) verdict inner) estate).2.outside =
        estate.outside.append trace ∧
      Tracked model kind id estate
        (call.perform (hearing call (call.sender estate) verdict inner) estate).2 trace := by
  obtain ⟨owner, sent, same | ⟨isMade, sink, event, found, ownKind, ownId, value, typed, named,
    turns, entered, later⟩⟩ := call.perform_writes writes estate
  · have quiet : (call.perform (hearing call (call.sender estate) verdict inner) estate).2 =
        estate := same _
    rw [quiet]
    exact ⟨.still, (Trace.append_still _).symm,
      tracked_undisturbed (Estate.undisturbed_refl estate)⟩
  have nested := follows (found.amid .still) rfl
  have ends := later (hearing call (call.sender estate) verdict inner)
    (nested.made owner (entered.made owner isMade))
  refine ⟨.heard ⟨call, call.sender estate, event, verdict⟩ (inner (found.amid .still)).outside
    .still, ?_, fun other was => ends.made other (nested.made other (entered.made other was)), ?_⟩
  · rw [← entered.outside]
    exact ends.outside
  intro settled
  have told : Tells (found.stored model kind id).isSome _
    ((inner (found.amid .still)).stored model kind id).isSome := nested.told settled.2.1
  rw [entered.stored model kind id, Estate.contentsWith] at told
  by_cases same : model = owner ∧ kind = ownKind ∧ id = ownId
  · obtain ⟨rfl, rfl, rfl⟩ := same
    rw [if_pos ⟨rfl, rfl, rfl⟩] at told
    have tells := own_tells settled ⟨writes, sent⟩ ⟨typed, named⟩ turns told
    rw [ends.stored model kind id]
    cases verdict with
    | ok _ => exact tells
    | error refusal =>
        -- the identity gets back what it had
        have back : (inner (found.amid .still)).contentsWith model kind id
            (estate.stored model kind id) model kind id = estate.stored model kind id :=
          if_pos ⟨rfl, rfl, rfl⟩
        show Tells _ _ ((inner (found.amid .still)).contentsWith model kind id
          (estate.stored model kind id) model kind id).isSome
        rw [back]
        exact tells
  · -- another identity keeps what it has before the sink hears, and again after
    rw [if_neg same] at told
    rw [Trace.about_heard, if_neg fun counted => same ⟨Option.some.inj (counted.1.2.symm.trans sent),
      ResourceType.entity.inj (counted.2.1.symm.trans typed), counted.2.2.symm.trans named⟩]
    have apart : (if verdict.isOk then (inner (found.amid .still)).contents
        else (inner (found.amid .still)).contentsWith owner ownKind ownId
          (estate.stored owner ownKind ownId)) model kind id =
        (inner (found.amid .still)).stored model kind id := by
      split
      · rfl
      · exact if_neg same
    rw [ends.stored model kind id]
    exact apart ▸ told

theorem run_tracked (model : ModelRef) (kind : Kind) (id : ResourceId) (script : Script)
    (estate : Estate Trace) :
    ∃ trace, (script.run estate).outside = estate.outside.append trace ∧
      Tracked model kind id estate (script.run estate) trace := by
  -- along the tree of calls: what is called in turn while a call is heard of follows, by induction
  induction script generalizing estate with
  | done =>
      exact ⟨.still, (Trace.append_still _).symm,
        tracked_undisturbed (Estate.undisturbed_refl estate)⟩
  | call wanted inner verdict rest ihInner ihRest =>
      have follows : Follows model kind id inner.run := by
        intro found unheard
        obtain ⟨trace, heard, tracked⟩ := ihInner found
        rw [unheard] at heard
        exact heard ▸ tracked
      obtain ⟨first, heardFirst, begins⟩ : ∃ trace,
          (wanted.perform (hearing wanted (wanted.sender estate) verdict inner.run) estate).2.outside =
            estate.outside.append trace ∧
          Tracked model kind id estate
            (wanted.perform (hearing wanted (wanted.sender estate) verdict inner.run) estate).2
            trace := by
        cases wrote : wanted.isWrite with
        | true => exact write_tracked follows wrote estate
        | false => exact read_tracked follows wrote estate
      obtain ⟨later, heardLater, continues⟩ := ihRest
        (wanted.perform (hearing wanted (wanted.sender estate) verdict inner.run) estate).2
      refine ⟨first.append later, ?_, begins.trans continues⟩
      rw [Script.run, heardLater, heardFirst, Trace.append_assoc]

end Tracking

def replayed (entries : List Heard) (kind : Kind) : Set ResourceId :=
  {id | ∃ last, (entries.filter fun entry => entry.Settles kind id).getLast? = some last ∧
    last.event.operation = .create}

/-- The entry fits what was accepted before: only what is away is created, only what is there is deleted
or replaced, and an update of any kind leaves the identities as they are. -/
structure Heard.Fits (before : List Heard) (entry : Heard) : Prop where
  create : ∀ kind, entry.event.resourceType = .entity kind → entry.event.operation = .create →
    entry.event.resourceId ∉ replayed before kind
  delete : ∀ kind, entry.event.resourceType = .entity kind → entry.event.operation = .delete →
    entry.event.resourceId ∈ replayed before kind
  replace : ∀ kind, entry.event.resourceType = .entity kind → entry.event.operation = .update →
    entry.call.isWrite = true → entry.event.resourceId ∈ replayed before kind
  update : entry.event.operation = .update → replayed (before ++ [entry]) = replayed before

section Replaying
variable {kind : Kind} {id : ResourceId}

theorem settles_about (entries : List Heard) :
    (entries.filter fun entry => entry.Settles kind id) =
      (entries.filter fun entry => entry.About kind id).filter fun entry => entry.Settles kind id := by
  rw [List.filter_filter]
  congr 1
  funext entry
  by_cases settles : entry.Settles kind id
  · simp [settles, settles.1]
  · simp [settles]

theorem mem_replayed_iff {entries : List Heard} {after : Bool}
    (tells : Tells false (entries.filter fun entry => entry.About kind id) after) :
    id ∈ replayed entries kind ↔ after = true := by
  have decided := tells.last_decides fun entry member => of_decide_eq_true (List.mem_filter.mp member).2
  rw [← settles_about] at decided
  rw [decided, replayed, Set.mem_ofPred_eq]
  cases (entries.filter fun entry => entry.Settles kind id).getLast? with
  | none => simp
  | some last => simp

theorem replayed_update {before : List Heard} {entry : Heard}
    (update : entry.event.operation = .update) : replayed (before ++ [entry]) = replayed before := by
  funext kind
  ext id
  have away : ¬entry.Settles kind id := by simp [Heard.Settles, update]
  simp [replayed, List.filter_append, away]

theorem fits_of_tells {before later : List Heard} {entry : Heard}
    (told : ∀ kind id, ∃ after,
      Tells false ((before ++ entry :: later).filter fun entry => entry.About kind id) after) :
    entry.Fits before := by
  -- the entries about the identity, up to this one and from this one on
  have here : ∀ kind, entry.event.resourceType = .entity kind → ∃ middle rest after,
      (entry.event.resourceId ∈ replayed before kind ↔ middle = true) ∧
        Tells middle (entry :: rest) after := by
    intro kind typed
    obtain ⟨after, tells⟩ := told kind entry.event.resourceId
    have about : entry.About kind entry.event.resourceId := ⟨typed, rfl⟩
    rw [List.filter_append, List.filter_cons, if_pos (decide_eq_true about)] at tells
    obtain ⟨middle, former, latter⟩ := tells.split
    exact ⟨middle, _, after, mem_replayed_iff former, latter⟩
  constructor
  · intro kind typed create
    obtain ⟨middle, rest, after, present, tells⟩ := here kind typed
    rw [present]
    cases tells with
    | created => exact Bool.false_ne_true
    | deleted wrote => cases wrote.symm.trans create
    | updated wrote => cases wrote.symm.trans create
  · intro kind typed delete
    obtain ⟨middle, rest, after, present, tells⟩ := here kind typed
    rw [present]
    cases tells with
    | created wrote => cases wrote.symm.trans delete
    | deleted => rfl
    | updated wrote => cases wrote.symm.trans delete
  · intro kind typed update writes
    obtain ⟨middle, rest, after, present, tells⟩ := here kind typed
    rw [present]
    cases tells with
    | created wrote => cases wrote.symm.trans update
    | deleted wrote => cases wrote.symm.trans update
    | updated _ known => exact known writes
  · exact replayed_update

end Replaying

/-- After any run from when the model held nothing, whatever sinks call and refuse, the store holds exactly
the identities that its accepted events replay to, and each of them fits those before it. -/
theorem accepted_replay_store (model : ModelRef) (script : Script) (estate : Estate Trace)
    (unheard : estate.outside = .still) (bare : ∀ kind id, estate.stored model kind id = none)
    (settled : (script.run estate).outside.Settled model) :
    (∀ kind, {id | ((script.run estate).stored model kind id).isSome} =
        replayed ((script.run estate).outside.accepted model) kind) ∧
      ∀ before entry later,
        (script.run estate).outside.accepted model = before ++ entry :: later →
          entry.Fits before := by
  have told : ∀ kind id, Tells false ((script.run estate).outside.about model kind id)
      ((script.run estate).stored model kind id).isSome := by
    intro kind id
    obtain ⟨trace, heard, tracked⟩ := run_tracked model kind id script estate
    obtain rfl : (script.run estate).outside = trace := by rw [heard, unheard, Trace.append]
    have tells := tracked.told settled
    rwa [bare kind id] at tells
  constructor
  · intro kind
    ext id
    exact (mem_replayed_iff (told kind id)).symm
  · intro before entry later parts
    have tells := told
    simp only [Trace.about, parts] at tells
    exact fits_of_tells fun kind id => ⟨_, tells kind id⟩

def crowd : Estate Trace :=
  { Estate.empty .still with
    models := [.new (.made 0)]
    entities := [.new ⟨0⟩ .node (.repeating 1), .new ⟨0⟩ .node (.repeating 1),
      .new ⟨0⟩ .node (.repeating 2)] }

/-- A node is added, and while that is heard of another is refused, during which the first is replaced;
then the first is deleted. Later it is added again, and its deletion is refused. -/
def restless : Script :=
  .call (.add ⟨0⟩ ⟨0⟩)
    (.call (.add ⟨0⟩ ⟨2⟩) (.call (.add ⟨0⟩ ⟨1⟩) .done (.ok ()) .done)
      (.error (.unsupportedPayload "node"))
      (.call (.delete ⟨0⟩ .node (.repeating 1)) .done (.ok ()) .done)) (.ok ())
    (.call (.add ⟨0⟩ ⟨0⟩) .done (.ok ())
      (.call (.delete ⟨0⟩ .node (.repeating 1))
        (.call (.add ⟨0⟩ ⟨2⟩) .done (.ok ()) .done) (.error (.unsupportedPayload "node")) .done))

theorem restless_replays :
    crowd.outside = .still ∧ (∀ kind id, crowd.stored ⟨0⟩ kind id = none) ∧
      (restless.run crowd).outside.Settled ⟨0⟩ ∧
      (∀ kind, {id | ((restless.run crowd).stored ⟨0⟩ kind id).isSome} =
        replayed ((restless.run crowd).outside.accepted ⟨0⟩) kind) ∧
      ∀ before entry later,
        (restless.run crowd).outside.accepted ⟨0⟩ = before ++ entry :: later →
          entry.Fits before := by
  have bare : ∀ kind id, crowd.stored ⟨0⟩ kind id = none := fun _ _ => rfl
  have settled : (restless.run crowd).outside.Settled ⟨0⟩ := by decide +kernel
  exact ⟨rfl, bare, settled, accepted_replay_store ⟨0⟩ restless crowd rfl bare settled⟩

example : ((restless.run crowd).outside.accepted ⟨0⟩).map (fun entry => entry.event.operation) =
    [.create, .update, .delete, .create, .create] := by decide +kernel

end Landscape

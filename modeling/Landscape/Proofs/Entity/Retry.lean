import Landscape.Proofs.Entity.Frame
import Landscape.Proofs.Records

/-!
An edit that was refused and is tried again. A refused edit is kept, so what a later attempt has to do
depends on the edit. A setter makes its change again and reports it again: when it succeeds at last, the
change was handed over and accepted then. Annotations and the listing of a resource find their change
made: the first repetition succeeds without a word, and the change is never reported.
-/

namespace Landscape

open Estate

namespace Edit

variable {Outside : Type} {model : ModelRef} {entity : EntityRef} {deliver : Deliver Outside}
  {before after estate : Estate Outside} {found now : Entity} {edit : Edit} {sink : SinkRef}

/-- Edits that find nothing to change once they were made. -/
def isAbsorbing : Edit → Bool
  | set (.addResource _) | annotate _ _ | unannotate _ => true
  | _ => false

def Suits (found : Entity) : Edit → Prop
  | set (.addResource _) => found.details.resources?.isSome
  | _ => True

theorem idle_absorbs (idle : edit.isIdle found = true) : edit.isAbsorbing = true := by
  cases edit with
  | set change =>
      cases change with
      | addResource => rfl
      | _ => cases idle
  | pointById | pointAt => cases idle
  | annotate | unannotate => rfl

theorem details_addResource (reference : ResourceRef) (found : Entity) :
    (found.change (.addResource reference)).details =
      found.details.change (.addResource reference) := rfl

theorem absorbed (absorbing : edit.isAbsorbing = true) (suits : edit.Suits found)
    (same : now.Resembles (edit.change before found)) : edit.isIdle now = true := by
  have details : now.details = (edit.change before found).details := by rw [← same.1]
  have annotations : now.annotations = (edit.change before found).annotations := by rw [← same.1]
  cases edit with
  | pointById | pointAt => cases absorbing
  | annotate key value =>
      rw [isIdle, annotations, change, Records.get_insert, if_pos rfl]
      exact decide_eq_true rfl
  | unannotate key =>
      rw [isIdle, annotations, change, Records.contains_erase]
      rfl
  | set wanted =>
      cases wanted with
      | addResource reference =>
          obtain ⟨listed, lists⟩ := Option.isSome_iff_exists.mp suits
          rw [change, details_addResource] at details
          cases former : found.details with
          | finding references =>
              rw [former] at details
              simp [isIdle, Entity.absorbs, details, Details.change]
          | _ =>
              rw [former] at lists
              cases lists
      | _ => cases absorbing

theorem setLink_again {slot : Slot} {link other : Link} (alike : other.id = link.id)
    (same : now.Resembles (found.setLink slot link)) :
    (now.setLink slot other).Resembles (found.setLink slot link) := by
  constructor
  · exact same.1
  · intro asked
    by_cases here : asked = slot
    · simp [Entity.setLink, here, alike]
    · have kept := same.2 asked
      simpa [Entity.setLink, here] using kept

theorem change_links (wanted : Change) (links : Slot → Option Link) (found : Entity) :
    { found with links }.change wanted = { found.change wanted with links } := by
  cases wanted <;> rfl

theorem links_change (wanted : Change) (found : Entity) :
    (found.change wanted).links = found.links := by
  cases wanted <;> rfl

theorem details_change_again {wanted : Change} (setter : (set wanted).isAbsorbing = false)
    (details : Details) :
    (details.change wanted).change wanted = details.change wanted := by
  cases wanted with
  | addResource => cases setter
  | _ => cases details <;> rfl

theorem setter_again {wanted : Change} (setter : (set wanted).isAbsorbing = false)
    (found : Entity) : (found.change wanted).change wanted = found.change wanted := by
  cases wanted with
  | displayName | summary | description => rfl
  | _ => exact congrArg (fun details => { found with details }) (details_change_again setter _)

theorem change_again (lasts : before.Lasts after model) (fits : edit.Fits before)
    (setter : edit.isAbsorbing = false) (same : now.Resembles (edit.change before found)) :
    (edit.change after now).Resembles (edit.change before found) := by
  cases edit with
  | annotate | unannotate => cases setter
  | pointById slot id => exact setLink_again rfl same
  | pointAt slot target =>
      obtain ⟨other, there⟩ := Option.isSome_iff_exists.mp fits
      have known : before.card? target = some other.card := by
        rw [card?, there]
        rfl
      obtain ⟨later, stays, card⟩ := Option.map_eq_some_iff.mp (lasts.cards target _ known)
      have id : later.id = other.id := congrArg Card.id card
      refine setLink_again ?_ same
      rw [stays, there]
      exact id
  | set wanted =>
      constructor
      · have written := congrArg (Entity.change wanted) same.1
        rw [change_links, change, setter_again setter] at written
        rw [change, change, links_change]
        rw [links_change] at written
        exact written
      · intro slot
        rw [change, links_change]
        exact same.2 slot

theorem resembles_change (absorbing : edit.isAbsorbing = false ∨ edit.Suits found)
    (lasts : before.Lasts after model) (fits : edit.Fits before)
    (same : now.Resembles (edit.change before found)) :
    (edit.applied after now).Resembles (edit.change before found) := by
  rw [applied]
  split
  · exact same
  · next busy =>
      refine change_again lasts fits ?_ same
      rcases absorbing with setter | suits
      · exact setter
      · by_contra absorbs
        exact busy (absorbed (by simpa using absorbs) suits same)

theorem fits_later (lasts : before.Lasts after model) (fits : edit.Fits before) :
    edit.Fits after := by
  cases edit with
  | pointAt slot target =>
      obtain ⟨other, there⟩ := Option.isSome_iff_exists.mp fits
      have known : before.card? target = some other.card := by
        rw [card?, there]
        rfl
      obtain ⟨later, stays, _⟩ := Option.map_eq_some_iff.mp (lasts.cards target _ known)
      exact Option.isSome_iff_exists.mpr ⟨later, stays⟩
  | _ => trivial

/-- Since the first attempt models and entities have lasted, and the entity shows the change. -/
structure Stands (entity : EntityRef) (model : ModelRef) (start : Estate Outside) (shown : Entity)
    (estate : Estate Outside) : Prop where
  lasts : start.Lasts estate model
  shows : ∃ now, estate.entity? entity = some now ∧ now.Resembles shown

structure Tried (model : ModelRef) (entity : EntityRef) (edit : Edit) (start : Estate Outside)
    (found : Entity) (owner : Model) : Prop where
  here : start.entity? entity = some found
  own : found.model = model
  made : start.model? model = some owner
  registered : found.isRegistered = true
  fits : edit.Fits start
  suits : edit.Suits found

variable {start : Estate Outside} {owner : Model}

def Attended (model : ModelRef) (entity : EntityRef) (turn : Turn Outside) : Prop :=
  turn.before.modelLives model = true ∧ turn.before.entityLives entity = true

/-- A later attempt: it is noticed as any edit is, and the change stands afterwards. -/
theorem attempt_stands (discreet : Discreet deliver model)
    (tried : Tried model entity edit start found owner)
    (stands : Stands entity model start (edit.change start found) estate)
    (attended : Attended model entity ((edit.call entity).turn deliver estate)) :
    (∃ now, now.Resembles (edit.change start found) ∧
        edit.Noticed deliver estate entity now owner.sink) ∧
      Stands entity model start (edit.change start found)
        ((edit.call entity).perform deliver estate).2 := by
  obtain ⟨now, there, same⟩ := stands.shows
  obtain ⟨later, made, sink⟩ := stands.lasts.made owner tried.made
  have mine : now.model = model := by
    have card := same.card.1.trans (edit.card_change start found).1
    exact (congrArg Card.model card).trans tried.own
  have noticed := Edit.noticed (mine ▸ discreet) there (mine ▸ made) (mine ▸ attended.1)
    attended.2 (fits_later stands.lasts tried.fits)
  rw [sink] at noticed
  obtain ⟨last, stays, alike⟩ := noticed.made
  refine ⟨⟨now, same, noticed⟩, stands.lasts.trans (Call.perform_lasts discreet _ estate), last,
    stays, ?_⟩
  exact alike.trans (resembles_change (.inr tried.suits) stands.lasts tried.fits same)

theorem meanwhile_stands (discreet : Discreet deliver model)
    (tried : Tried model entity edit start found owner)
    {middle : List Call} {between : List (Turn Outside)} {last : Turn Outside}
    (stands : Stands entity model start (edit.change start found) estate)
    (parts : turns deliver (middle ++ [edit.call entity]) estate = between ++ [last])
    (attended : ∀ turn ∈ between, turn.call = edit.call entity → Attended model entity turn)
    (meanwhile : ∀ turn ∈ between, turn.call.Spares entity ∨
      turn.call = edit.call entity ∧ turn.answer ≠ .done) :
    last = (edit.call entity).turn deliver last.before ∧
      Stands entity model start (edit.change start found) last.before ∧
      (edit.isAbsorbing = true → ∀ turn ∈ between, turn.call.Spares entity) := by
  induction middle generalizing estate between with
  | nil =>
      cases between with
      | nil =>
          obtain ⟨rfl, _⟩ := List.cons.inj parts
          exact ⟨rfl, stands, fun _ _ member => by cases member⟩
      | cons turn rest => simp [turns] at parts
  | cons call middle ih =>
      cases between with
      | nil =>
          have lengths := congrArg List.length (List.cons.inj parts).2
          cases middle <;> simp [turns] at lengths
      | cons turn rest =>
          obtain ⟨rfl, more⟩ := List.cons.inj parts
          have restAttended := fun other member =>
            attended other (List.mem_cons_of_mem _ member)
          have restMeanwhile := fun other member =>
            meanwhile other (List.mem_cons_of_mem _ member)
          rcases meanwhile _ List.mem_cons_self with spares | ⟨again, undone⟩
          · obtain ⟨now, there, same⟩ := stands.shows
            have own : now.model = model := by
              have card := same.card.1.trans (edit.card_change start found).1
              exact (congrArg Card.model card).trans tried.own
            obtain ⟨later, stays, alike⟩ := Call.perform_keeps discreet spares estate now there own
            have stood : Stands entity model start (edit.change start found)
                (call.perform deliver estate).2 :=
              ⟨stands.lasts.trans (Call.perform_lasts discreet call estate), later, stays,
                alike.trans same⟩
            obtain ⟨final, before, none⟩ := ih stood more restAttended restMeanwhile
            refine ⟨final, before, fun absorbing => ?_⟩
            rw [List.forall_mem_cons]
            exact ⟨spares, none absorbing⟩
          · obtain rfl : call = edit.call entity := again
            obtain ⟨⟨now, same, noticed⟩, stood⟩ := attempt_stands discreet tried stands
              (attended _ List.mem_cons_self rfl)
            obtain ⟨final, before, _⟩ := ih stood more restAttended restMeanwhile
            refine ⟨final, before, fun absorbing => ?_⟩
            exact (undone (noticed.untold (.inr (absorbed absorbing tried.suits same))).2).elim

theorem Noticed.refused (noticed : edit.Noticed deliver estate entity found sink)
    (registered : found.isRegistered = true) {cause : ModelError}
    (failed : ((edit.call entity).perform deliver estate).1 = .refused cause) :
    ∃ refusal, cause = .event refusal ∧ edit.isIdle found = false ∧
      (edit.call entity).sights deliver entity estate =
        [⟨⟨sink, updateEvent entity found, .error refusal⟩, some (edit.change estate found)⟩] := by
  have busy : edit.isIdle found = false := by
    by_contra idle
    have done := (noticed.untold (.inr (by simpa using idle))).2
    cases failed.symm.trans done
  obtain ⟨verdict, seen, answer⟩ := noticed.told registered busy
  rw [applied, if_neg (by simp [busy])] at seen
  have refused : Call.Answer.ofChange (verdict.mapError .event) = .refused cause :=
    answer.symm.trans failed
  cases verdict with
  | ok _ => cases refused
  | error refusal =>
      cases refused
      exact ⟨refusal, rfl, busy, seen⟩

theorem Noticed.accepted (noticed : edit.Noticed deliver estate entity found sink)
    (registered : found.isRegistered = true) (busy : edit.isIdle found = false)
    (done : ((edit.call entity).perform deliver estate).1 = .done) :
    (edit.call entity).sights deliver entity estate =
      [⟨⟨sink, updateEvent entity found, .ok ()⟩, some (edit.applied estate found)⟩] := by
  obtain ⟨verdict, seen, answer⟩ := noticed.told registered busy
  have accepted : Call.Answer.ofChange (verdict.mapError .event) = .done := answer.symm.trans done
  cases verdict with
  | ok _ => exact seen
  | error refusal => cases accepted

/-- An edit that was refused and is tried again until it succeeds. A setter is handed over anew by the
attempt that succeeds, as an update that shows the change, and was accepted. What absorbs is kept, but its
first repetition succeeds and hands over nothing, so that it is never accepted. -/
theorem retried_told_unless_absorbed (discreet : Discreet deliver model)
    (tried : Tried model entity edit start found owner) {middle : List Call}
    {first last : Turn Outside} {between : List (Turn Outside)} {cause : ModelError}
    (parts : turns deliver (edit.call entity :: middle ++ [edit.call entity]) start =
      first :: between ++ [last])
    (attended : ∀ turn ∈ first :: between ++ [last], turn.call = edit.call entity →
      Attended model entity turn)
    (meanwhile : ∀ turn ∈ between, turn.call.Spares entity ∨
      turn.call = edit.call entity ∧ turn.answer ≠ .done)
    (failed : first.answer = .refused cause) (answered : last.answer = .done) :
    (∃ refusal, cause = .event refusal ∧ first.call.sights deliver entity first.before =
        [⟨⟨owner.sink, updateEvent entity found, .error refusal⟩, some (edit.change start found)⟩]) ∧
      (∃ now, last.after.entity? entity = some now ∧ now.Resembles (edit.change start found)) ∧
      (edit.isAbsorbing = false → ∃ shown, shown.Resembles (edit.change start found) ∧
        last.call.sights deliver entity last.before =
          [⟨⟨owner.sink, updateEvent entity found, .ok ()⟩, some shown⟩]) ∧
      (edit.isAbsorbing = true → (∀ turn ∈ between, turn.call.Spares entity) ∧
        last.call.sights deliver entity last.before = []) := by
  obtain ⟨rfl, more⟩ := List.cons.inj parts
  obtain ⟨lives, awake⟩ := attended _ List.mem_cons_self rfl
  have own := tried.own
  have noticed := Edit.noticed (own ▸ discreet) tried.here (own ▸ tried.made) (own ▸ lives) awake
    tried.fits
  obtain ⟨refusal, event, busy, seen⟩ := noticed.refused tried.registered failed
  obtain ⟨now, there, same⟩ := noticed.made
  rw [applied, if_neg (by simp [busy])] at same
  -- until the last attempt the change stands
  have inner := fun turn (member : turn ∈ between) =>
    attended turn (List.mem_append_left _ (List.mem_cons_of_mem _ member))
  obtain ⟨final, stands, alone⟩ := meanwhile_stands discreet tried
    ⟨Call.perform_lasts discreet _ start, now, there, same⟩ more inner meanwhile
  have held : Attended model entity last := by
    refine attended last (List.mem_append_right _ List.mem_cons_self) ?_
    rw [final]
    rfl
  rw [final] at held answered ⊢
  obtain ⟨⟨recent, alike, noticedAgain⟩, after⟩ := attempt_stands discreet tried stands held
  refine ⟨⟨refusal, event, seen⟩, after.shows, ?_, ?_⟩
  · intro setter
    have card := alike.card.1.trans (edit.card_change start found).1
    have registration := alike.card.2.trans (edit.card_change start found).2
    have registered : recent.isRegistered = true := by
      rw [Entity.isRegistered, registration]
      exact tried.registered
    have unabsorbed : edit.isIdle recent = false := by
      by_contra idle
      cases setter.symm.trans (idle_absorbs (by simpa using idle))
    have told := noticedAgain.accepted registered unabsorbed answered
    rw [updateEvent_card card] at told
    exact ⟨_, resembles_change (.inl setter) stands.lasts tried.fits alike, told⟩
  · intro absorbing
    exact ⟨alone absorbing, (noticedAgain.untold (.inr (absorbed absorbing tried.suits alike))).1⟩

end Edit

def queueing : Deliver Unit := fun _ event estate => estate.sinkReceives 0 event

theorem queueing_discreet (model : ModelRef) : Discreet queueing model := by
  have sinksOnly : ∀ sink event estate,
      (queueing sink event estate).2.entities = estate.entities ∧
        (queueing sink event estate).2.models = estate.models ∧
        (queueing sink event estate).2.outside = estate.outside := by
    intro sink event estate
    unfold queueing sinkReceives
    repeat' split
    all_goals exact ⟨rfl, rfl, rfl⟩
  constructor
  · intro sink event estate
    obtain ⟨entities, models, outside⟩ := sinksOnly sink event estate
    exact (undisturbed_of_same entities models outside).1 model
  · intro sink event estate entity found here _
    refine ⟨found, ?_, found.resembles_refl⟩
    rw [entity?, (sinksOnly sink event estate).1]
    exact here

/-- A model that reports to a forwarder for one event, and a finding that was added to it: its creation
waits in the queue. -/
def backlog : Estate Unit :=
  performAll queueing [.add ⟨0⟩ ⟨0⟩] { study with sinks := [.forwarder (.new 1)] }

def emptying : Call :=
  .elsewhere [.forwarder (.new 1)] [] [.model ⟨0⟩, .entity ⟨0⟩]

def waiting : Entity := (Entity.new ⟨0⟩ .finding (.repeating 1)).register

/-- A name that is given again once the queue was emptied is reported by the second attempt. -/
theorem renaming_retried :
    ∃ owner first emptied last cause, owner.sink = .made 0 ∧ Discreet queueing ⟨0⟩ ∧
      Edit.Tried ⟨0⟩ ⟨0⟩ (.set (.displayName "leak")) backlog waiting owner ∧
      turns queueing ((Edit.set (.displayName "leak")).call ⟨0⟩ :: [emptying] ++
        [(Edit.set (.displayName "leak")).call ⟨0⟩]) backlog = first :: [emptied] ++ [last] ∧
      (∀ turn ∈ first :: [emptied] ++ [last], Edit.Attended ⟨0⟩ ⟨0⟩ turn) ∧
      (∀ turn ∈ [emptied], turn.call.Spares ⟨0⟩) ∧
      first.answer = .refused cause ∧ cause.isRetryable = true ∧ last.answer = .done ∧
      ∃ shown : Entity, shown.Resembles (waiting.change (.displayName "leak")) ∧
        last.call.sights queueing ⟨0⟩ last.before =
          [⟨⟨owner.sink, updateEvent ⟨0⟩ waiting, .ok ()⟩, some shown⟩] := by
  have discreet := queueing_discreet ⟨0⟩
  obtain ⟨owner, sink, tried⟩ : ∃ owner, owner.sink = .made 0 ∧
      Edit.Tried ⟨0⟩ ⟨0⟩ (.set (.displayName "leak")) backlog waiting owner :=
    ⟨_, rfl, rfl, rfl, rfl, rfl, trivial, trivial⟩
  obtain ⟨first, emptied, last, parts, attended, spares, failed, answered⟩ :
      ∃ first emptied last, turns queueing ((Edit.set (.displayName "leak")).call ⟨0⟩ ::
          [emptying] ++ [(Edit.set (.displayName "leak")).call ⟨0⟩]) backlog =
          first :: [emptied] ++ [last] ∧
        (∀ turn ∈ first :: [emptied] ++ [last], Edit.Attended ⟨0⟩ ⟨0⟩ turn) ∧
        (∀ turn ∈ [emptied], turn.call.Spares ⟨0⟩) ∧
        first.answer = .refused (.event (.queue (.full 1))) ∧ last.answer = .done := by
    refine ⟨_, _, _, rfl, ?_, ?_, rfl, rfl⟩
    · simp only [List.cons_append, List.nil_append, List.forall_mem_cons]
      exact ⟨⟨rfl, rfl⟩, ⟨rfl, rfl⟩, ⟨rfl, rfl⟩, List.forall_mem_nil _⟩
    · rw [List.forall_mem_singleton]
      trivial
  obtain ⟨_, _, told, _⟩ := Edit.retried_told_unless_absorbed discreet tried parts
    (fun turn member _ => attended turn member) (fun turn member => .inl (spares turn member))
    failed answered
  exact ⟨owner, first, emptied, last, _, sink, discreet, tried, parts, attended, spares, failed, rfl,
    answered, told rfl⟩

/-- A note that is written again once the queue was emptied succeeds, and nothing was ever accepted. -/
theorem note_never_reported :
    ∃ first emptied last cause,
      turns queueing [(Edit.annotate "owner" "ops").call ⟨0⟩, emptying,
        (Edit.annotate "owner" "ops").call ⟨0⟩] backlog = [first, emptied, last] ∧
      Discreet queueing ⟨0⟩ ∧ backlog.entity? ⟨0⟩ = some waiting ∧ waiting.isRegistered = true ∧
      (∀ turn ∈ [first, emptied, last], Edit.Attended ⟨0⟩ ⟨0⟩ turn) ∧
      emptied.call.Spares ⟨0⟩ ∧
      (∃ now, first.after.entity? ⟨0⟩ = some now ∧ now.annotations ≠ waiting.annotations) ∧
      first.answer = .refused cause ∧ cause.isRetryable = true ∧ last.answer = .done ∧
      ∀ turn ∈ [first, emptied, last], ∀ sight ∈ turn.call.sights queueing ⟨0⟩ turn.before,
        sight.verdict ≠ .ok () := by
  refine ⟨_, _, _, .event (.queue (.full 1)), rfl, queueing_discreet ⟨0⟩, rfl, rfl, ?_, trivial,
    ⟨_, rfl, by decide⟩, rfl, rfl, rfl, ?_⟩
  · simp only [List.forall_mem_cons]
    exact ⟨⟨rfl, rfl⟩, ⟨rfl, rfl⟩, ⟨rfl, rfl⟩, List.forall_mem_nil _⟩
  · simp only [List.forall_mem_cons]
    refine ⟨?_, ?_, ?_, List.forall_mem_nil _⟩
    · intro sight member
      obtain rfl := List.mem_singleton.mp member
      exact nofun
    · intro sight member
      cases member
    · intro sight member
      cases member

end Landscape

import Landscape.Proofs.Chronicle
import Landscape.Proofs.Records

/-!
Events are well formed, and true already when they are heard. Whatever a model or one of its entities hands
over names a stored kind and an identity, and either shows one entity that has them or, after a deletion,
shows nothing. By the time a sink hears of it the store answers as the event says, and the entity that is
shown reads back what was written. Sinks that call back find the same, as it is so of every juncture.
-/

namespace Landscape

namespace Estate

variable {Outside : Type}

/-- An event in the name of a model shows one entity of it that has the kind and the identity of the event,
or none if the entity is gone. -/
inductive Formed (estate : Estate Outside) (model : ModelRef) : Event → Prop where
  | present {kind : Kind} {operation : Operation} {id : ResourceId} {entity : EntityRef}
      (given : id.isNil = false) (written : operation = .create ∨ operation = .update)
      (shown : estate.card? entity = some ⟨kind, id, model⟩) :
      Formed estate model ⟨.entity kind, operation, id, [.resource entity]⟩
  | gone {kind : Kind} {id : ResourceId} (given : id.isNil = false) :
      Formed estate model ⟨.entity kind, .delete, id, []⟩

structure Shows (estate : Estate Outside) (entity : EntityRef) (reads : Entity → Prop)
    (event : Event) : Prop where
  updated : event.operation = .update
  shown : event.payload = [.resource entity]
  registered : ∃ found, estate.entity? entity = some found ∧ found.isRegistered = true ∧ reads found

/-- The event is an update of the entity that the annotations report to, and they read as told. Those of
an entity report to it and are read from it; those that stand on their own have their values themselves. -/
def ShowsNotes (estate : Estate Outside) (reads : Records → Prop) (event : Event) : NotesPlace → Prop
  | .ofEntity entity => estate.Shows entity (fun found => reads found.annotations) event
  | .free notes => ∃ entity found, estate.Shows entity (fun _ => True) event ∧
      estate.notes? notes = some found ∧ found.sink = .entity entity ∧ reads found.records

end Estate

def Change.ReadIn (found : Entity) : Change → Prop
  | .displayName wanted | .summary wanted => found.displayName = wanted
  | .description wanted => found.description = wanted
  | .version wanted => found.details.version? = some wanted
  | .isAbstract wanted => found.details.isAbstract? = some wanted
  | .apiType wanted => found.details.apiType? = some wanted
  | .consumes wanted => found.details.consumes? = some wanted
  | .provides wanted => found.details.provides? = some wanted
  | .resources wanted => found.details.resources? = some wanted
  | .addResource wanted => ∃ listed, found.details.resources? = some listed ∧ wanted ∈ listed

namespace Call

variable {Outside : Type}

/-- What is so of the event of a call that began in one estate and is heard of in another. -/
def HeardAs (model : ModelRef) (before now : Estate Outside) (event : Event) : Call → Prop
  | .add _ entity => event.payload = [.resource entity] ∧ ∃ kind,
      event.resourceType = .entity kind ∧
      now.stored model kind event.resourceId = some entity ∧
      (event.operation = .update ↔ (before.stored model kind event.resourceId).isSome = true)
  | .delete _ kind id => event = Estate.deletedEvent kind id ∧
      now.stored model kind id = none ∧
      now.countOf model (.entity kind) + 1 = before.countOf model (.entity kind)
  | .change entity wanted => now.Shows entity
      (fun found => found.kind.has wanted.field = true → wanted.ReadIn found) event
  | .pointById entity slot id => now.Shows entity
      (fun found => (found.links slot).map Link.id = some id) event
  | .pointAt entity slot target => now.Shows entity
      (fun found => ∃ card, before.card? target = some card ∧
        found.links slot = some ⟨card.id, some target⟩) event
  | .annotate place key value => now.ShowsNotes (fun records => records.get? key = some value) event place
  | .unannotate place key => now.ShowsNotes (fun records => records.get? key = none) event place
  | .receive entity _ => now.Shows entity (fun _ => True) event
  | _ => False

/-- A hearing that is as it should be: by the sink of the model, of an event that is well formed and true. -/
structure Truthful (model : ModelRef) (call : Call) (before now : Estate Outside) (sink : SinkRef)
    (event : Event) : Prop where
  own : (now.model? model).map Model.sink = some sink
  formed : now.Formed model event
  heard : call.HeardAs model before now event

theorem truthful_amid {Other : Type} (outside : Other) {model : ModelRef} {call : Call}
    {before now : Estate Outside} {sink : SinkRef} {event : Event}
    (truthful : call.Truthful model before now sink event) :
    call.Truthful model (before.amid outside) (now.amid outside) sink event where
  own := truthful.own
  formed := by
    cases truthful.formed with
    | present given written shown => exact .present given written shown
    | gone given => exact .gone given
  heard := by
    have heard := truthful.heard
    have carried : ∀ {entity reads}, now.Shows entity reads event →
        (now.amid outside).Shows entity reads event := fun shown =>
      ⟨shown.updated, shown.shown, shown.registered⟩
    cases call with
    | annotate place | unannotate place =>
        cases place with
        | ofEntity entity => exact carried heard
        | free notes =>
            obtain ⟨entity, found, shown, reports⟩ := heard
            exact ⟨entity, found, carried shown, reports⟩
    | change | pointById | pointAt | receive => exact carried heard
    | _ => exact heard

end Call

theorem Change.read_change {found : Entity} (wanted : Change)
    (suited : found.details.owner? = (Details.blank found.kind).owner?)
    (has : found.kind.has wanted.field = true) : wanted.ReadIn (found.change wanted) := by
  obtain ⟨kind, id, model, registration, displayName, description, details, links, annotations⟩ := found
  cases wanted with
  | displayName | description | summary => rfl
  | addResource reference =>
      obtain rfl : kind = .finding := by simpa [Kind.has, Change.field] using has
      cases details with
      | finding references => exact ⟨references ++ [reference], rfl, by simp⟩
      | _ => cases suited
  | _ => cases kind <;> cases has <;> cases details <;> cases suited <;> rfl

theorem Opening.andThen_handing {Outside Value Other : Type} {opening : Opening Outside Value}
    {sink : SinkRef} {event : Event} {found : Estate Outside}
    {more : Value → Estate Outside → Other × Estate Outside}
    {close : Except EventError Unit → Estate Outside → Other × Estate Outside}
    (opened : opening.andThen more = .handing sink event found close) :
    ∃ former, opening = .handing sink event found former := by
  cases opening with
  | ended value after => cases opened
  | handing sink event found former =>
      cases opened
      exact ⟨former, rfl⟩

namespace Estate

variable {Outside Value : Type} {estate found : Estate Outside} {entity : EntityRef} {now : Entity}
  {sink : SinkRef} {event : Event} {model : ModelRef}

structure Announced (estate found : Estate Outside) (entity : EntityRef) (now : Entity)
    (sink : SinkRef) (event : Event) : Prop where
  here : estate.entity? entity = some now
  there : found.entity? entity = some now
  aside : found.notes = estate.notes
  registered : now.isRegistered = true
  own : (found.model? now.model).map Model.sink = some sink
  told : event = updateEvent entity now

theorem announce_handing
    {close : Except EventError Unit → Estate Outside → Except EventError Unit × Estate Outside}
    (opened : estate.announceOpening entity = .handing sink event found close) :
    ∃ now, estate.Announced found entity now sink event := by
  unfold announceOpening at opened
  split at opened
  · cases opened
  · next now here =>
      split at opened
      · cases opened
      · next owner made =>
          split at opened
          · next heard =>
              cases opened
              have registered : now.isRegistered = true := (Bool.and_eq_true_iff.mp heard).1
              have own : (estate.model? now.model).map Model.sink = some owner.sink := by
                rw [made]
                rfl
              exact ⟨now, here, here, rfl, registered, own, rfl⟩
          · cases opened

theorem update_handing {change : Entity → Entity}
    {close : Except EventError Unit → Estate Outside → Except ModelError Unit × Estate Outside}
    (opened : estate.updateOpening entity change = .handing sink event found close) :
    ∃ former, estate.entity? entity = some former ∧
      (estate.modifyEntity entity change).Announced found entity (change former) sink event := by
  obtain ⟨_, announced⟩ := Opening.andThen_handing opened
  obtain ⟨now, announced⟩ := announce_handing announced
  have changed := announced.here
  rw [entity_modifyEntity, if_pos rfl] at changed
  obtain ⟨former, here, rfl⟩ := Option.map_eq_some_iff.mp changed
  exact ⟨former, here, announced⟩

theorem receives_handing {received : Event}
    {close : Except EventError Unit → Estate Outside → Except EventError Unit × Estate Outside}
    (opened : estate.receivesOpening entity received = .handing sink event found close) :
    ∃ now, estate.Announced found entity now sink event := by
  unfold receivesOpening at opened
  split at opened
  · exact announce_handing opened
  · cases opened

theorem report_handing {notes : Notes} {received : Event} (reports : notes.sink = .entity entity)
    {close : Except EventError Unit → Estate Outside → Except ModelError Unit × Estate Outside}
    (opened : estate.reportOpening notes received = .handing sink event found close) :
    ∃ now, estate.Announced found entity now sink event := by
  unfold reportOpening at opened
  split at opened
  · obtain ⟨_, handed⟩ := Opening.andThen_handing opened
    rw [reports] at handed
    obtain ⟨now, announced⟩ := receives_handing handed
    exact ⟨now, announced.here, announced.there, announced.aside, announced.registered,
      announced.own, announced.told⟩
  · cases opened

theorem Announced.shows {reads : Entity → Prop}
    (announced : estate.Announced found entity now sink event) (read : reads now) :
    found.Shows entity reads event where
  updated := by
    rw [announced.told]
    rfl
  shown := by
    rw [announced.told]
    rfl
  registered := ⟨now, announced.there, announced.registered, read⟩

theorem Announced.formed (announced : estate.Announced found entity now sink event)
    (sound : found.Sound) : found.Formed now.model event := by
  have given := (sound.well entity now announced.there).given announced.registered
  have card : found.card? entity = some now.card := by
    rw [card?, announced.there]
    rfl
  rw [announced.told]
  exact .present given (.inr rfl) card

theorem Announced.truthful {call : Call} {start : Estate Outside}
    (announced : estate.Announced found entity now sink event) (sound : found.Sound)
    (mine : now.model = model) (heard : call.HeardAs model start found event) :
    call.Truthful model start found sink event := by
  subst mine
  exact ⟨announced.own, announced.formed sound, heard⟩

theorem notes_modifyNotes (notes : NotesRef) (change : Notes → Notes) (estate : Estate Outside) :
    (estate.modifyNotes notes change).notes? notes = (estate.notes? notes).map change := by
  simp [notes?, modifyNotes]

end Estate

namespace Call

open Estate

variable {Outside : Type} {estate found : Estate Outside} {model : ModelRef} {sink : SinkRef}
  {event : Event}

theorem add_truthful {entity : EntityRef}
    {close : Except EventError Unit → Estate Outside → Except ModelError Unit × Estate Outside}
    (opened : estate.addOpening model entity = .handing sink event found close) :
    (add model entity).Truthful model estate found sink event := by
  unfold addOpening at opened
  split at opened
  · next added owner here made =>
      split at opened
      · cases opened
      · next unset =>
          have given : added.id.isNil = false := by simpa using unset
          split at opened
          · cases opened
          · next same =>
              have mine : added.model = model := not_not.mp same
              cases opened
              have card : estate.card? entity = some ⟨added.kind, added.id, model⟩ := by
                rw [card?, here, ← mine]
                rfl
              constructor
              · refine (sink_setRegistry _ model model _ _).trans ?_
                rw [model_bindSlots, made]
                rfl
              · refine .present given ?_ ((bindSlots_grows entity estate).cards entity _ card)
                cases estate.stored model added.kind added.id with
                | none => exact .inl rfl
                | some former => exact .inr rfl
              · refine ⟨rfl, added.kind, rfl, ?_, ?_⟩
                · exact (stored_entered made entity added _ _ _).trans (if_pos ⟨rfl, rfl, rfl⟩)
                · simp only [storedEvent]
                  cases estate.stored model added.kind added.id <;> simp
  · cases opened

theorem delete_truthful {kind : Kind} {id : ResourceId}
    {close : Except EventError Unit → Estate Outside → Except ModelError Unit × Estate Outside}
    (sound : estate.Sound)
    (opened : estate.deleteOpening model kind id = .handing sink event found close) :
    (delete model kind id).Truthful model estate found sink event := by
  unfold deleteOpening at opened
  split at opened
  · cases opened
  · next owner made =>
      split at opened
      · cases opened
      · next removed present =>
          cases opened
          have sinks : ((estate.onDelete model kind id removed).model? model).map Model.sink =
              some owner.sink := by
            refine (sink_setRegistry estate model model kind _).trans ?_
            rw [made]
            rfl
          obtain ⟨later, madeLater, _⟩ := Option.map_eq_some_iff.mp sinks
          refine ⟨sinks, .gone (sound.given model kind id removed present), rfl, ?_, ?_⟩
          · exact (stored_withdrawn made kind id _ _ _).trans (if_pos ⟨rfl, rfl, rfl⟩)
          · have fewer : (estate.onDelete model kind id removed).registry model kind =
                (estate.registry model kind).remove id :=
              (registry_withdrawn made kind id model kind).trans (if_pos ⟨rfl, rfl⟩)
            rw [countOf_registry, countOf_registry, fewer]
            exact Registry.size_remove (sound.registries model kind) present

theorem notes_truthful {call : Call} {place : NotesPlace} (key : String) {notes : Notes}
    {records : Records} {received : Event} (reads : Records → Prop)
    {close : Except EventError Unit → Estate Outside → Except ModelError Unit × Estate Outside}
    (later : found.Sound) (there : estate.notesAt? place = some notes)
    (mine : (unannotate place key).sender estate = some model) (read : reads records)
    (opened : (estate.putRecords place records).reportOpening notes received =
      .handing sink event found close)
    (heard : found.ShowsNotes reads event place → call.HeardAs model estate found event) :
    call.Truthful model estate found sink event := by
  cases reports : notes.sink with
  | made index =>
      rw [sender, there, Option.map_some, reports] at mine
      cases mine
  | entity entity =>
      obtain ⟨now, announced⟩ := report_handing reports opened
      rw [sender, there, Option.map_some, reports] at mine
      obtain ⟨former, here, owned⟩ := Option.map_eq_some_iff.mp mine
      have card : (estate.putRecords place records).card? entity = some former.card := by
        apply ((undisturbed_putRecords place records estate).1 model).cards
        rw [card?, here]
        rfl
      apply announced.truthful later
      · rw [card?, announced.here] at card
        exact (congrArg Card.model (Option.some.inj card)).trans owned
      · apply heard
        cases place with
        | ofEntity other =>
            obtain ⟨_, _, rfl⟩ := Option.map_eq_some_iff.mp there
            obtain rfl : other = entity := SinkRef.entity.inj reports
            have written := announced.here
            rw [putRecords, entity_modifyEntity, if_pos rfl, here] at written
            obtain rfl := Option.some.inj written
            exact announced.shows read
        | free other =>
            have written := notes_modifyNotes other (fun found => { found with records }) estate
            have stands : estate.notes? other = some notes := there
            rw [stands] at written
            have aside : found.notes? other =
                (estate.modifyNotes other fun found => { found with records }).notes? other :=
              congrArg (fun kept : List Notes => kept[other.index]?) announced.aside
            exact ⟨entity, _, announced.shows trivial, aside.trans written, reports, read⟩

/-- What the model of a call hands over is well formed and true. -/
theorem handing_truthful {call : Call}
    {close : Except EventError Unit → Estate Outside → Answer × Estate Outside}
    (sound : estate.Sound) (opened : call.opening estate = .handing sink event found close)
    (mine : call.sender estate = some model) : call.Truthful model estate found sink event := by
  have later : found.Sound := by
    have opens := (call.opening_effect estate).reached
    rw [opened] at opens
    exact opens.grows.sound sound
  have made : ∀ {entity former}, estate.entity? entity = some former →
      (estate.entity? entity).map Entity.model = some model → former.model = model := by
    intro entity former here sender
    rw [here] at sender
    exact Option.some.inj sender
  cases call with
  | add other entity =>
      obtain rfl : other = model := Option.some.inj mine
      obtain ⟨_, handed⟩ := Opening.andThen_handing opened
      exact add_truthful handed
  | delete other kind id =>
      obtain rfl : other = model := Option.some.inj mine
      obtain ⟨_, handed⟩ := Opening.andThen_handing opened
      exact delete_truthful sound handed
  | change entity wanted =>
      rw [opening] at opened
      split at opened
      · cases opened
      · split at opened
        · cases opened
        · obtain ⟨_, handed⟩ := Opening.andThen_handing opened
          obtain ⟨former, here, announced⟩ := update_handing handed
          have card := (card_change wanted former).1
          apply announced.truthful later ((congrArg Card.model card).trans (made here mine))
          apply announced.shows
          intro has
          have kind : (former.change wanted).kind = former.kind := congrArg Card.kind card
          rw [kind] at has
          exact Change.read_change wanted (sound.well entity former here).suited has
  | pointById entity slot id =>
      obtain ⟨_, handed⟩ := Opening.andThen_handing opened
      obtain ⟨former, here, announced⟩ := update_handing handed
      have owned : former.model = model := made here mine
      apply announced.truthful later owned
      apply announced.shows
      simp [Entity.setLink]
  | pointAt entity slot target =>
      rw [opening] at opened
      split at opened
      · cases opened
      · next pointed there =>
          obtain ⟨_, handed⟩ := Opening.andThen_handing opened
          obtain ⟨former, here, announced⟩ := update_handing handed
          have owned : former.model = model := made here mine
          apply announced.truthful later owned
          apply announced.shows
          refine ⟨pointed.card, ?_, ?_⟩
          · rw [card?, there]
            rfl
          · simp [Entity.setLink, Entity.card]
  | receive entity received =>
      obtain ⟨_, handed⟩ := Opening.andThen_handing opened
      obtain ⟨now, announced⟩ := receives_handing handed
      apply announced.truthful later (made announced.here mine)
      exact announced.shows trivial
  | annotate place key value =>
      rw [opening] at opened
      split at opened
      · cases opened
      · next notes there =>
          split at opened
          · cases opened
          · obtain ⟨_, handed⟩ := Opening.andThen_handing opened
            have read : (notes.records.insert key value).get? key = some value :=
              (Records.get_insert key value key notes.records).trans (if_pos rfl)
            exact notes_truthful key (fun records => records.get? key = some value) later there mine
              read handed id
  | unannotate place key =>
      rw [opening] at opened
      split at opened
      · cases opened
      · next notes there =>
          split at opened
          · obtain ⟨_, handed⟩ := Opening.andThen_handing opened
            have read : (notes.records.erase key).get? key = none :=
              (Records.get_erase key key notes.records).trans (if_pos rfl)
            exact notes_truthful key (fun records => records.get? key = none) later there mine read
              handed id
          · cases opened
  | _ => cases mine

end Call

/-- Whatever is run, and whatever the sinks call in turn: an event in the name of a model is heard by the
sink of that model, names a kind and an identity and shows the one entity that has them or, after a
deletion, none; and what it tells is so when hearing it begins. An addition is stored, and is told as an
update if something was stored under the identity before; a deletion is no longer stored or counted; and an
entity that was changed is registered and reads back what was written. -/
theorem Script.heard_truthful (script : Script) {juncture : Juncture} (member : juncture ∈ script.log)
    {sink : SinkRef} {event : Event} {model : ModelRef} (hears : juncture.stage = .hears sink event)
    (sender : juncture.call.sender juncture.before = some model) :
    juncture.call.Truthful model juncture.before juncture.now sink event := by
  obtain ⟨sound, _, reaches⟩ := script.log_founded member
  obtain ⟨call, before, stage, now⟩ := juncture
  obtain rfl : stage = .hears sink event := hears
  cases reaches with
  | @hears start found _ _ _ opened =>
      have started : start.Sound := (Estate.grows_unseen start).sound sound
      exact Call.truthful_amid () (Call.handing_truthful started opened sender)

/-- A system is stored, with a look at the store by the sink, and then renamed; the sink that hears of the
new name deletes the system before it answers. -/
def renamedAndDeleted : Script :=
  .call (.newModel (.made 0)) .done (.ok ()) <|
  .call (.elsewhere [.list []] [] [.model ⟨0⟩]) .done (.ok ()) <|
  .call (.newEntity ⟨0⟩ .system (.repeating 7)) .done (.ok ()) <|
  .call (.add ⟨0⟩ ⟨0⟩) (.call (.find ⟨0⟩ .system (.repeating 7)) .done (.ok ()) .done) (.ok ()) <|
  .call (.change ⟨0⟩ (.displayName "Billing"))
    (.call (.delete ⟨0⟩ .system (.repeating 7)) .done (.ok ()) .done) (.ok ()) .done

theorem inner_deletion_truthful : ∃ juncture, renamedAndDeleted.log[14]? = some juncture ∧
    juncture.stage = .hears (.made 0) (Estate.deletedEvent .system (.repeating 7)) ∧
    juncture.call.sender juncture.before = some ⟨0⟩ ∧
    juncture.call.Truthful ⟨0⟩ juncture.before juncture.now (.made 0)
      (Estate.deletedEvent .system (.repeating 7)) := by
  refine ⟨_, rfl, rfl, rfl, ?_⟩
  exact renamedAndDeleted.heard_truthful (List.mem_of_getElem? (i := 14) rfl) rfl rfl

end Landscape

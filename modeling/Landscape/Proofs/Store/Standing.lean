import Landscape.Proofs.Chronicle

/-!
The standing of what is stored. Whatever sinks call in turn and refuse, a store holds under each identity an
entity of that kind and identity that was made for its model, and an entity that was registered once stays
registered. A stored entity may be unregistered only while an addition of it is in progress further up: a
refused write puts back what its identity had when the write began, and the additions that were in progress
then are still in progress. So whatever is stored when no call is in progress is registered.
-/

namespace Landscape

def Juncture.proceed (calls : List Call) (juncture : Juncture) : List Call :=
  match juncture.stage with
  | .begins => juncture.call :: calls
  | .hears _ _ => calls
  | .answers _ => calls.tail

def underway (log : List Juncture) : List Call :=
  log.foldl Juncture.proceed []

theorem underway_append (log : List Juncture) (juncture : Juncture) :
    underway (log ++ [juncture]) = juncture.proceed (underway log) := by
  rw [underway, List.foldl_append]
  rfl

namespace Estate

variable {Outside : Type} {before after estate : Estate Outside} {calls more : List Call}
  {model : ModelRef} {entity : EntityRef}

def Enrols (before after : Estate Outside) : Prop :=
  ∀ model entity, before.Registered model entity → after.Registered model entity

theorem Enrols.trans {first second third : Estate Outside} (former : first.Enrols second)
    (latter : second.Enrols third) : first.Enrols third :=
  fun model entity registered => latter model entity (former model entity registered)

theorem enrols_of_undisturbed (undisturbed : before.Undisturbed after) : before.Enrols after :=
  fun model entity => ((undisturbed.1 model).registered entity).mpr

theorem Beside.enrols (beside : before.Beside after) : before.Enrols after :=
  enrols_of_undisturbed (undisturbed_of_same beside.entities beside.models beside.outside)

theorem enrols_register (estate : Estate Outside) (entity : EntityRef) :
    estate.Enrols (estate.modifyEntity entity Entity.register) := by
  rintro model other ⟨found, here, own, registered⟩
  refine ⟨if other = entity then found.register else found, ?_, ?_, ?_⟩
  · rw [entity_modifyEntity, here]
    split <;> rfl
  · split <;> exact own
  · split
    · rfl
    · exact registered

/-- What is stored is registered, or one of these calls is an addition of it. -/
def Attended (calls : List Call) (estate : Estate Outside) : Prop :=
  ∀ model kind id entity, estate.stored model kind id = some entity →
    estate.Registered model entity ∨ .add model entity ∈ calls

theorem Attended.wider (attended : estate.Attended calls) (subset : calls ⊆ more) :
    estate.Attended more := by
  intro model kind id entity held
  exact (attended model kind id entity held).imp_right fun adding => subset adding

theorem stored_back {kind : Kind} {id : ResourceId} {previous : Option EntityRef}
    (held : (estate.setRegistry model kind ((estate.registry model kind).restore id previous)).stored
      model kind id = some entity) : previous = some entity := by
  cases made : estate.model? model with
  | none =>
      have missing : estate.stored model kind id = none := by
        rw [stored, Estate.registry, made]
        rfl
      rw [stored, setRegistry_missing estate made] at held
      cases missing.symm.trans held
  | some owner =>
      rw [stored_restored made, if_pos ⟨rfl, rfl, rfl⟩] at held
      exact held

end Estate

namespace Call

open Estate

variable {Outside : Type} {estate found after now final : Estate Outside} {call : Call}
  {calls : List Call} {answer : Answer} {sink : SinkRef} {event : Event}
  {close : Except EventError Unit → Estate Outside → Answer × Estate Outside}

theorem Modifies.enrols {entity : EntityRef} {change : Entity → Entity}
    (modifies : call.Modifies estate entity change) :
    estate.Enrols (estate.modifyEntity entity change) := by
  apply enrols_of_undisturbed
  apply undisturbed_modifyEntity
  intro found
  cases modifies with
  | change _ wanted => exact card_change wanted found
  | pointById _ slot id => exact card_setLink slot _ found
  | pointAt _ slot => exact card_setLink slot _ found
  | follow => exact ⟨card_learnTarget _ _ found, (registration_learnTarget _ _ found).2⟩
  | annotate | unannotate => exact ⟨rfl, rfl⟩

theorem Opens.enrols (opens : call.Opens estate now) : estate.Enrols now := by
  obtain ⟨middle, alters, beside⟩ := opens
  refine Enrols.trans ?_ beside.enrols
  cases alters with
  | nothing => exact (Beside.refl estate).enrols
  | modifies modifies => exact modifies.enrols
  | @enters _ _ entity =>
      exact fun model other => (enrols_of_undisturbed (undisturbed_bindSlots entity estate)) model other
  | withdraws => exact fun _ _ registered => registered
  | lists model kind => exact enrols_of_undisturbed (undisturbed_listOf model kind estate)
  | makesEntity model kind id => exact enrols_of_undisturbed (undisturbed_addEntity rfl estate)
  | makesModel sink => exact enrols_of_undisturbed (undisturbed_addModel sink estate)

theorem Closes.enrols (closes : call.Closes estate after final) : after.Enrols final := by
  obtain ⟨middle, settles, beside⟩ := closes
  refine Enrols.trans ?_ beside.enrols
  cases settles with
  | nothing | restores => exact fun _ _ registered => registered
  | @registers model entity => exact enrols_register after entity

theorem Opens.held (opens : call.Opens estate now) {model : ModelRef} {kind : Kind} {id : ResourceId}
    {entity : EntityRef} (held : now.stored model kind id = some entity) :
    estate.stored model kind id = some entity ∨ call = .add model entity := by
  obtain ⟨middle, alters, beside⟩ := opens
  rw [stored, Estate.registry, model?, beside.models, ← model?, ← Estate.registry, ← stored] at held
  have leaves : ∀ {later : Estate Outside}, estate.Undisturbed later →
      later.stored model kind id = estate.stored model kind id :=
    fun undisturbed => (undisturbed.1 model).stored kind id
  cases alters with
  | nothing | modifies => exact .inl held
  | @enters _ _ _ found _ made =>
      rw [stored_entered made] at held
      split at held
      · next same =>
          obtain rfl := Option.some.inj held
          exact .inr (same.1 ▸ rfl)
      · exact .inl held
  | withdraws made =>
      rw [stored_withdrawn made] at held
      split at held
      · cases held
      · exact .inl held
  | lists other otherKind => exact .inl ((leaves (undisturbed_listOf other otherKind estate)).symm.trans held)
  | makesEntity other otherKind otherId =>
      exact .inl ((leaves (undisturbed_addEntity rfl estate)).symm.trans held)
  | makesModel sink => exact .inl ((leaves (undisturbed_addModel sink estate)).symm.trans held)

theorem Closes.held (closes : call.Closes estate after final) {model : ModelRef} {kind : Kind}
    {id : ResourceId} {entity : EntityRef} (held : final.stored model kind id = some entity) :
    after.stored model kind id = some entity ∨ estate.stored model kind id = some entity := by
  obtain ⟨middle, settles, beside⟩ := closes
  rw [stored, Estate.registry, model?, beside.models, ← model?, ← Estate.registry, ← stored] at held
  cases settles with
  | nothing | registers => exact .inl held
  | restores _ other otherKind otherId =>
      by_cases same : model = other ∧ kind = otherKind ∧ id = otherId
      · obtain ⟨rfl, rfl, rfl⟩ := same
        exact .inr (stored_back held)
      · left
        cases made : after.model? other with
        | none =>
            rw [stored, setRegistry_missing after made] at held
            exact held
        | some owner =>
            rw [stored_restored made, if_neg same] at held
            exact held

theorem Opens.attended (opens : call.Opens estate now) (attended : estate.Attended calls) :
    now.Attended (call :: calls) := by
  intro model kind id entity held
  rcases opens.held held with before | adds
  · rcases attended model kind id entity before with registered | adding
    · exact .inl (opens.enrols model entity registered)
    · exact .inr (List.mem_cons_of_mem call adding)
  · exact .inr (adds ▸ List.mem_cons_self)

theorem add_ended {model : ModelRef} {entity : EntityRef}
    (opened : (add model entity).opening estate = .ended answer after) : after = estate := by
  simp only [opening, addOpening] at opened
  repeat' split at opened
  all_goals cases opened
  all_goals rfl

theorem ended_attended (opened : call.opening estate = .ended answer after)
    (attended : estate.Attended calls) : after.Attended calls := by
  have opens := (call.opening_effect estate).reached
  rw [opened] at opens
  intro model kind id entity held
  rcases opens.held held with before | rfl
  · exact (attended model kind id entity before).imp_left (opens.enrols model entity)
  · rw [add_ended opened] at held ⊢
    exact attended model kind id entity held

theorem add_settled {model : ModelRef} {entity : EntityRef}
    (opened : (add model entity).opening estate = .handing sink event found close)
    (between : estate.Grows after) (verdict : Except EventError Unit) {kind : Kind} {id : ResourceId}
    (placed : (close verdict after).2.card? entity = some ⟨kind, id, model⟩)
    (held : (close verdict after).2.stored model kind id = some entity) :
    (close verdict after).2.Registered model entity ∨
      estate.stored model kind id = some entity := by
  simp only [opening, addOpening] at opened
  split at opened
  · next added owner here made =>
      split at opened
      · cases opened
      · split at opened
        · cases opened
        · next same =>
            have own : added.model = model := not_not.mp same
            have known : estate.card? entity = some added.card := by
              rw [card?, here]
              rfl
            have kept := between.cards entity _ known
            cases opened
            let released := after.release
              (addHolds model entity (estate.stored model added.kind added.id))
            cases verdict with
            | ok _ => exact .inl ((registered_register released kept own entity).mpr (.inl rfl))
            | error refusal =>
                right
                -- the entity has one place only, which is the one that gets back what it had
                have card : added.card = ⟨kind, id, model⟩ := Option.some.inj (kept.symm.trans placed)
                obtain rfl : added.kind = kind := congrArg Card.kind card
                obtain rfl : added.id = id := congrArg Card.id card
                have back : (released.setRegistry model added.kind
                    ((released.registry model added.kind).restore added.id
                      (estate.stored model added.kind added.id))).stored model added.kind added.id =
                    some entity := held
                exact stored_back back
  · cases opened

theorem closed_attended (opened : call.opening estate = .handing sink event found close)
    (sound : estate.Sound) (attended : estate.Attended calls) (between : estate.Grows after)
    (enrols : estate.Enrols after) (meanwhile : after.Attended (call :: calls))
    (verdict : Except EventError Unit) : (close verdict after).2.Attended calls := by
  have effect := call.opening_effect estate
  rw [opened] at effect
  have closes : call.Closes estate after (close verdict after).2 := effect.2 verdict after
  have final : (close verdict after).2.Sound :=
    (closes.grows sound between).sound (between.sound sound)
  intro model kind id entity held
  have before : estate.stored model kind id = some entity →
      (close verdict after).2.Registered model entity ∨ .add model entity ∈ calls := fun former =>
    (attended model kind id entity former).imp_left fun registered =>
      closes.enrols model entity (enrols model entity registered)
  rcases closes.held held with former | former
  · rcases meanwhile model kind id entity former with registered | adding
    · exact .inl (closes.enrols model entity registered)
    · rcases List.mem_cons.mp adding with rfl | further
      · rcases add_settled opened between verdict (final.placed model kind id entity held) held with
          registered | back
        · exact .inl registered
        · exact before back
      · exact .inr further
  · exact before former

end Call

namespace Estate

variable {estate : Estate (List Juncture)}

/-- At each juncture so far what was stored was registered, or was being added by a call in progress. -/
def Recorded (log : List Juncture) : Prop :=
  ∀ (index : Nat) (juncture : Juncture), log[index]? = some juncture →
    juncture.now.Attended (underway (log.take (index + 1)))

theorem recorded_append {log : List Juncture} (recorded : Recorded log) {juncture : Juncture}
    (attended : juncture.now.Attended (underway (log ++ [juncture]))) :
    Recorded (log ++ [juncture]) := by
  intro index other here
  rcases appended_cases here with ⟨inside, former⟩ | ⟨rfl, rfl⟩
  · rw [List.take_append_of_le_length inside]
    exact recorded index other former
  · rw [List.take_of_length_le (by simp)]
    exact attended

/-- Where a run has come to: the calls in progress, what was recorded, and what is stored now. -/
structure Stands (calls : List Call) (estate : Estate (List Juncture)) : Prop where
  underway : underway estate.outside = calls
  recorded : Recorded estate.outside
  attended : estate.Attended calls

theorem stands_jot {calls next : List Call} {call : Call} {before : Estate Unit} {stage : Stage}
    (underway : Landscape.underway estate.outside = calls) (recorded : Recorded estate.outside)
    (proceeds : Juncture.proceed calls ⟨call, before, stage, estate.amid ()⟩ = next)
    (attended : estate.Attended next) : (estate.jot call before stage).Stands next := by
  have now : Landscape.underway (estate.jot call before stage).outside = next := by
    rw [jot, onOutside, underway_append, underway, proceeds]
  refine ⟨now, ?_, attended⟩
  apply recorded_append recorded
  exact now.symm ▸ attended

end Estate

namespace Script

open Estate

theorem chronicle_stands (script : Script) {calls : List Call} (estate : Estate (List Juncture))
    (sound : estate.Sound) (stands : estate.Stands calls) :
    estate.Grows (script.chronicle estate) ∧ estate.Enrols (script.chronicle estate) ∧
      (script.chronicle estate).Stands calls := by
  -- along the tree of calls; a call that is heard of is in progress during the tree that its sink runs
  induction script generalizing estate calls with
  | done => exact ⟨grows_of_same rfl rfl, fun _ _ registered => registered, stands⟩
  | call wanted inner verdict rest hears goes =>
      have began := grows_jot estate wanted (estate.amid ()) .begins
      have started := began.sound sound
      have attended : (estate.jot wanted (estate.amid ()) .begins).Attended calls := stands.attended
      have begun : (estate.jot wanted (estate.amid ()) .begins).Stands (wanted :: calls) :=
        stands_jot stands.underway stands.recorded rfl
          (attended.wider (List.subset_cons_self wanted calls))
      have performed := wanted.perform_opening
        (jotting wanted (estate.amid ()) verdict inner.chronicle)
        (estate.jot wanted (estate.amid ()) .begins)
      have effect := wanted.opening_effect (estate.jot wanted (estate.amid ()) .begins)
      have enrolled : estate.Enrols (estate.jot wanted (estate.amid ()) .begins) :=
        fun _ _ registered => registered
      simp only [chronicle, performed]
      generalize estate.jot wanted (estate.amid ()) .begins = start at *
      cases opened : wanted.opening start with
      | ended answer after =>
          rw [opened] at effect
          have opens : wanted.Opens start after := effect
          have told : (after.jot wanted (estate.amid ()) (.answers answer)).Stands calls :=
            stands_jot (opens.outside ▸ begun.underway) (opens.outside ▸ begun.recorded) rfl
              (Call.ended_attended opened attended)
          have later := (began.trans opens.grows).trans (grows_jot after wanted (estate.amid ()) (.answers answer))
          obtain ⟨grows, enrols, last⟩ := goes _ (later.sound sound) told
          exact ⟨later.trans grows, enrolled.trans (Enrols.trans opens.enrols enrols), last⟩
      | handing sink event found close =>
          rw [opened] at effect
          have opens : wanted.Opens start found := effect.1
          have told : (found.jot wanted (estate.amid ()) (.hears sink event)).Stands (wanted :: calls) :=
            stands_jot (opens.outside ▸ begun.underway) (opens.outside ▸ begun.recorded) rfl
              (opens.attended attended)
          have heard := opens.grows.trans (grows_jot found wanted (estate.amid ()) (.hears sink event))
          obtain ⟨grown, more, inside⟩ := hears _ (heard.sound started) told
          simp only [Opening.finish, jotting]
          -- the estate that the sink leaves
          generalize inner.chronicle (found.jot wanted (estate.amid ()) (.hears sink event)) = left at *
          have between : start.Grows left := heard.trans grown
          have enrols : start.Enrols left := Enrols.trans opens.enrols more
          have closes : wanted.Closes start left (close verdict left).2 := effect.2 verdict left
          have settled := Call.closed_attended opened started attended between enrols inside.attended
            verdict
          have ended : Estate.Stands calls ((close verdict left).2.jot wanted (estate.amid ())
              (.answers (close verdict left).1)) :=
            stands_jot (closes.outside ▸ inside.underway) (closes.outside ▸ inside.recorded) rfl settled
          have later := ((began.trans between).trans (closes.grows started between)).trans
            (grows_jot _ wanted (estate.amid ()) (.answers (close verdict left).1))
          obtain ⟨grows, last, stood⟩ := goes _ (later.sound sound) ended
          exact ⟨later.trans grows,
            enrolled.trans (enrols.trans (Enrols.trans closes.enrols last)), stood⟩

end Script

namespace Juncture

open Estate

theorem Leads.enrols {former latter : Juncture} (leads : former.Leads latter) :
    former.now.Enrols latter.now := by
  cases leads with
  | opens start begun same now opened =>
      have opens : start.Enrols (former.call.opening start).reached :=
        (former.call.opening_effect start).reached.enrols
      rw [now, opened]
      exact opens
  | goesOn settled begins same =>
      rw [same]
      exact fun _ _ registered => registered
  | closes call start after final settled answered closed now later =>
      have closes : after.Enrols final := closed.enrols
      rw [now, later]
      exact closes

end Juncture

/-- All that is stored is in its place, was made for the model, and is registered unless one of these calls is
an addition of it. -/
def Estate.WellFormed {Outside : Type} (calls : List Call) (estate : Estate Outside) : Prop :=
  ∀ model kind id entity, estate.stored model kind id = some entity →
    id.isNil = false ∧ ∃ found, estate.entity? entity = some found ∧ found.kind = kind ∧
      found.id = id ∧ found.model = model ∧
      (found.isRegistered = true ∨ .add model entity ∈ calls)

theorem Estate.wellFormed_of_attended {Outside : Type} {calls : List Call} {estate : Estate Outside}
    (sound : estate.Sound) (attended : estate.Attended calls) : estate.WellFormed calls := by
  intro model kind id entity held
  obtain ⟨found, here, card⟩ := Option.map_eq_some_iff.mp (sound.placed model kind id entity held)
  refine ⟨sound.given model kind id entity held, found, here, congrArg Card.kind card,
    congrArg Card.id card, congrArg Card.model card, ?_⟩
  apply (attended model kind id entity held).imp_left
  rintro ⟨now, there, _, registered⟩
  obtain rfl := Option.some.inj (here.symm.trans there)
  exact registered

namespace Script

open Estate

theorem log_stands (script : Script) :
    (script.chronicle (.empty [])).Sound ∧ (script.chronicle (.empty [])).Stands [] := by
  have nothing : Estate.Stands [] (.empty []) := by
    refine ⟨rfl, ?_, ?_⟩
    · intro index juncture here
      cases here
    · intro model kind id entity held
      cases held
  obtain ⟨grows, _, stands⟩ := script.chronicle_stands (.empty []) (sound_empty []) nothing
  exact ⟨grows.sound (sound_empty []), stands⟩

/-- Whatever is run, and whatever the sinks refuse or call in turn: at every juncture all that is stored is an
entity of its kind and identity that was made for its model, no identity is nil, and an entity that is stored
but not registered is being added by a call in progress. In the end no call is in progress, so all that is
stored is registered. Who is registered at one juncture is registered at every later one. -/
theorem store_well_formed (script : Script) :
    (∀ (index : Nat) (juncture : Juncture), script.log[index]? = some juncture →
      juncture.now.WellFormed (underway (script.log.take (index + 1)))) ∧
    (underway script.log = [] ∧ (script.chronicle (.empty [])).WellFormed []) ∧
    ∀ (first last : Nat) (former latter : Juncture), first ≤ last →
      script.log[first]? = some former → script.log[last]? = some latter →
      former.now.Enrols latter.now := by
  obtain ⟨sound, idle, recorded, attended⟩ := script.log_stands
  refine ⟨?_, ⟨idle, wellFormed_of_attended sound attended⟩, ?_⟩
  · intro index juncture here
    obtain ⟨began, grows, _⟩ := script.log_founded (List.mem_of_getElem? here)
    exact wellFormed_of_attended (grows.sound began) (recorded index juncture here)
  · intro first last former latter ordered here there
    apply script.log_passes (fun juncture => former.now.Enrols juncture.now) here
      (fun _ _ registered => registered) ?_ last ordered le_rfl latter there
    intro _ _ _ _ _ _ _ leads enrols
    exact enrols.trans leads.enrols

/-- Two nodes of one identity are made. The sink that hears of the first one being added adds the second in
its place and deletes that, which is refused each time; then the first one is refused too. -/
def rebuffed : Script :=
  .call (.newModel (.made 0)) .done (.ok ()) <|
  .call (.newEntity ⟨0⟩ .node (.repeating 1)) .done (.ok ()) <|
  .call (.newEntity ⟨0⟩ .node (.repeating 1)) .done (.ok ()) <|
  .call (.add ⟨0⟩ ⟨0⟩)
    (.call (.add ⟨0⟩ ⟨1⟩)
      (.call (.delete ⟨0⟩ .node (.repeating 1)) .done (.error (.unsupportedPayload "node")) .done)
      (.error (.unsupportedPayload "node")) .done)
    (.error (.unsupportedPayload "node")) .done

theorem rebuffed_well_formed : ∃ juncture, rebuffed.log[13]? = some juncture ∧
    juncture.now.stored ⟨0⟩ .node (.repeating 1) = some ⟨0⟩ ∧
    (juncture.now.entity? ⟨0⟩).map Entity.isRegistered = some false ∧
    underway (rebuffed.log.take 14) = [.add ⟨0⟩ ⟨0⟩] ∧
    juncture.now.WellFormed [.add ⟨0⟩ ⟨0⟩] :=
  ⟨_, rfl, rfl, rfl, rfl, rebuffed.store_well_formed.1 13 _ rfl⟩

end Script

end Landscape

import Landscape.Proofs.Effect

/-!
What is so of every estate that calls can reach. What a store holds under an identity is an entity of that
model, kind and identity, and no store holds anything under the nil identity; an entity that is registered
has an identity; details are those of the kind; and a target that a slot knows has the identity that the
slot holds, alive or not. Entities keep their cards for good, so each of these needs to be checked only for
what a call writes.
-/

namespace Landscape

def Details.owner? : Details → Option Kind
  | plain => none
  | system _ _ => some .system
  | api _ _ => some .api
  | component _ _ _ => some .component
  | finding _ => some .finding

@[simp] theorem Details.owner_change (wanted : Change) (details : Details) :
    (details.change wanted).owner? = details.owner? := by
  cases wanted <;> cases details <;> rfl

/-- What is so of an entity among others that have these cards. -/
structure Entity.Well (cards : EntityRef → Option Card) (found : Entity) : Prop where
  given : found.isRegistered = true → found.id.isNil = false
  suited : found.details.owner? = (Details.blank found.kind).owner?
  aimed : ∀ slot link target, found.links slot = some link → link.target = some target →
    (cards target).map Card.id = some link.id

namespace Entity

variable {cards later : EntityRef → Option Card} {found : Entity}

theorem well_later (well : found.Well cards)
    (kept : ∀ entity card, cards entity = some card → later entity = some card) :
    found.Well later where
  given := well.given
  suited := well.suited
  aimed slot link target set known := by
    obtain ⟨card, there, same⟩ := Option.map_eq_some_iff.mp (well.aimed slot link target set known)
    exact Option.map_eq_some_iff.mpr ⟨card, kept target card there, same⟩

theorem well_new (model : ModelRef) (kind : Kind) (id : ResourceId) :
    (Entity.new model kind id).Well cards where
  given registered := by cases registered
  suited := rfl
  aimed _ _ _ set := by cases set

theorem well_change (well : found.Well cards) (wanted : Change) :
    (found.change wanted).Well cards := by
  have details := well.suited
  cases wanted with
  | displayName | description | summary => exact ⟨well.given, well.suited, well.aimed⟩
  | _ => exact ⟨well.given, (Details.owner_change _ _).trans details, well.aimed⟩

theorem well_setLink (well : found.Well cards) (slot : Slot) {link : Link}
    (aims : ∀ target, link.target = some target → (cards target).map Card.id = some link.id) :
    (found.setLink slot link).Well cards where
  given := well.given
  suited := well.suited
  aimed other held target set known := by
    by_cases same : other = slot
    · have own : link = held := by simpa [setLink, same] using set
      subst own
      exact aims target known
    · exact well.aimed other held target (by simpa [setLink, same] using set) known

theorem well_learnTarget (well : found.Well cards) {slot : Slot} {link : Link} {target : EntityRef}
    (set : found.links slot = some link) (aims : (cards target).map Card.id = some link.id) :
    (found.learnTarget slot target).Well cards := by
  simp only [learnTarget, set]
  apply well_setLink well
  rintro other ⟨⟩
  exact aims

theorem well_register (well : found.Well cards) (given : found.id.isNil = false) :
    found.register.Well cards :=
  ⟨fun _ => given, well.suited, well.aimed⟩

end Entity

namespace Estate

structure Sound {Outside : Type} (estate : Estate Outside) : Prop where
  registries : ∀ model kind, (estate.registry model kind).Sound
  placed : ∀ model kind id entity, estate.stored model kind id = some entity →
    estate.card? entity = some ⟨kind, id, model⟩
  given : ∀ model kind id entity, estate.stored model kind id = some entity → id.isNil = false
  well : ∀ entity found, estate.entity? entity = some found →
    found.Well fun other => estate.card? other

/-- Entities keep their cards, and what is sound stays sound. -/
structure Grows {Former Latter : Type} (before : Estate Former) (after : Estate Latter) : Prop where
  cards : ∀ entity card, before.card? entity = some card → after.card? entity = some card
  sound : before.Sound → after.Sound

variable {Outside : Type} {estate : Estate Outside}

theorem sound_empty (outside : Outside) : (empty outside).Sound where
  registries model kind := Registry.sound_empty
  placed _ _ _ _ held := by cases held
  given _ _ _ _ held := by cases held
  well _ _ here := by cases here

theorem Grows.trans {First Second Third : Type} {first : Estate First} {second : Estate Second}
    {third : Estate Third} (former : first.Grows second) (latter : second.Grows third) :
    first.Grows third :=
  ⟨fun entity card known => latter.cards entity card (former.cards entity card known),
    fun sound => latter.sound (former.sound sound)⟩

theorem grows_of_same {Former Latter : Type} {before : Estate Former} {after : Estate Latter}
    (entities : after.entities = before.entities) (models : after.models = before.models) :
    before.Grows after := by
  have entity : ∀ other, after.entity? other = before.entity? other := fun other => by
    rw [entity?, entities, entity?]
  have card : ∀ other, after.card? other = before.card? other := fun other => by
    rw [card?, entity, card?]
  have registry : ∀ model kind, after.registry model kind = before.registry model kind :=
    fun model kind => by rw [Estate.registry, model?, models, Estate.registry, model?]
  constructor
  · intro other known there
    exact (card other).trans there
  · intro sound
    constructor
    · intro model kind
      exact registry model kind ▸ sound.registries model kind
    · intro model kind id other held
      rw [stored, registry] at held
      exact (card other).trans (sound.placed model kind id other held)
    · intro model kind id other held
      rw [stored, registry] at held
      exact sound.given model kind id other held
    · intro other found here
      rw [entity] at here
      exact Entity.well_later (sound.well other found here) fun target known there =>
        (card target).trans there

theorem Beside.grows {after : Estate Outside} (beside : estate.Beside after) : estate.Grows after :=
  grows_of_same beside.entities beside.models

theorem grows_modifyEntity {entity : EntityRef} {change : Entity → Entity}
    (keeps : ∀ found, (change found).card = found.card)
    (stays : ∀ found, estate.Sound → estate.entity? entity = some found →
      found.Well (fun other => estate.card? other) →
      (change found).Well fun other => estate.card? other) :
    estate.Grows (estate.modifyEntity entity change) := by
  have card := fun other => card_modifyEntity estate entity other change keeps
  constructor
  · intro other known there
    exact (card other).trans there
  · intro sound
    refine ⟨sound.registries, ?_, sound.given, ?_⟩
    · intro model kind id other held
      exact (card other).trans (sound.placed model kind id other held)
    · intro other found here
      have kept : found.Well fun target => estate.card? target := by
        rw [entity_modifyEntity] at here
        by_cases same : other = entity
        · subst same
          rw [if_pos rfl] at here
          obtain ⟨former, there, rfl⟩ := Option.map_eq_some_iff.mp here
          exact stays former sound there (sound.well _ former there)
        · rw [if_neg same] at here
          exact sound.well other found here
      exact Entity.well_later kept fun target known there => (card target).trans there

theorem grows_setRegistry {model : ModelRef} {kind : Kind} {registry : Registry}
    (own : estate.Sound → registry.Sound)
    (belongs : estate.Sound → ∀ id entity, registry.get? id = some entity →
      estate.stored model kind id = some entity ∨
        (estate.card? entity = some ⟨kind, id, model⟩ ∧ id.isNil = false)) :
    estate.Grows (estate.setRegistry model kind registry) := by
  constructor
  · intro entity card known
    exact known
  intro sound
  -- a registry is the one that is written, or what it was before
  have either : ∀ other otherKind,
      ((other = model ∧ otherKind = kind) ∧
        (estate.setRegistry model kind registry).registry other otherKind = registry) ∨
      (estate.setRegistry model kind registry).registry other otherKind =
        estate.registry other otherKind := by
    intro other otherKind
    cases made : estate.model? model with
    | none => exact .inr (setRegistry_missing estate made other kind otherKind registry)
    | some owner =>
        have written := registry_setRegistry estate made other kind otherKind registry
        by_cases same : other = model ∧ otherKind = kind
        · exact .inl ⟨same, written.trans (if_pos same)⟩
        · exact .inr (written.trans (if_neg same))
  have held : ∀ other otherKind id entity,
      (estate.setRegistry model kind registry).stored other otherKind id = some entity →
      estate.card? entity = some ⟨otherKind, id, other⟩ ∧ id.isNil = false := by
    have former : ∀ other otherKind id entity, estate.stored other otherKind id = some entity →
        estate.card? entity = some ⟨otherKind, id, other⟩ ∧ id.isNil = false :=
      fun _ _ _ _ present => ⟨sound.placed _ _ _ _ present, sound.given _ _ _ _ present⟩
    intro other otherKind id entity present
    rcases either other otherKind with ⟨⟨rfl, rfl⟩, written⟩ | kept
    · rw [stored, written] at present
      rcases belongs sound id entity present with before | new
      · exact former _ _ id entity before
      · exact new
    · rw [stored, kept] at present
      exact former _ _ id entity present
  constructor
  · intro other otherKind
    rcases either other otherKind with ⟨_, written⟩ | kept
    · rw [written]
      exact own sound
    · rw [kept]
      exact sound.registries other otherKind
  · intro other otherKind id entity present
    exact (held other otherKind id entity present).1
  · intro other otherKind id entity present
    exact (held other otherKind id entity present).2
  · exact sound.well

theorem entity_addEntity {entity : EntityRef} {found : Entity} (new : Entity)
    (here : estate.entity? entity = some found) :
    (estate.addEntity new).2.entity? entity = some found :=
  (List.getElem?_append_left (List.getElem?_eq_some_iff.mp here).1).trans here

theorem grows_addEntity {new : Entity} (well : new.Well fun other => estate.card? other) :
    estate.Grows (estate.addEntity new).2 := by
  have cards : ∀ entity card, estate.card? entity = some card →
      (estate.addEntity new).2.card? entity = some card := by
    intro entity card known
    obtain ⟨found, here, same⟩ := Option.map_eq_some_iff.mp known
    exact Option.map_eq_some_iff.mpr ⟨found, entity_addEntity new here, same⟩
  refine ⟨cards, ?_⟩
  intro sound
  refine ⟨sound.registries, ?_, sound.given, ?_⟩
  · intro model kind id entity held
    exact cards entity _ (sound.placed model kind id entity held)
  · intro entity found here
    apply Entity.well_later _ cards
    rcases List.mem_append.mp (List.mem_of_getElem? here) with former | last
    · obtain ⟨index, inside, same⟩ := List.mem_iff_getElem.mp former
      exact sound.well ⟨index⟩ found (List.getElem?_eq_some_iff.mpr ⟨inside, same⟩)
    · obtain rfl := List.mem_singleton.mp last
      exact well

theorem grows_addModel (sink : SinkRef) : estate.Grows (estate.addModel (.new sink)).2 := by
  constructor
  · intro entity card known
    exact known
  intro sound
  -- the new model, or one that is still missing, has empty registries
  have either : ∀ model kind,
      (estate.addModel (.new sink)).2.registry model kind = estate.registry model kind ∨
        (estate.addModel (.new sink)).2.registry model kind = .empty := by
    intro model kind
    by_cases inside : model.index < estate.models.length
    · left
      have same : (estate.addModel (.new sink)).2.model? model = estate.model? model :=
        List.getElem?_append_left inside
      rw [Estate.registry, same, Estate.registry]
    · right
      have added : (estate.addModel (.new sink)).2.model? model =
          [Model.new sink][model.index - estate.models.length]? :=
        List.getElem?_append_right (Nat.le_of_not_lt inside)
      rw [Estate.registry, added]
      cases model.index - estate.models.length <;> rfl
  have held : ∀ model kind id entity,
      (estate.addModel (.new sink)).2.stored model kind id = some entity →
      estate.stored model kind id = some entity := by
    intro model kind id entity present
    rcases either model kind with kept | fresh
    · rw [stored, ← kept]
      exact present
    · rw [stored, fresh] at present
      cases present
  constructor
  · intro model kind
    rcases either model kind with kept | fresh
    · exact kept ▸ sound.registries model kind
    · exact fresh ▸ Registry.sound_empty
  · intro model kind id entity present
    exact sound.placed model kind id entity (held model kind id entity present)
  · intro model kind id entity present
    exact sound.given model kind id entity (held model kind id entity present)
  · exact sound.well

theorem namedTarget_placed (sound : estate.Sound) {entity target : EntityRef} {slot : Slot}
    {id : ResourceId} (named : estate.namedTarget entity slot id = some target) :
    (estate.card? target).map Card.id = some id := by
  obtain ⟨found, _, typed⟩ := Option.bind_eq_some_iff.mp named
  obtain ⟨kind, _, present⟩ := Option.bind_eq_some_iff.mp typed
  unfold storedFor at present
  split at present
  · rw [sound.placed found.model kind id target present]
    rfl
  · cases present

theorem bindSlot_grows (entity : EntityRef) (entry : Slot × Kind) (estate : Estate Outside) :
    estate.Grows (estate.bindSlot entity entry) := by
  have still : estate.Grows estate := (Beside.refl estate).grows
  unfold bindSlot
  split
  · exact still
  · next found here =>
      split
      · exact still
      · next link set =>
          split
          · exact still
          · split
            · exact still
            · next target present =>
                apply grows_modifyEntity (card_learnTarget entry.1 target)
                intro former sound there well
                obtain rfl : found = former := Option.some.inj (here.symm.trans there)
                apply Entity.well_learnTarget well set
                have placed := sound.placed found.model entry.2 link.id target present
                exact congrArg (Option.map Card.id) placed

theorem bindSlots_grows (entity : EntityRef) (estate : Estate Outside) :
    estate.Grows (estate.bindSlots entity) := by
  unfold bindSlots
  split
  · exact (Beside.refl estate).grows
  · next found here =>
      clear here
      generalize found.kind.slots = entries
      induction entries generalizing estate with
      | nil => exact (Beside.refl estate).grows
      | cons entry rest ih => exact (bindSlot_grows entity entry estate).trans (ih _)

end Estate

namespace Call

open Estate

variable {Outside : Type} {estate after now final : Estate Outside} {call : Call}

theorem Modifies.grows {entity : EntityRef} {change : Entity → Entity}
    (modifies : call.Modifies estate entity change) :
    estate.Grows (estate.modifyEntity entity change) := by
  cases modifies with
  | change _ wanted =>
      apply grows_modifyEntity fun found => (card_change wanted found).1
      intro found sound here well
      exact Entity.well_change well wanted
  | pointById _ slot id =>
      refine grows_modifyEntity (fun found => (card_setLink slot _ found).1) ?_
      intro found sound here well
      apply Entity.well_setLink well
      intro target named
      exact namedTarget_placed sound named
  | pointAt _ slot there =>
      refine grows_modifyEntity (fun found => (card_setLink slot _ found).1) ?_
      intro found sound here well
      apply Entity.well_setLink well
      rintro target ⟨⟩
      rw [card?, there]
      rfl
  | follow here set typed unknown present =>
      apply grows_modifyEntity (card_learnTarget _ _)
      intro found sound there well
      obtain rfl := Option.some.inj (here.symm.trans there)
      apply Entity.well_learnTarget well set
      exact congrArg (Option.map Card.id) (sound.placed _ _ _ _ present)
  | annotate | unannotate =>
      refine grows_modifyEntity (fun found => rfl) ?_
      intro found sound here well
      exact ⟨well.given, well.suited, well.aimed⟩

theorem Alters.grows (alters : call.Alters estate now) : estate.Grows now := by
  cases alters with
  | nothing => exact (Beside.refl estate).grows
  | modifies modifies => exact modifies.grows
  | @enters model owner entity found here made given own =>
      have bound := bindSlots_grows entity estate
      apply bound.trans
      apply grows_setRegistry
      · intro sound
        exact Registry.sound_insert (sound.registries model found.kind) found.id entity
      · intro _ id other present
        rw [Registry.get_insert] at present
        split at present
        · next same =>
            obtain rfl := Option.some.inj present
            have card : estate.card? entity = some ⟨found.kind, id, model⟩ := by
              rw [card?, here, same, ← own]
              rfl
            exact .inr ⟨bound.cards entity _ card, same ▸ given⟩
        · exact .inl present
  | @withdraws model owner kind id made =>
      apply grows_setRegistry
      · intro sound
        exact Registry.sound_remove (sound.registries model kind) id
      · intro _ other entity present
        rw [Registry.get_remove] at present
        split at present
        · cases present
        · exact .inl present
  | lists model kind =>
      apply grows_setRegistry
      · intro sound
        exact Registry.sound_list (sound.registries model kind)
      · intro _ id entity present
        exact .inl ((Registry.get_list id (estate.registry model kind)).symm.trans present)
  | makesEntity model kind id => exact grows_addEntity (Entity.well_new model kind id)
  | makesModel sink => exact grows_addModel sink

theorem Settles.grows (settles : call.Settles estate after final) (sound : estate.Sound)
    (between : estate.Grows after) : after.Grows final := by
  cases settles with
  | nothing => exact (Beside.refl after).grows
  | @registers model entity found here given =>
      refine grows_modifyEntity (fun _ => rfl) ?_
      intro now _ there well
      apply Entity.well_register well
      have card : after.card? entity = some found.card :=
        between.cards entity _ (by rw [card?, here]; rfl)
      rw [card?, there] at card
      have id : now.id = found.id := congrArg Card.id (Option.some.inj card)
      rw [id]
      exact given
  | restores call model kind id =>
      apply grows_setRegistry
      · intro later
        exact Registry.sound_restore (later.registries model kind) id _
      · intro _ other entity present
        rw [Registry.get_restore] at present
        split at present
        · next same =>
            subst same
            exact .inr ⟨between.cards _ _ (sound.placed _ _ _ _ present), sound.given _ _ _ _ present⟩
        · exact .inl present

theorem Opens.grows (opens : call.Opens estate now) : estate.Grows now := by
  obtain ⟨middle, alters, beside⟩ := opens
  exact alters.grows.trans beside.grows

theorem Closes.grows (closes : call.Closes estate after final) (sound : estate.Sound)
    (between : estate.Grows after) : after.Grows final := by
  obtain ⟨middle, settles, beside⟩ := closes
  exact (settles.grows sound between).trans beside.grows

theorem Opens.outside (opens : call.Opens estate now) : now.outside = estate.outside := by
  obtain ⟨middle, alters, beside⟩ := opens
  refine beside.outside.trans ?_
  cases alters with
  | enters => exact (undisturbed_bindSlots _ estate).2
  | _ => rfl

theorem Closes.outside (closes : call.Closes estate after final) : final.outside = after.outside := by
  obtain ⟨middle, settles, beside⟩ := closes
  refine beside.outside.trans ?_
  cases settles <;> rfl

end Call

end Landscape

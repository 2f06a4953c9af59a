import Landscape.Proofs.Chronicle

/-!
Lists of what is stored. A registry keeps a list once it was asked for, and every write that changes what is
stored drops it, also the one that puts back what a refused write had changed. So at every juncture of a run
a list that is kept arranges what is stored, and no list holds on to an entity that is not stored any more:
what keeps an entity alive is a hold, a store or a sink.
-/

namespace Landscape

namespace Estate

variable {Outside : Type} {estate : Estate Outside} {model : ModelRef} {kind : Kind}
  {listed : List EntityRef}

/-- The list has every stored entity of the kind once and nothing else. -/
def Arranges (estate : Estate Outside) (model : ModelRef) (kind : Kind) (listed : List EntityRef) :
    Prop :=
  listed.Nodup ∧ ∀ entity, entity ∈ listed ↔ ∃ id, estate.stored model kind id = some entity

/-- Lists are what is stored, and stored entities are all that models hold on to. -/
structure Coherent (estate : Estate Outside) : Prop where
  kept : ∀ model kind listed, (estate.registry model kind).kept = some listed →
    estate.Arranges model kind listed
  rebuilt : ∀ model kind, estate.Arranges model kind (estate.registry model kind).members
  answered : ∀ model kind, estate.Arranges model kind (estate.listOf model kind).1
  holds : ∀ model owner, estate.model? model = some owner → ∀ entity,
    entity ∈ owner.holds ↔ ∃ kind id, estate.stored model kind id = some entity
  lives : ∀ entity, estate.entityLives entity = true ↔
    .entity entity ∈ estate.held ∨
      (∃ model kind id, estate.modelLives model = true ∧
        estate.stored model kind id = some entity) ∨
      ∃ sink ∈ estate.livingSinks, entity ∈ estate.sinkHolds sink

theorem arranges_members (sound : estate.Sound) (model : ModelRef) (kind : Kind) :
    estate.Arranges model kind (estate.registry model kind).members := by
  have registry := sound.registries model kind
  refine ⟨Registry.members_nodup registry ?_, Registry.mem_members_iff registry⟩
  intro id other entity former latter
  have here := sound.placed model kind id entity former
  have there := sound.placed model kind other entity latter
  exact congrArg Card.id (Option.some.inj (here.symm.trans there))

theorem Arranges.of_perm {other : List EntityRef} (arranges : estate.Arranges model kind listed)
    (same : other.Perm listed) : estate.Arranges model kind other :=
  ⟨same.nodup_iff.mpr arranges.1, fun entity => same.mem_iff.trans (arranges.2 entity)⟩

theorem mem_holds_iff (sound : estate.Sound) {owner : Model}
    (made : estate.model? model = some owner) (entity : EntityRef) :
    entity ∈ owner.holds ↔ ∃ kind id, estate.stored model kind id = some entity := by
  -- a list that is kept adds nothing to the members, as it arranges them
  have lists : ∀ kind, entity ∈ (owner.registries kind).members ++
      (owner.registries kind).kept.getD [] ↔ ∃ id, estate.stored model kind id = some entity := by
    intro kind
    have members := arranges_members sound model kind
    rw [← registry_of_model made kind, ← members.2 entity, List.mem_append]
    constructor
    · rintro (member | kept)
      · exact member
      · cases keeps : (estate.registry model kind).kept with
        | none =>
            rw [keeps] at kept
            cases kept
        | some listed =>
            rw [keeps] at kept
            exact ((sound.registries model kind).kept listed keeps).mem_iff.mp kept
    · exact .inl
  simp only [Model.holds, List.mem_flatMap, lists]
  constructor
  · rintro ⟨kind, _, held⟩
    exact ⟨kind, held⟩
  · rintro ⟨kind, held⟩
    exact ⟨kind, kind.mem_all, held⟩

theorem lives_iff (sound : estate.Sound) (entity : EntityRef) :
    estate.entityLives entity = true ↔
      .entity entity ∈ estate.held ∨
        (∃ model kind id, estate.modelLives model = true ∧
          estate.stored model kind id = some entity) ∨
        ∃ sink ∈ estate.livingSinks, entity ∈ estate.sinkHolds sink := by
  have outside : entity ∈ estate.heldEntities ↔ .entity entity ∈ estate.held := by
    rw [heldEntities, List.mem_filterMap]
    constructor
    · rintro ⟨holding, held, same⟩
      cases holding <;> cases same
      exact held
    · intro held
      exact ⟨_, held, rfl⟩
  have inside : entity ∈ estate.livingModels.flatMap Model.holds ↔
      ∃ model kind id, estate.modelLives model = true ∧
        estate.stored model kind id = some entity := by
    rw [List.mem_flatMap]
    constructor
    · rintro ⟨owner, living, held⟩
      obtain ⟨model, lives, made⟩ := mem_livingModels.mp living
      obtain ⟨kind, id, stored⟩ := (mem_holds_iff sound made entity).mp held
      exact ⟨model, kind, id, lives, stored⟩
    · rintro ⟨model, kind, id, lives, stored⟩
      obtain ⟨owner, made⟩ := made_of_stored stored
      exact ⟨owner, mem_livingModels.mpr ⟨model, lives, made⟩,
        (mem_holds_iff sound made entity).mpr ⟨kind, id, stored⟩⟩
  rw [entityLives, List.contains_iff_mem, livingEntities, List.mem_append, List.mem_append, outside,
    inside, List.mem_flatMap, or_assoc]

theorem coherent_of_sound (sound : estate.Sound) : estate.Coherent where
  kept _ _ _ keeps :=
    (arranges_members sound _ _).of_perm ((sound.registries _ _).kept _ keeps)
  rebuilt := arranges_members sound
  answered model kind :=
    (arranges_members sound model kind).of_perm (Registry.listed_perm (sound.registries model kind))
  holds _ _ made := mem_holds_iff sound made
  lives := lives_iff sound

end Estate

theorem Juncture.Founded.listed {juncture : Juncture} (founded : juncture.Founded) {model : ModelRef}
    {kind : Kind} {listed : List EntityRef} (asks : juncture.call = .list model kind)
    (answers : juncture.stage = .answers (.entities listed)) :
    juncture.now.Arranges model kind listed := by
  obtain ⟨sound, _, reaches⟩ := founded
  obtain ⟨call, before, stage, now⟩ := juncture
  obtain rfl : call = .list model kind := asks
  cases reaches with
  | begins | hears => cases answers
  | @ended start after _ opened =>
      cases opened
      cases answers
      have started : start.Sound := (Estate.grows_unseen start).sound sound
      have same := ((Estate.undisturbed_listOf model kind start).1 model).stored kind
      obtain ⟨nodup, members⟩ := (Estate.coherent_of_sound started).answered model kind
      refine ⟨nodup, fun entity => (members entity).trans ?_⟩
      exact exists_congr fun id => by rw [← same id]; rfl
  | closes opened => cases opened

/-- Whatever is run, and whatever the sinks list, call or refuse in turn: at every juncture a list that is
kept, one that is made anew and one that is answered each have exactly what is stored, nothing of it twice.
A model holds on to what it stores and to nothing else, so an entity lives only if it is held, stored in a
model that lives, or held by a living sink. A deletion of an identity that is not stored is refused and
changes nothing, not even a list that is kept. -/
theorem Script.lists_coherent (script : Script) {juncture : Juncture} (member : juncture ∈ script.log) :
    juncture.now.Coherent ∧
      (∀ model kind listed, juncture.call = .list model kind →
        juncture.stage = .answers (.entities listed) → juncture.now.Arranges model kind listed) ∧
      ∀ (deliver : Deliver Unit) model owner kind id, juncture.now.model? model = some owner →
        juncture.now.stored model kind id = none →
        juncture.now.delete deliver model kind id =
          (.error (.notFound (.entity kind) id), juncture.now) := by
  have founded := script.log_founded member
  refine ⟨Estate.coherent_of_sound (founded.grows.sound founded.sound), ?_, ?_⟩
  · intro model kind listed asks answers
    exact founded.listed asks answers
  · intro deliver model owner kind id made absent
    exact Estate.delete_absent deliver made absent

def glimpsed : Script :=
  .call (.newModel (.made 0)) .done (.ok ()) <|
  .call (.newEntity ⟨0⟩ .node (.repeating 3)) .done (.ok ()) <|
  .call (.newEntity ⟨0⟩ .node (.repeating 3)) .done (.ok ()) <|
  .call (.add ⟨0⟩ ⟨0⟩) .done (.ok ()) <|
  .call (.list ⟨0⟩ .node) .done (.ok ()) <|
  .call (.add ⟨0⟩ ⟨1⟩) (.call (.list ⟨0⟩ .node) .done (.ok ()) .done)
    (.error (.unsupportedPayload "node")) .done

/-- The list in between has the second node, and once that was refused the first one is stored again and no
list is kept. -/
theorem glimpsed_coherent : ∃ between later,
    glimpsed.log[14]? = some between ∧ glimpsed.log[15]? = some later ∧
      between.call = .list ⟨0⟩ .node ∧ between.stage = .answers (.entities [⟨1⟩]) ∧
      (between.now.registry ⟨0⟩ .node).kept = some [⟨1⟩] ∧
      between.now.Arranges ⟨0⟩ .node [⟨1⟩] ∧
      later.now.stored ⟨0⟩ .node (.repeating 3) = some ⟨0⟩ ∧
      (later.now.registry ⟨0⟩ .node).kept = none ∧ later.now.Coherent := by
  refine ⟨_, _, rfl, rfl, rfl, rfl, rfl, ?_, rfl, rfl, ?_⟩
  · exact (glimpsed.lists_coherent (List.mem_of_getElem? (i := 14) rfl)).2.1 _ _ _ rfl rfl
  · exact (glimpsed.lists_coherent (List.mem_of_getElem? (i := 15) rfl)).1

end Landscape

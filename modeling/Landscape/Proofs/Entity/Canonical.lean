import Landscape.Proofs.Records
import Landscape.Proofs.Store.Shelf
import Landscape.Proofs.Text.Bytes
import Landscape.Proofs.Wire

/-!
The text of an entity is canonical. It tells the identity, the name, the description and the annotations,
and nothing else decides about it: not the kind, not the model, not the order in which annotations were
written, and not the order in which a map of them happens to be walked, since they are sorted by the bytes of
their keys. Each annotation is told once.
-/

namespace Landscape

namespace Records

/-- The pairs of a map, each once, in some order. -/
structure Lists (records : Records) (listing : List (String × String)) : Prop where
  distinct : (listing.map Prod.fst).Nodup
  pairs : ∀ key value, (key, value) ∈ listing ↔ records.get? key = some value

def precedes (former latter : String × String) : Bool :=
  decide (Text.bytes former.1 < Text.bytes latter.1 ∨
    former.1 = latter.1 ∧ Text.bytes former.2 ≤ Text.bytes latter.2)

theorem lists_pairs (records : Records) : records.Lists records.pairs where
  distinct := records.keys_nodup
  pairs := records.mem_pairs_iff

theorem Lists.perm {records : Records} {listing : List (String × String)}
    (lists : records.Lists listing) : listing.Perm records.pairs := by
  refine (List.perm_ext_iff_of_nodup lists.distinct.of_map records.nodup_pairs).mpr ?_
  rintro ⟨key, value⟩
  rw [lists.pairs, records.mem_pairs_iff]

theorem precedes_iff (former latter : String × String) :
    precedes former latter = true ↔
      former.1 < latter.1 ∨ former.1 = latter.1 ∧ former.2 ≤ latter.2 := by
  rw [precedes, decide_eq_true_iff, Text.bytes_lt_iff, ← List.not_lt, Text.bytes_lt_iff, String.not_lt]

theorem precedes_trans (first second third : String × String) (former : precedes first second = true)
    (latter : precedes second third = true) : precedes first third = true := by
  rw [precedes_iff] at former latter ⊢
  rcases former with less | ⟨same, values⟩
  · rcases latter with lesser | ⟨alike, _⟩
    · exact .inl (String.lt_trans less lesser)
    · exact .inl (alike ▸ less)
  · rcases latter with lesser | ⟨alike, others⟩
    · exact .inl (same ▸ lesser)
    · exact .inr ⟨same.trans alike, String.le_trans values others⟩

theorem precedes_total (former latter : String × String) :
    (precedes former latter || precedes latter former) = true := by
  rw [Bool.or_eq_true, precedes_iff, precedes_iff]
  by_cases less : former.1 < latter.1
  · exact .inl (.inl less)
  · by_cases greater : latter.1 < former.1
    · exact .inr (.inl greater)
    · have same : former.1 = latter.1 := String.le_antisymm greater less
      rcases String.le_total former.2 latter.2 with values | values
      · exact .inl (.inr ⟨same, values⟩)
      · exact .inr (.inr ⟨same.symm, values⟩)

theorem precedes_antisymm {former latter : String × String} (before : precedes former latter = true)
    (after : precedes latter former = true) : former = latter := by
  rw [precedes_iff] at before after
  rcases before with less | ⟨same, values⟩
  · rcases after with greater | ⟨same, _⟩
    · exact absurd greater (String.lt_asymm less)
    · exact absurd same.symm (String.ne_of_lt less)
  · rcases after with greater | ⟨_, others⟩
    · exact absurd same.symm (String.ne_of_lt greater)
    · exact Prod.ext same (String.le_antisymm values others)

/-- Whatever the order in which a map is walked, its pairs are sorted into the same list. -/
theorem sorted_eq {records : Records} {listing : List (String × String)}
    (lists : records.Lists listing) : listing.mergeSort precedes = records.pairs := by
  have sorted : (listing.mergeSort precedes).Pairwise fun former latter => precedes former latter = true :=
    List.pairwise_mergeSort precedes_trans precedes_total listing
  have ascending : records.pairs.Pairwise fun former latter => precedes former latter = true :=
    records.ascending.imp fun before => (precedes_iff _ _).mpr (.inl before)
  exact List.Perm.eq_of_pairwise (fun _ _ _ _ => precedes_antisymm) sorted ascending
    ((List.mergeSort_perm listing precedes).trans lists.perm)

theorem ext_get {first second : Records} (same : ∀ key, first.get? key = second.get? key) :
    first = second := by
  have lists : second.Lists first.pairs :=
    ⟨first.lists_pairs.distinct, fun key value => by rw [mem_pairs_iff, same]⟩
  have pairs : first.pairs = second.pairs :=
    (sorted_eq first.lists_pairs).symm.trans (sorted_eq lists)
  cases first
  cases second
  cases pairs
  rfl

end Records

/-- Entities of the same identity, name, description and annotations, whatever else they are. -/
structure Entity.TellsAs (found besides : Entity) : Prop where
  id : found.id = besides.id
  displayName : found.displayName = besides.displayName
  description : found.description = besides.description
  annotations : ∀ key, found.annotations.get? key = besides.annotations.get? key

namespace Entity

theorem told_description_inj {former latter : String}
    (same : (if former = "" then none else some former) = (if latter = "" then none else some latter)) :
    former = latter := by
  by_cases empty : former = "" <;> by_cases blank : latter = "" <;> simp_all

theorem entry_injective :
    Function.Injective fun pair : String × String => AnnotationEntry.mk pair.1 pair.2 := by
  intro former latter same
  exact Prod.ext (congrArg AnnotationEntry.key same) (congrArg AnnotationEntry.value same)

theorem snapshot_eq_iff (found besides : Entity) :
    found.snapshot = besides.snapshot ↔ found.TellsAs besides := by
  constructor
  · intro same
    have pairs : found.annotations.pairs = besides.annotations.pairs :=
      List.map_injective_iff.mpr entry_injective (congrArg Snapshot.annotations same)
    exact ⟨congrArg Snapshot.id same, congrArg Snapshot.displayName same,
      told_description_inj (congrArg Snapshot.description same),
      fun key => by rw [Records.get?, pairs, Records.get?]⟩
  · intro alike
    rw [snapshot, snapshot, alike.id, alike.displayName, alike.description,
      Records.ext_get alike.annotations]

/-- Texts are equal when what they tell is. -/
theorem wire_eq_iff (found besides : Entity) :
    found.snapshot.wire = besides.snapshot.wire ↔ found.TellsAs besides := by
  rw [← snapshot_eq_iff, ← Snapshot.codec_wire]
  exact (Snapshot.codec Json.codec ResourceId.codec).write_inj

theorem rendered_eq {entityAt : EntityRef → Option Entity} {entity : EntityRef} {found : Entity}
    (here : entityAt entity = some found) :
    (Payload.resource entity).rendered entityAt = .ok found.snapshot.wire := by
  rw [Payload.rendered, Payload.renderedBy, here]
  rfl

theorem count_annotations (found : Entity) (key value : String) :
    found.snapshot.annotations.count ⟨key, value⟩ =
      if found.annotations.get? key = some value then 1 else 0 := by
  have once : found.snapshot.annotations.Nodup := found.annotations.nodup_pairs.map entry_injective
  have told : (⟨key, value⟩ : AnnotationEntry) ∈ found.snapshot.annotations ↔
      found.annotations.get? key = some value := by
    rw [← Records.mem_pairs_iff]
    exact List.mem_map_of_injective entry_injective (a := (key, value))
  rw [once.count]
  simp only [told]

/-- Two entities of any kinds, in any models of any estates and with any past, have the same text if and only
if they have the same identity, name, description and annotations. The text of an entity reads back with its
annotations ascending in the code points and in the bytes of their keys, each of them once and nothing else;
sorting them gives that same order, whatever the order in which they are found. -/
theorem rendering_canonical {Outside Other : Type} {estate : Estate Outside} {elsewhere : Estate Other}
    {entity another : EntityRef} {found besides : Entity} (here : estate.entity? entity = some found)
    (there : elsewhere.entity? another = some besides) :
    ((Payload.resource entity).rendered estate.entity? =
        (Payload.resource another).rendered elsewhere.entity? ↔ found.TellsAs besides) ∧
    ∃ snapshot, (Payload.resource entity).rendered estate.entity? = .ok snapshot.wire ∧
      Snapshot.ofWire? snapshot.wire = some snapshot ∧
      (snapshot.annotations.map AnnotationEntry.key).Pairwise (fun former latter =>
        former < latter ∧ Text.bytes former < Text.bytes latter) ∧
      (∀ key value, snapshot.annotations.count ⟨key, value⟩ =
        if found.annotations.get? key = some value then 1 else 0) ∧
      ∀ listing, found.annotations.Lists listing →
        snapshot.annotations = (listing.mergeSort Records.precedes).map fun pair => ⟨pair.1, pair.2⟩ := by
  refine ⟨?_, found.snapshot, rendered_eq here, found.snapshot.ofWire_wire, ?_, found.count_annotations, ?_⟩
  · rw [rendered_eq here, rendered_eq there, Except.ok.injEq, wire_eq_iff]
  · rw [snapshot, List.map_map, List.pairwise_map]
    exact found.annotations.ascending.imp fun before => ⟨before, Text.bytes_lt_iff.mpr before⟩
  · intro listing lists
    rw [Records.sorted_eq lists, snapshot]

end Entity

def agreeing : Deliver Unit := fun _ _ estate => (.ok (), estate)

def plainPast : List Call :=
  [.newModel (.made 0), .newEntity ⟨0⟩ .system (.repeating 1), .annotate (.ofEntity ⟨0⟩) "tier" "1",
    .annotate (.ofEntity ⟨0⟩) "zone" "a"]

def windingPast : List Call :=
  [.newModel (.made 0), .newModel (.made 1), .newEntity ⟨1⟩ .node (.repeating 1),
    .annotate (.ofEntity ⟨0⟩) "zone" "b", .annotate (.ofEntity ⟨0⟩) "old" "x",
    .annotate (.ofEntity ⟨0⟩) "zone" "a", .unannotate (.ofEntity ⟨0⟩) "old",
    .annotate (.ofEntity ⟨0⟩) "tier" "1"]

def wellNoted (model : ModelRef) (kind : Kind) : Entity :=
  { Entity.new model kind (.repeating 1) with
    annotations := (Records.empty.insert "tier" "1").insert "zone" "a" }

/-- Both have the same text, which tells the two notes, and not the one that was removed. -/
theorem winding_past_told_alike : ∃ snapshot : Snapshot,
    (performAll agreeing plainPast (.empty ())).entity? ⟨0⟩ = some (wellNoted ⟨0⟩ .system) ∧
    (performAll agreeing windingPast (.empty ())).entity? ⟨0⟩ = some (wellNoted ⟨1⟩ .node) ∧
    (Payload.resource ⟨0⟩).rendered (performAll agreeing plainPast (.empty ())).entity? =
      .ok snapshot.wire ∧
    (Payload.resource ⟨0⟩).rendered (performAll agreeing plainPast (.empty ())).entity? =
      (Payload.resource ⟨0⟩).rendered (performAll agreeing windingPast (.empty ())).entity? ∧
    snapshot.annotations.count ⟨"zone", "a"⟩ = 1 ∧ snapshot.annotations.count ⟨"old", "x"⟩ = 0 := by
  have here : (performAll agreeing plainPast (.empty ())).entity? ⟨0⟩ = some (wellNoted ⟨0⟩ .system) := rfl
  have there : (performAll agreeing windingPast (.empty ())).entity? ⟨0⟩ = some (wellNoted ⟨1⟩ .node) := rfl
  obtain ⟨same, snapshot, rendered, _, _, counted, _⟩ := Entity.rendering_canonical here there
  have alike : (wellNoted ⟨0⟩ .system).TellsAs (wellNoted ⟨1⟩ .node) := ⟨rfl, rfl, rfl, fun _ => rfl⟩
  exact ⟨snapshot, here, there, rendered, same.mpr alike, counted "zone" "a", counted "old" "x"⟩

end Landscape

import Landscape.Registry
import Mathlib.Data.List.Nodup

/-!
Registries as finite maps. An entry is read back under its own identity and every other identity keeps
what it had; a list that is kept arranges exactly what is stored. A registry is written at one identity
at a time, so that one rule for each kind of write says all there is to know about it.
-/

namespace Landscape.Registry

theorem get_without (id other : ResourceId) (entries : List (ResourceId × EntityRef)) :
    ((without id entries).find? fun entry => entry.1 = other) =
      if other = id then none else entries.find? fun entry => entry.1 = other := by
  by_cases same : other = id
  · subst same
    simp [without]
  · rw [without, List.find?_filter, if_neg same]
    congr 1
    funext entry
    by_cases hit : entry.1 = other
    · simp [hit, same]
    · simp [hit]

theorem get_insert (id other : ResourceId) (entity : EntityRef) (registry : Registry) :
    (registry.insert id entity).get? other =
      if other = id then some entity else registry.get? other := by
  rw [get?, insert, List.find?_append, get_without]
  by_cases same : other = id
  · simp [same]
  · simp [same, Ne.symm same, get?]

theorem get_remove (id other : ResourceId) (registry : Registry) :
    (registry.remove id).get? other = if other = id then none else registry.get? other := by
  unfold remove
  split
  next held =>
    by_cases same : other = id
    · simp [same, held]
    · simp [same]
  next =>
    rw [get?, get_without]
    by_cases same : other = id <;> simp [same, get?]

theorem get_restore (id other : ResourceId) (previous : Option EntityRef) (registry : Registry) :
    (registry.restore id previous).get? other =
      if other = id then previous else registry.get? other := by
  cases previous with
  | none => exact get_remove id other registry
  | some entity => exact get_insert id other entity registry

theorem get_list (id : ResourceId) (registry : Registry) :
    registry.list.2.get? id = registry.get? id := by
  unfold list
  split <;> rfl

theorem list_list (registry : Registry) : registry.list.2.list.2 = registry.list.2 := by
  cases kept : registry.kept with
  | none => simp [list, kept]
  | some entities => simp [list, kept]

/-- Every identity is stored once, and the kept list arranges what is stored. -/
structure Sound (registry : Registry) : Prop where
  unique : (registry.entries.map Prod.fst).Nodup
  kept : ∀ entities, registry.kept = some entities → entities.Perm registry.members

theorem sound_empty : empty.Sound where
  unique := List.nodup_nil
  kept := by simp [empty]

theorem sound_insert {registry : Registry} (sound : registry.Sound) (id : ResourceId)
    (entity : EntityRef) : (registry.insert id entity).Sound where
  unique := by
    have others : ((without id registry.entries).map Prod.fst).Nodup :=
      sound.unique.sublist (List.filter_sublist.map Prod.fst)
    have fresh : id ∉ (without id registry.entries).map Prod.fst := by
      simp [without]
    rw [insert, List.map_append]
    refine others.append (List.nodup_singleton id) fun other member last => fresh ?_
    have same : other = id := List.mem_singleton.mp last
    exact same ▸ member
  kept := by simp [insert]

theorem sound_remove {registry : Registry} (sound : registry.Sound) (id : ResourceId) :
    (registry.remove id).Sound := by
  unfold remove
  split
  · exact sound
  · exact ⟨sound.unique.sublist (List.filter_sublist.map Prod.fst), by simp⟩

theorem sound_restore {registry : Registry} (sound : registry.Sound) (id : ResourceId)
    (previous : Option EntityRef) : (registry.restore id previous).Sound := by
  cases previous with
  | none => exact sound_remove sound id
  | some entity => exact sound_insert sound id entity

theorem sound_list {registry : Registry} (sound : registry.Sound) : registry.list.2.Sound := by
  unfold list
  split
  · exact sound
  · refine ⟨sound.unique, fun entities found => ?_⟩
    rw [← Option.some.inj found]
    exact List.Perm.refl _

theorem mem_entries_iff {registry : Registry} (sound : registry.Sound) (id : ResourceId)
    (entity : EntityRef) : (id, entity) ∈ registry.entries ↔ registry.get? id = some entity := by
  have unique := sound.unique
  rw [get?]
  generalize registry.entries = entries at unique ⊢
  induction entries with
  | nil => simp
  | cons first rest ih =>
      obtain ⟨fresh, later⟩ := List.nodup_cons.mp unique
      by_cases same : first.1 = id
      · have absent : (id, entity) ∉ rest := fun member =>
          fresh (same ▸ List.mem_map_of_mem (f := Prod.fst) member)
        simp [same, absent, Prod.ext_iff, eq_comm]
      · simp [same, ih later, Prod.ext_iff, Ne.symm same]

theorem mem_members_of_get {registry : Registry} {id : ResourceId} {entity : EntityRef}
    (held : registry.get? id = some entity) : entity ∈ registry.members := by
  obtain ⟨entry, found, rfl⟩ := Option.map_eq_some_iff.mp held
  exact List.mem_map_of_mem (List.mem_of_find?_eq_some found)

theorem mem_members_iff {registry : Registry} (sound : registry.Sound) (entity : EntityRef) :
    entity ∈ registry.members ↔ ∃ id, registry.get? id = some entity := by
  constructor
  · intro member
    obtain ⟨⟨id, _⟩, entry, rfl⟩ := List.mem_map.mp member
    exact ⟨id, (mem_entries_iff sound id _).mp entry⟩
  · rintro ⟨id, held⟩
    exact mem_members_of_get held

theorem members_nodup {registry : Registry} (sound : registry.Sound)
    (apart : ∀ id other entity, registry.get? id = some entity → registry.get? other = some entity →
      id = other) : registry.members.Nodup := by
  apply (List.Nodup.of_map Prod.fst sound.unique).map_on
  rintro ⟨id, entity⟩ member ⟨other, _⟩ there rfl
  have same := apart id other entity ((mem_entries_iff sound id entity).mp member)
    ((mem_entries_iff sound other entity).mp there)
  rw [same]

theorem size_remove {registry : Registry} (sound : registry.Sound) {id : ResourceId}
    {entity : EntityRef} (held : registry.get? id = some entity) :
    (registry.remove id).size + 1 = registry.size := by
  have member := (mem_entries_iff sound id entity).mpr held
  have unique := sound.unique
  simp only [remove, held, size]
  generalize registry.entries = entries at member unique
  induction entries with
  | nil => cases member
  | cons first rest ih =>
      obtain ⟨fresh, later⟩ := List.nodup_cons.mp unique
      by_cases same : first.1 = id
      · -- no other entry has this identity, so the rest stays
        have rest_kept : without id rest = rest := by
          apply List.filter_eq_self.mpr
          intro other present
          have apart : other.1 ≠ id := fun equal =>
            fresh (same ▸ equal ▸ List.mem_map_of_mem (f := Prod.fst) present)
          simpa using apart
        have dropped : without id (first :: rest) = without id rest := by simp [without, same]
        rw [dropped, rest_kept, List.length_cons]
      · have kept : without id (first :: rest) = first :: without id rest := by simp [without, same]
        have inside : (id, entity) ∈ rest := by
          rcases List.mem_cons.mp member with equal | present
          · exact absurd (congrArg Prod.fst equal).symm same
          · exact present
        rw [kept, List.length_cons, ih inside later, List.length_cons]

theorem entries_perm {first second : Registry} (sound : first.Sound) (other : second.Sound)
    (same : ∀ id, second.get? id = first.get? id) : second.entries.Perm first.entries := by
  refine (List.perm_ext_iff_of_nodup other.unique.of_map sound.unique.of_map).mpr ?_
  rintro ⟨id, entity⟩
  rw [mem_entries_iff other, mem_entries_iff sound, same]

/-- What is listed, whether from the kept list or not, is what is stored. -/
theorem listed_perm {registry : Registry} (sound : registry.Sound) :
    registry.list.1.Perm registry.members := by
  unfold list
  split
  next entities kept => exact sound.kept entities kept
  next => exact List.Perm.refl _

end Landscape.Registry

import Landscape.Proofs.Chronicle
import Landscape.Proofs.Entity.Edit

/-!
What happens to a slot. Only pointing it somewhere gives it another identity; everything else leaves it
alone, or lets it know a target if it knows none that lives. A known target therefore stays for as long as it
lives, whatever happens to the store. Adding an entity lets every slot of it know what is stored under its
identity, each independently of the others.
-/

namespace Landscape

/-- A slot that is not set again is left alone, or comes to know a target where it knew none that lives. -/
inductive Link.Steady (lives : EntityRef → Bool) : Option Link → Option Link → Prop where
  | stays (link : Option Link) : Steady lives link link
  | learns {link : Link} (unknown : link.target.filter lives = none) (target : EntityRef) :
      Steady lives (some link) (some { link with target := some target })

namespace Link.Steady

variable {lives : EntityRef → Bool} {before middle after : Option Link}

theorem trans (first : Steady lives before middle) (second : Steady lives middle after) :
    Steady lives before after := by
  cases first with
  | stays => exact second
  | learns unknown target =>
      cases second with
      | stays => exact .learns unknown target
      | learns _ other => exact .learns unknown other

theorem id (steady : Steady lives before after) : after.map Link.id = before.map Link.id := by
  cases steady <;> rfl

theorem retains {id : ResourceId} {target : EntityRef} (steady : Steady lives before after)
    (known : before = some ⟨id, some target⟩) (alive : lives target = true) :
    after = some ⟨id, some target⟩ := by
  subst known
  cases steady with
  | stays => rfl
  | learns unknown other => simp [Option.filter, alive] at unknown

end Link.Steady

namespace Estate

variable {Outside : Type}

def link? (entity : EntityRef) (slot : Slot) (estate : Estate Outside) : Option Link :=
  (estate.entity? entity).bind fun found => found.links slot

theorem link_of {estate : Estate Outside} {entity : EntityRef} {found : Entity}
    (here : estate.entity? entity = some found) (slot : Slot) :
    estate.link? entity slot = found.links slot := by
  rw [link?, here, Option.bind_some]

theorem link_modified {estate : Estate Outside} {entity : EntityRef} {found : Entity}
    (here : estate.entity? entity = some found) (change : Entity → Entity) (slot : Slot) :
    (estate.modifyEntity entity change).link? entity slot = (change found).links slot :=
  link_of (entity_modified here change) slot

theorem link_modifyEntity (estate : Estate Outside) (entity other : EntityRef) (slot : Slot)
    {change : Entity → Entity}
    (keeps : other = entity → ∀ found, (change found).links slot = found.links slot) :
    (estate.modifyEntity entity change).link? other slot = estate.link? other slot := by
  rw [link?, entity_modifyEntity]
  split
  · next same =>
      rw [Option.bind_map, link?]
      congr 1
      funext found
      exact keeps same found
  · rfl

theorem kept_steady (estate : Estate Outside) (entity other : EntityRef) (slot : Slot)
    {change : Entity → Entity}
    (keeps : other = entity → ∀ found, (change found).links slot = found.links slot) :
    Link.Steady estate.entityLives (estate.link? other slot)
      ((estate.modifyEntity entity change).link? other slot) := by
  rw [link_modifyEntity estate entity other slot keeps]
  exact .stays _

@[simp] theorem links_set (slot : Slot) (link : Link) (found : Entity) :
    (found.setLink slot link).links slot = some link :=
  if_pos rfl

theorem links_setLink {slot other : Slot} (apart : slot ≠ other) (link : Link) (found : Entity) :
    (found.setLink other link).links slot = found.links slot := by
  simp [Entity.setLink, apart]

theorem links_learnTarget {slot other : Slot} (apart : slot ≠ other) (target : EntityRef)
    (found : Entity) : (found.learnTarget other target).links slot = found.links slot := by
  unfold Entity.learnTarget
  split
  · rfl
  · exact links_setLink apart _ found

theorem learnTarget_eq {slot : Slot} {link : Link} {found : Entity}
    (set : found.links slot = some link) (target : EntityRef) :
    found.learnTarget slot target = found.setLink slot { link with target := some target } := by
  simp [Entity.learnTarget, set]

theorem learned_steady {estate : Estate Outside} {entity : EntityRef} {found : Entity} {link : Link}
    {target : EntityRef} {learned : Slot} (here : estate.entity? entity = some found)
    (set : found.links learned = some link) (unknown : estate.knownTarget link = none)
    (other : EntityRef) (slot : Slot) :
    Link.Steady estate.entityLives (estate.link? other slot)
      ((estate.modifyEntity entity (Entity.learnTarget learned target)).link? other slot) := by
  by_cases own : other = entity ∧ slot = learned
  · obtain ⟨rfl, rfl⟩ := own
    rw [link_of here, link_modified here, learnTarget_eq set, links_set, set]
    exact .learns unknown target
  · apply kept_steady
    intro same found
    exact links_learnTarget (fun equal => own ⟨same, equal⟩) target found

section Binding

variable {estate : Estate Outside} {entity : EntityRef}

@[simp] theorem bindSlot_lives (entry : Slot × Kind) (estate : Estate Outside) :
    (estate.bindSlot entity entry).entityLives = estate.entityLives := by
  rcases bindSlot_cases entity estate entry with same | ⟨target, learned⟩
  · rw [same]
  · rw [learned]
    rfl

theorem bindSlot_steady (entity : EntityRef) (entry : Slot × Kind) (estate : Estate Outside)
    (other : EntityRef) (slot : Slot) :
    Link.Steady estate.entityLives (estate.link? other slot)
      ((estate.bindSlot entity entry).link? other slot) := by
  unfold bindSlot
  split
  · exact .stays _
  · next found here =>
      split
      · exact .stays _
      · next link set =>
          split
          · exact .stays _
          · next unknown =>
              split
              · exact .stays _
              · have none : estate.knownTarget link = none := by simpa using unknown
                exact learned_steady here set none other slot

theorem foldl_bindSlot_steady (entries : List (Slot × Kind)) (estate : Estate Outside)
    (other : EntityRef) (slot : Slot) :
    Link.Steady estate.entityLives (estate.link? other slot)
      ((entries.foldl (bindSlot entity) estate).link? other slot) := by
  induction entries generalizing estate with
  | nil => exact .stays _
  | cons entry rest ih =>
      have first := bindSlot_steady entity entry estate other slot
      have others := ih (estate.bindSlot entity entry)
      rw [bindSlot_lives] at others
      exact first.trans others

theorem bindSlots_steady (entity : EntityRef) (estate : Estate Outside) (other : EntityRef)
    (slot : Slot) :
    Link.Steady estate.entityLives (estate.link? other slot)
      ((estate.bindSlots entity).link? other slot) := by
  unfold bindSlots
  split
  · exact .stays _
  · exact foldl_bindSlot_steady _ estate other slot

theorem bindSlot_knows {slot : Slot} {kind : Kind} {found : Entity} {link : Link} {target : EntityRef}
    (here : estate.entity? entity = some found) (set : found.links slot = some link)
    (unknown : estate.knownTarget link = none)
    (present : estate.stored found.model kind link.id = some target) :
    (estate.bindSlot entity (slot, kind)).link? entity slot = some ⟨link.id, some target⟩ := by
  have held : (estate.registry found.model kind).get? link.id = some target := present
  have bound : estate.bindSlot entity (slot, kind) =
      estate.modifyEntity entity (Entity.learnTarget slot target) := by
    simp only [bindSlot, here, set, unknown, held, Option.isSome_none, Bool.false_eq_true, if_false]
  rw [bound, link_modified here, learnTarget_eq set, links_set]

theorem foldl_bindSlot_knows {entries : List (Slot × Kind)} {slot : Slot} {kind : Kind} {found : Entity}
    {link : Link} {target : EntityRef} (here : estate.entity? entity = some found)
    (typed : (entries.find? fun entry => entry.1 = slot) = some (slot, kind))
    (set : found.links slot = some link) (unknown : estate.knownTarget link = none)
    (present : estate.stored found.model kind link.id = some target)
    (alive : estate.entityLives target = true) :
    (entries.foldl (bindSlot entity) estate).link? entity slot = some ⟨link.id, some target⟩ := by
  induction entries generalizing estate found with
  | nil => cases typed
  | cons entry rest ih =>
      rw [List.foldl_cons]
      by_cases own : entry.1 = slot
      · obtain rfl : entry = (slot, kind) := by simpa [own] using typed
        have known := bindSlot_knows here set unknown present
        -- the target lives, so whatever else is bound the slot keeps it
        refine (foldl_bindSlot_steady rest _ entity slot).retains known ?_
        rw [bindSlot_lives]
        exact alive
      · have later : (rest.find? fun entry => entry.1 = slot) = some (slot, kind) := by
          simpa [own] using typed
        rcases bindSlot_cases entity estate entry with same | ⟨other, learned⟩
        · rw [same]
          exact ih here later set unknown present alive
        · rw [learned]
          have now := entity_modified here (Entity.learnTarget entry.1 other)
          have model := (registration_learnTarget entry.1 other found).1
          refine ih now later ?_ unknown ?_ alive
          · rw [links_learnTarget (Ne.symm own)]
            exact set
          · rw [model]
            exact present

theorem entry_of_target {kind target : Kind} {slot : Slot} (typed : kind.target? slot = some target) :
    (kind.slots.find? fun entry => entry.1 = slot) = some (slot, target) := by
  obtain ⟨⟨other, found⟩, first, rfl⟩ := Option.map_eq_some_iff.mp typed
  obtain rfl : other = slot := by simpa using List.find?_some first
  exact first

/-- An entity that is added knows what was stored under the identity of a slot that knew no living target. -/
theorem bindSlots_knows {slot : Slot} {kind : Kind} {found : Entity} {link : Link} {target : EntityRef}
    (here : estate.entity? entity = some found) (typed : found.kind.target? slot = some kind)
    (set : found.links slot = some link) (unknown : estate.knownTarget link = none)
    (present : estate.stored found.model kind link.id = some target)
    (alive : estate.entityLives target = true) :
    (estate.bindSlots entity).link? entity slot = some ⟨link.id, some target⟩ := by
  simp only [bindSlots, here]
  exact foldl_bindSlot_knows here (entry_of_target typed) set unknown present alive

end Binding

theorem link_addEntity {new : Entity} (blank : ∀ slot, new.links slot = none) (entity : EntityRef)
    (slot : Slot) (estate : Estate Outside) :
    (estate.addEntity new).2.link? entity slot = estate.link? entity slot := by
  cases here : estate.entity? entity with
  | some found => rw [link_of here, link_of (entity_addEntity new here)]
  | none =>
      rw [link?, link?, here, Option.bind_none]
      cases later : (estate.addEntity new).2.entity? entity with
      | none => rfl
      | some found =>
          -- only the new entity is there now and was not there before
          have behind : estate.entities.length ≤ entity.index := List.getElem?_eq_none_iff.mp here
          have added := (List.getElem?_append_right behind).symm.trans later
          obtain rfl := List.mem_singleton.mp (List.mem_of_getElem? added)
          exact blank slot

theorem Beside.link {estate after : Estate Outside} (beside : estate.Beside after) (entity : EntityRef)
    (slot : Slot) : after.link? entity slot = estate.link? entity slot := by
  rw [link?, entity?, beside.entities, link?, entity?]

end Estate

namespace Call

open Estate

variable {Outside : Type} {estate after now final : Estate Outside} {call : Call} {entity : EntityRef}
  {slot : Slot}

def Sets (entity : EntityRef) (slot : Slot) : Call → Prop
  | .pointById other set _ | .pointAt other set _ => other = entity ∧ set = slot
  | _ => False

theorem pointById_reached {found : Entity} (here : estate.entity? entity = some found) (slot : Slot)
    (id : ResourceId) :
    ((pointById entity slot id).opening estate).reached.link? entity slot =
      some ⟨id, estate.namedTarget entity slot id⟩ := by
  have still := ((update_still entity (Entity.setLink slot ⟨id, estate.namedTarget entity slot id⟩)
    estate).viewed Answer.ofChange).reached
  refine (still.toBeside.link entity slot).trans ?_
  rw [link_modified here, links_set]

theorem pointAt_reached {found pointed : Entity} {target : EntityRef}
    (here : estate.entity? entity = some found) (there : estate.entity? target = some pointed)
    (slot : Slot) :
    ((pointAt entity slot target).opening estate).reached.link? entity slot =
      some ⟨pointed.id, some target⟩ := by
  have still := ((update_still entity (Entity.setLink slot ⟨pointed.id, some target⟩)
    estate).viewed Answer.ofChange).reached
  simp only [opening, there]
  refine (still.toBeside.link entity slot).trans ?_
  rw [link_modified here, links_set]

theorem Modifies.steady {modified : EntityRef} {change : Entity → Entity}
    (modifies : call.Modifies estate modified change) (spares : ¬call.Sets entity slot) :
    Link.Steady estate.entityLives (estate.link? entity slot)
      ((estate.modifyEntity modified change).link? entity slot) := by
  cases modifies with
  | change _ wanted =>
      apply kept_steady
      intro _ found
      cases wanted <;> rfl
  | pointById _ set id =>
      apply kept_steady
      intro same
      exact links_setLink (fun equal => spares ⟨same.symm, equal.symm⟩) _
  | pointAt _ set there =>
      apply kept_steady
      intro same
      exact links_setLink (fun equal => spares ⟨same.symm, equal.symm⟩) _
  | follow here set typed unknown present => exact learned_steady here set unknown entity slot
  | annotate | unannotate => exact kept_steady estate modified entity slot fun _ found => rfl

theorem Opens.steady (opens : call.Opens estate now) (spares : ¬call.Sets entity slot) :
    Link.Steady estate.entityLives (estate.link? entity slot) (now.link? entity slot) := by
  obtain ⟨middle, alters, beside⟩ := opens
  rw [beside.link]
  cases alters with
  | nothing | withdraws | lists | makesModel => exact .stays _
  | modifies modifies => exact modifies.steady spares
  | @enters model owner added found here made given own => exact bindSlots_steady added estate entity slot
  | makesEntity model kind id =>
      rw [link_addEntity (fun _ => rfl)]
      exact .stays _

theorem Closes.link (closes : call.Closes estate after final) (entity : EntityRef) (slot : Slot) :
    final.link? entity slot = after.link? entity slot := by
  obtain ⟨middle, settles, beside⟩ := closes
  rw [beside.link]
  cases settles with
  | nothing | restores => rfl
  | registers here given => exact link_modifyEntity after _ entity slot fun _ found => rfl

theorem Opens.cards (opens : call.Opens estate now) {card : Card}
    (known : estate.card? entity = some card) : now.card? entity = some card :=
  opens.grows.cards entity card known

theorem Closes.cards (closes : call.Closes estate after final) {card : Card}
    (known : after.card? entity = some card) : final.card? entity = some card := by
  obtain ⟨middle, settles, beside⟩ := closes
  apply beside.grows.cards
  cases settles with
  | nothing | restores => exact known
  | registers here given =>
      exact (card_modifyEntity after _ entity Entity.register fun _ => rfl).trans known

end Call

namespace Juncture

open Estate

variable {former latter : Juncture} {entity : EntityRef} {slot : Slot}

theorem Leads.steady (leads : former.Leads latter)
    (spares : former.stage = .begins → ¬former.call.Sets entity slot) :
    Link.Steady former.now.entityLives (former.now.link? entity slot) (latter.now.link? entity slot) := by
  cases leads with
  | opens start begun same now opened =>
      rw [now, opened]
      exact (former.call.opening_effect start).reached.steady (spares begun)
  | goesOn settled begins same =>
      rw [same]
      exact .stays _
  | closes call start after final settled answered closed now later =>
      rw [now, later]
      have link : (final.amid ()).link? entity slot = (after.amid ()).link? entity slot :=
        closed.link entity slot
      rw [link]
      exact .stays _

theorem Leads.cards (leads : former.Leads latter) {card : Card}
    (known : former.now.card? entity = some card) : latter.now.card? entity = some card := by
  cases leads with
  | opens start begun same now opened =>
      rw [now] at known
      rw [opened]
      exact (former.call.opening_effect start).reached.cards known
  | goesOn settled begins same => exact same ▸ known
  | closes call start after final settled answered closed now later =>
      rw [now] at known
      rw [later]
      exact closed.cards known

end Juncture

namespace Script

/-- No call that begins between the two junctures points the slot anywhere. -/
def Unset (script : Script) (entity : EntityRef) (slot : Slot) (first last : Nat) : Prop :=
  ∀ index juncture, first < index → index < last → script.log[index]? = some juncture →
    juncture.stage = .begins → ¬juncture.call.Sets entity slot

end Script

end Landscape

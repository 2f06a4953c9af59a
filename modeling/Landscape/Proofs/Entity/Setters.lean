import Landscape.Proofs.Chronicle
import Landscape.Proofs.Entity.Readers
import Landscape.Proofs.Store.Refusal
import Landscape.Proofs.Store.Shelf

/-!
Setters have their own effect and no other. Whatever the sink of the model answers, the readers that belong to
a setter answer what was written; all other readers of the entity, all other entities and all stores answer as
before, and so does every slot that is followed, as long as the same models and entities live. A finding
lists each reference once, where it was first added. Sinks are taken to leave entities and stores as they
find them, and not to follow references.
-/

namespace Landscape

namespace Estate

variable {Outside : Type} {before after estate : Estate Outside}

/-- Every store answers as before. -/
structure StoresAlike (before after : Estate Outside) : Prop where
  stored : ∀ model kind id, after.stored model kind id = before.stored model kind id
  listed : ∀ model kind, (after.listOf model kind).1 = (before.listOf model kind).1
  counted : ∀ model type, after.countOf model type = before.countOf model type

/-- Every entity that was there is as before, down to the targets that its references know, and every store
answers as before. -/
structure Unmoved (before after : Estate Outside) : Prop extends before.StoresAlike after where
  entities : ∀ entity found, before.entity? entity = some found → after.entity? entity = some found

theorem storesAlike_of_models (models : after.models = before.models) : before.StoresAlike after := by
  have model (model : ModelRef) : after.model? model = before.model? model := by
    rw [model?, models, model?]
  have registry (owner : ModelRef) (kind : Kind) :
      after.registry owner kind = before.registry owner kind := by
    rw [Estate.registry, model, Estate.registry]
  constructor
  · intro model kind id
    rw [stored, registry, stored]
  · intro model kind
    rw [listOf, registry, listOf]
  · intro owner type
    rw [countOf, model, countOf]

theorem storesAlike_of_leaves (leaves : ∀ model, before.Leaves model after) :
    before.StoresAlike after where
  stored model := (leaves model).stored
  listed model kind := by
    rw [listOf, listOf]
    rcases (leaves model).store kind with same | listed
    · rw [same]
    · rw [listed]
      cases kept : (before.registry model kind).kept <;> simp [Registry.list, kept]
  counted model type := by
    cases type with
    | entity kind =>
        rw [countOf_registry, countOf_registry]
        rcases (leaves model).store kind with same | listed
        · rw [same]
        · rw [listed]
          cases kept : (before.registry model kind).kept <;> simp [Registry.list, Registry.size, kept]
    | unknown | annotations =>
        rw [countOf, countOf]
        cases before.model? model <;> cases after.model? model <;> rfl

theorem StoresAlike.trans {first second third : Estate Outside} (former : first.StoresAlike second)
    (latter : second.StoresAlike third) : first.StoresAlike third where
  stored model kind id := (latter.stored model kind id).trans (former.stored model kind id)
  listed model kind := (latter.listed model kind).trans (former.listed model kind)
  counted model type := (latter.counted model type).trans (former.counted model type)

theorem Unmoved.trans {first second third : Estate Outside} (former : first.Unmoved second)
    (latter : second.Unmoved third) : first.Unmoved third where
  toStoresAlike := former.toStoresAlike.trans latter.toStoresAlike
  entities entity found here := latter.entities entity found (former.entities entity found here)

theorem Still.unmoved (still : before.Still after) : before.Unmoved after where
  toStoresAlike := storesAlike_of_models still.models
  entities entity found here := by
    rw [entity?, still.entities]
    exact here

theorem modifyEntity_same {entity : EntityRef} {found : Entity}
    (here : estate.entity? entity = some found) :
    (estate.modifyEntity entity fun _ => found) = estate := by
  rw [modifyEntity_congr here (show found = id found from rfl), modifyEntity, List.modify_id]

structure LivesAlike (before after : Estate Outside) : Prop where
  models : ∀ model, after.modelLives model = before.modelLives model
  entities : ∀ entity, after.entityLives entity = before.entityLives entity

theorem follow_alike (stores : before.StoresAlike after) (lives : before.LivesAlike after)
    {entity : EntityRef} {was now : Entity} (here : before.entity? entity = some was)
    (there : after.entity? entity = some now) (kind : now.kind = was.kind)
    (model : now.model = was.model) {slot : Slot} (links : now.links slot = was.links slot) :
    (after.follow entity slot).1 = (before.follow entity slot).1 := by
  have known (link : Link) : after.knownTarget link = before.knownTarget link := by
    rw [knownTarget, funext lives.entities, knownTarget]
  have held (kind : Kind) (id : ResourceId) :
      (after.registry was.model kind).get? id = (before.registry was.model kind).get? id :=
    stores.stored was.model kind id
  -- the estates that are left behind differ, for a target that was looked up is remembered; answers do not
  simp only [follow, here, there, kind, model, links, known, held, lives.models]
  split
  · split
    · rfl
    · split
      · split <;> rfl
      · rfl
  · rfl

theorem follow_known {entity target : EntityRef} {found : Entity} {slot : Slot} {kind : Kind}
    {link : Link} (here : estate.entity? entity = some found)
    (typed : found.kind.target? slot = some kind) (set : found.links slot = some link)
    (known : estate.knownTarget link = some target) :
    estate.follow entity slot = (.ok (some target), estate) := by
  simp only [follow, here, set, typed, known]

def Reachable (estate : Estate Outside) : Prop :=
  ∃ script : Script, ∃ juncture ∈ script.log, estate.amid () = juncture.now

theorem Reachable.sound (reachable : estate.Reachable) : estate.Sound := by
  obtain ⟨script, juncture, member, same⟩ := reachable
  obtain ⟨sound, grows, _⟩ := script.log_founded member
  have back : (estate.amid ()).Grows estate := grows_of_same rfl rfl
  exact back.sound (same ▸ grows.sound sound)

end Estate

open Estate

variable {Outside : Type} {deliver : Deliver Outside} {estate : Estate Outside} {entity : EntityRef}
  {found : Entity}

/-- Sinks that change no entity and no store and follow no reference. What they answer, and what they do
with the events, is their own affair. -/
def Deliver.Aloof (deliver : Deliver Outside) : Prop :=
  ∀ sink event (estate : Estate Outside), estate.Unmoved (deliver sink event estate).2

namespace Edit

variable {edit : Edit}

theorem report_unmoved (aloof : deliver.Aloof) (estate : Estate Outside) :
    estate.Unmoved (edit.report deliver entity found estate).2 := by
  have hears := fun sink event found => aloof sink event found
  have announced : estate.Unmoved (estate.announce deliver entity).2 := by
    rw [announce_opening]
    exact ((announce_still entity estate).imp (fun _ still => still.unmoved)
      (fun _ _ still => still.unmoved)).finishes hears Unmoved.trans
  have reported (notes : Notes) (event : Event) :
      estate.Unmoved (estate.reportNotes deliver notes event).2 := by
    rw [report_opening]
    exact ((report_still notes event estate).imp (fun _ still => still.unmoved)
      (fun _ _ still => still.unmoved)).finishes hears Unmoved.trans
  cases edit with
  | annotate | unannotate => exact reported _ _
  | set | pointById | pointAt => exact announced

theorem report_verdict (deliver : Deliver Outside) (entity : EntityRef) (found : Entity) (edit : Edit)
    (estate : Estate Outside) :
    ∃ verdict : Except EventError Unit,
      (edit.report deliver entity found estate).1 = verdict.mapError .event := by
  have reported (notes : Notes) (event : Event) : ∃ verdict : Except EventError Unit,
      (estate.reportNotes deliver notes event).1 = verdict.mapError .event := by
    unfold reportNotes
    split
    · exact ⟨_, rfl⟩
    · exact ⟨.ok (), rfl⟩
  cases edit with
  | annotate | unannotate => exact reported _ _
  | set | pointById | pointAt => exact ⟨_, rfl⟩

theorem perform_unmoved (aloof : deliver.Aloof) (here : estate.entity? entity = some found)
    (fits : edit.Fits estate) :
    (∃ verdict : Except EventError Unit,
      ((edit.call entity).perform deliver estate).1 = .ofChange (verdict.mapError .event)) ∧
    (estate.modifyEntity entity fun _ => edit.applied estate found).Unmoved
      ((edit.call entity).perform deliver estate).2 := by
  cases idle : edit.isIdle found with
  | true =>
      rw [perform_idle deliver here idle, applied, if_pos idle, modifyEntity_same here]
      exact ⟨⟨.ok (), rfl⟩, (Still.refl estate).unmoved⟩
  | false =>
      rw [perform_busy deliver here idle fits, applied, if_neg (by simp [idle])]
      obtain ⟨verdict, answered⟩ := report_verdict deliver entity found edit
        (estate.modifyEntity entity fun _ => edit.change estate found)
      exact ⟨⟨verdict, congrArg Call.Answer.ofChange answered⟩, report_unmoved aloof _⟩

/-- All that an edit has done, whether it was taken or refused. -/
structure ActsAlone (edit : Edit) (entity : EntityRef) (found : Entity)
    (before after : Estate Outside) (answer : Call.Answer) : Prop where
  answers : answer = .done ∨ ∃ refusal, answer = .refused (.event refusal)
  reads : ∃ now, after.entity? entity = some now ∧ ∀ reader : Reader,
    reader.read now = (edit.writes before found reader).getD (reader.read found)
  others : ∀ other was, other ≠ entity → before.entity? other = some was →
    after.entity? other = some was
  stores : before.StoresAlike after
  leads : ∀ (deliver : Deliver Outside) slot target,
    edit.writes before found (.slotTarget slot) = some (some target) →
    after.entityLives target = true →
    ((Call.follow entity slot).perform deliver after).1 = .entity (some target)
  /-- Every other slot answers as before, as long as the same models and entities live. -/
  follows : before.LivesAlike after → ∀ (deliver : Deliver Outside) other slot,
    (before.entity? other).isSome → (other = entity → edit.writes before found (.slotId slot) = none) →
    ((Call.follow other slot).perform deliver after).1 =
      ((Call.follow other slot).perform deliver before).1

theorem writes_slot {slot : Slot} (unset : edit.writes estate found (.slotId slot) = none) :
    edit.writes estate found (.slotTarget slot) = none := by
  cases edit with
  | pointById own id | pointAt own target =>
      have apart : slot ≠ own := by
        rintro rfl
        simp [writes] at unset
      exact if_neg apart
  | set change => cases change <;> rfl
  | annotate | unannotate => rfl

theorem Typed.slot (typed : edit.Typed estate found) {slot : Slot} {target : Option EntityRef}
    (written : edit.writes estate found (.slotTarget slot) = some target) :
    ∃ kind, found.kind.target? slot = some kind := by
  cases edit with
  | pointById own id =>
      have same : slot = own := by
        by_contra apart
        cases (if_neg apart).symm.trans written
      exact same ▸ Option.isSome_iff_exists.mp typed
  | pointAt own other =>
      have same : slot = own := by
        by_contra apart
        cases (if_neg apart).symm.trans written
      obtain ⟨kind, has, _⟩ := typed
      exact ⟨kind, same ▸ has⟩
  | set change => cases change <;> cases written
  | annotate | unannotate => cases written

theorem card_applied (edit : Edit) (estate : Estate Outside) (found : Entity) :
    (edit.applied estate found).card = found.card := by
  unfold applied
  split
  · rfl
  · exact (card_change edit estate found).1

theorem link_of_reads {now was : Entity} {slot : Slot}
    (id : Reader.read now (.slotId slot) = Reader.read was (.slotId slot))
    (target : Reader.read now (.slotTarget slot) = Reader.read was (.slotTarget slot)) :
    now.links slot = was.links slot := by
  simp only [Reader.read] at id target
  cases first : now.links slot with
  | none => cases second : was.links slot <;> simp_all
  | some link =>
      cases second : was.links slot with
      | none => simp_all
      | some other =>
          rw [first, second] at id target
          obtain ⟨_, _⟩ := link
          obtain ⟨_, _⟩ := other
          cases id
          cases target
          rfl

theorem acts_alone (sound : estate.Sound) (aloof : deliver.Aloof)
    (here : estate.entity? entity = some found) (typed : edit.Typed estate found) :
    edit.ActsAlone entity found estate ((edit.call entity).perform deliver estate).2
      ((edit.call entity).perform deliver estate).1 := by
  obtain ⟨⟨verdict, answered⟩, unmoved⟩ := perform_unmoved aloof here typed.fits
  have suited := (sound.well entity found here).suited
  have there := unmoved.entities entity _ (entity_modified here _)
  have reads := read_applied suited typed
  have others : ∀ other was, other ≠ entity → estate.entity? other = some was →
      ((edit.call entity).perform deliver estate).2.entity? other = some was := by
    intro other was apart known
    apply unmoved.entities
    rw [entity_modifyEntity, if_neg apart]
    exact known
  have kept : estate.StoresAlike (estate.modifyEntity entity fun _ => edit.applied estate found) :=
    storesAlike_of_models rfl
  -- what the sink did meanwhile moved nothing, so all that follows is about the one entity
  have stores := kept.trans unmoved.toStoresAlike
  have kind : (edit.applied estate found).kind = found.kind :=
    congrArg Card.kind (card_applied edit estate found)
  have model : (edit.applied estate found).model = found.model :=
    congrArg Card.model (card_applied edit estate found)
  refine ⟨?_, ⟨_, there, reads⟩, others, stores, ?_, ?_⟩
  · rw [answered]
    cases verdict with
    | ok _ => exact .inl rfl
    | error refusal => exact .inr ⟨refusal, rfl⟩
  · intro anyone slot target written lives
    obtain ⟨aim, has⟩ := typed.slot written
    have read : Reader.read (edit.applied estate found) (.slotTarget slot) = some target := by
      rw [reads, written]
      rfl
    obtain ⟨link, set, knows⟩ := Option.bind_eq_some_iff.mp read
    exact congrArg (Call.Answer.ofFollow ·.1)
      (follow_known there (kind ▸ has) set (Option.filter_eq_some_iff.mpr ⟨knows, lives⟩))
  · intro lives anyone other slot known unset
    apply congrArg Call.Answer.ofFollow
    by_cases own : other = entity
    · subst own
      have unsetTarget := writes_slot (unset rfl)
      apply follow_alike stores lives here there kind model
      apply link_of_reads
      · rw [reads, unset rfl]
        rfl
      · rw [reads, unsetTarget]
        rfl
    · obtain ⟨was, known⟩ := Option.isSome_iff_exists.mp known
      exact follow_alike stores lives known (others other was own known) rfl rfl rfl

theorem nodup_listed {references : List ResourceRef} (unique : references.Nodup)
    (reference : ResourceRef) : (listed reference references).Nodup := by
  unfold listed
  split
  · exact unique
  · next missing =>
      exact List.nodup_append.mpr ⟨unique, List.nodup_singleton reference, by
        rintro other member _ last rfl
        exact missing (List.mem_singleton.mp last ▸ member)⟩

theorem eraseDups_of_nodup {references : List ResourceRef} (unique : references.Nodup) :
    references.eraseDups = references := by
  induction references with
  | nil => rfl
  | cons first rest ih =>
      obtain ⟨missing, unique⟩ := List.nodup_cons.mp unique
      have others : (rest.filter fun other => !other == first) = rest := by
        apply List.filter_eq_self.mpr
        intro other member
        have apart : other ≠ first := fun same => missing (same ▸ member)
        simpa using apart
      rw [List.eraseDups_cons, others, ih unique]

theorem eraseDups_listed (reference : ResourceRef) (references later : List ResourceRef) :
    (listed reference references ++ later).eraseDups =
      (references ++ reference :: later).eraseDups := by
  unfold listed
  split
  · next present =>
      -- what is there already is passed over where it comes again
      have again : (reference :: later).removeAll references = later.removeAll references := by
        simp [List.removeAll, present]
      rw [List.eraseDups_append, List.eraseDups_append, again]
  · rw [List.append_assoc]
    rfl

theorem foldl_listed {start : List ResourceRef} (unique : start.Nodup) (references : List ResourceRef) :
    (references.foldl (fun all reference => listed reference all) start).Nodup ∧
      references.foldl (fun all reference => listed reference all) start =
        (start ++ references).eraseDups := by
  induction references generalizing start with
  | nil => exact ⟨unique, by rw [List.append_nil, eraseDups_of_nodup unique]; rfl⟩
  | cons reference rest ih =>
      obtain ⟨still, all⟩ := ih (nodup_listed unique reference)
      exact ⟨still, all.trans (eraseDups_listed reference start rest)⟩

theorem details_listed {start : List ResourceRef} (form : found.details = .finding start)
    (reference : ResourceRef) :
    ((set (.addResource reference)).applied estate found).details = .finding (listed reference start) := by
  unfold applied listed
  by_cases present : reference ∈ start
  · have idle : (set (.addResource reference)).isIdle found = true := by
      simp [isIdle, Entity.absorbs, form, present]
    rw [if_pos idle, if_pos present, form]
  · have busy : ¬ (set (.addResource reference)).isIdle found = true := by
      simp [isIdle, Entity.absorbs, form, present]
    rw [if_neg busy, if_neg present]
    show found.details.change (.addResource reference) = .finding (start ++ [reference])
    rw [form]
    rfl

/-- Each call lists one reference more, or none. -/
theorem resources_added (aloof : deliver.Aloof) (here : estate.entity? entity = some found)
    {start : List ResourceRef} (form : found.details = .finding start)
    (references : List ResourceRef) :
    ∃ now, (performAll deliver (references.map fun reference => .change entity (.addResource reference))
        estate).entity? entity = some now ∧
      now.details = .finding
        (references.foldl (fun all reference => listed reference all) start) := by
  induction references generalizing estate found start with
  | nil => exact ⟨found, here, form⟩
  | cons reference rest ih =>
      have fits : (set (.addResource reference)).Fits estate := trivial
      have unmoved := (perform_unmoved aloof here fits).2
      have there := unmoved.entities entity _ (entity_modified here _)
      -- the list after the first call is where the rest begin
      exact ih there (details_listed form reference)

/-- In every estate that a run comes to, an edit of an entity writes what belongs to it and nothing else,
whether the sink of its model takes it or refuses it, or hears nothing of it. A finding whose list has no
duplicates still has none after any references were added, and they stand in the order in which they first
appeared. -/
theorem setters_change_only (aloof : deliver.Aloof) (reachable : estate.Reachable)
    (here : estate.entity? entity = some found) :
    (∀ edit : Edit, edit.Typed estate found →
      edit.ActsAlone entity found estate ((edit.call entity).perform deliver estate).2
        ((edit.call entity).perform deliver estate).1) ∧
    ∀ start references, found.details.resources? = some start → start.Nodup →
      ∃ now, (performAll deliver
          (references.map fun reference => .change entity (.addResource reference)) estate).entity?
            entity = some now ∧
        now.details.resources? = some (start ++ references).eraseDups ∧
        (start ++ references).eraseDups.Nodup := by
  constructor
  · intro edit typed
    exact acts_alone reachable.sound aloof here typed
  · intro start references has unique
    have form : found.details = .finding start := by
      cases details : found.details with
      | finding => rw [details] at has; cases has; rfl
      | _ => rw [details] at has; cases has
    obtain ⟨still, all⟩ := foldl_listed unique references
    obtain ⟨now, there, holds⟩ := resources_added aloof here form references
    refine ⟨now, there, ?_, all ▸ still⟩
    rw [holds, all]
    rfl

theorem grumbling_aloof (model : ModelRef) : (grumbling model).Aloof := by
  intro sink event estate
  exact ⟨storesAlike_of_leaves (undisturbed_listOf model .system estate).1, fun _ _ here => here⟩

def reviewed : Script :=
  .call (.newModel (.made 0)) .done (.ok ()) <|
  .call (.elsewhere [.discard] [] [.model ⟨0⟩, .entity ⟨0⟩]) .done (.ok ()) <|
  .call (.newEntity ⟨0⟩ .finding (.repeating 3)) .done (.ok ()) <|
  .call (.change ⟨0⟩ (.resources [⟨.repeating 1, .entity .system⟩])) .done (.ok ()) <|
  .call (.add ⟨0⟩ ⟨0⟩) .done (.ok ()) .done

def review : Estate Unit :=
  (reviewed.log[10]?.map Juncture.now).getD (.empty ())

theorem review_reachable : review.Reachable :=
  ⟨reviewed, _, List.mem_of_getElem? (i := 10) rfl, rfl⟩

/-- Its summary is written although the sink refuses to hear of it, and references are added once. -/
theorem review_goes_on : (grumbling ⟨0⟩).Aloof ∧ review.Reachable ∧
    ∃ found, review.entity? ⟨0⟩ = some found ∧ found.isRegistered = true ∧
      (((set (.summary "leak")).call ⟨0⟩).perform (grumbling ⟨0⟩) review).1 =
        .refused (.event (.unsupportedPayload "opaque")) ∧
      (set (.summary "leak")).ActsAlone ⟨0⟩ found review
        (((set (.summary "leak")).call ⟨0⟩).perform (grumbling ⟨0⟩) review).2
        (((set (.summary "leak")).call ⟨0⟩).perform (grumbling ⟨0⟩) review).1 ∧
      ∃ now, (performAll (grumbling ⟨0⟩)
          ([⟨.repeating 2, .entity .node⟩, ⟨.repeating 1, .entity .system⟩, ⟨.repeating 1, .entity .node⟩,
            ⟨.repeating 2, .entity .node⟩].map fun reference =>
              .change ⟨0⟩ (.addResource reference)) review).entity? ⟨0⟩ = some now ∧
        now.details.resources? = some [⟨.repeating 1, .entity .system⟩, ⟨.repeating 2, .entity .node⟩,
          ⟨.repeating 1, .entity .node⟩] := by
  have reached : ∃ found, review.entity? ⟨0⟩ = some found ∧ found.isRegistered = true ∧
      found.details.resources? = some [⟨.repeating 1, .entity .system⟩] ∧ found.kind = .finding :=
    ⟨_, rfl, rfl, rfl, rfl⟩
  obtain ⟨found, here, registered, listed, kind⟩ := reached
  obtain ⟨alone, appended⟩ := setters_change_only (grumbling_aloof ⟨0⟩) review_reachable here
  have typed : (set (.summary "leak")).Typed review found := by
    rw [Typed, kind]
    rfl
  obtain ⟨now, there, resources, _⟩ := appended _ _ listed (List.nodup_singleton _)
  exact ⟨grumbling_aloof ⟨0⟩, review_reachable, found, here, registered, rfl, alone _ typed, now, there,
    resources⟩

end Edit

end Landscape

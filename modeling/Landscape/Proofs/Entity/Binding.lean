import Landscape.Proofs.Entity.Reference
import Mathlib.Tactic.IntervalCases

/-!
References that are bound stay bound. A slot comes to know its target when it is pointed at it, when it is
pointed at an identity that is stored, when its entity is added while the identity is stored, or when it is
asked. From then on it answers that very entity for as long as the entity lives and the slot is not pointed
anywhere again; that the target is deleted or replaced, that its own entity is added again, that calls fail
or that the model is dropped makes no difference.
-/

namespace Landscape

namespace Estate

structure Bound {Outside : Type} (estate : Estate Outside) (entity : EntityRef) (slot : Slot)
    (target : EntityRef) : Prop where
  known : ∃ id, estate.link? entity slot = some ⟨id, some target⟩
  typed : ∃ card kind, estate.card? entity = some card ∧ card.kind.target? slot = some kind

variable {Outside : Type} {estate : Estate Outside} {entity target : EntityRef} {found : Entity}
  {slot : Slot} {kind : Kind}

theorem typed_of (here : estate.entity? entity = some found)
    (typed : found.kind.target? slot = some kind) :
    ∃ card kind, estate.card? entity = some card ∧ card.kind.target? slot = some kind := by
  refine ⟨found.card, kind, ?_, typed⟩
  rw [card?, here]
  rfl

theorem bound_of (here : estate.entity? entity = some found)
    (typed : found.kind.target? slot = some kind) {link : Link} (set : found.links slot = some link)
    (known : link.target = some target) : estate.Bound entity slot target where
  known := ⟨link.id, by rw [link_of here, set, ← known]⟩
  typed := typed_of here typed

theorem follow_binds
    (answered : Call.Answer.ofFollow (estate.follow entity slot).1 = .entity (some target)) :
    (estate.follow entity slot).2.Bound entity slot target := by
  obtain ⟨found, kind, here, typed⟩ := follow_typed answered
  have access := follow_access here typed
  rw [answered] at access
  generalize (estate.follow entity slot).2 = after at access
  cases access with
  | known set known => exact bound_of here typed set (known_target known)
  | @stored link _ set unknown lives present =>
      have now := entity_modified here (Entity.setLink slot ⟨link.id, some target⟩)
      exact bound_of now typed (links_set slot ⟨link.id, some target⟩ found) rfl

theorem follow_bound (bound : (estate.follow entity slot).2.Bound entity slot target)
    (alive : (estate.follow entity slot).2.entityLives target = true) :
    Call.Answer.ofFollow (estate.follow entity slot).1 = .entity (some target) := by
  obtain ⟨⟨id, known⟩, card, kind, carded, typed⟩ := bound
  cases here : estate.entity? entity with
  | none =>
      have still : (estate.follow entity slot).2 = estate := by simp [follow, here]
      rw [still, link?, here] at known
      cases known
  | some found =>
      have kept : (estate.follow entity slot).2.card? entity = some found.card := by
        apply ((undisturbed_follow entity slot estate).1 found.model).cards
        rw [card?, here]
        rfl
      obtain rfl := Option.some.inj (carded.symm.trans kept)
      have access := follow_access here typed
      generalize (estate.follow entity slot).2 = after at access known alive
      generalize Call.Answer.ofFollow (estate.follow entity slot).1 = answer at access
      cases access with
      | unset unset =>
          rw [link_of here, unset] at known
          cases known
      | known set held =>
          rw [link_of here, set] at known
          obtain rfl := Option.some.inj known
          exact congrArg Call.Answer.entity (known_target held).symm
      | dropped set unknown | missing set unknown =>
          rw [link_of here, set] at known
          obtain rfl := Option.some.inj known
          simp [knownTarget, Option.filter, alive] at unknown
      | stored set unknown lives present =>
          rw [link_modified here, links_set] at known
          exact congrArg (fun link => Call.Answer.entity link.target) (Option.some.inj known)

end Estate

namespace Call

open Estate

variable {Outside : Type} {estate : Estate Outside} {entity target : EntityRef} {slot : Slot}
  {call : Call}

/-- The call lets the slot know the target. -/
inductive Binds (estate : Estate Outside) (entity : EntityRef) (slot : Slot) (target : EntityRef) :
    Call → Prop where
  | pointed {found : Entity} {kind : Kind} (here : estate.entity? entity = some found)
      (typed : found.kind.target? slot = some kind) (there : (estate.entity? target).isSome = true) :
      Binds estate entity slot target (.pointAt entity slot target)
  | named {found : Entity} {kind : Kind} {id : ResourceId} (here : estate.entity? entity = some found)
      (typed : found.kind.target? slot = some kind) (lives : estate.modelLives found.model = true)
      (present : estate.stored found.model kind id = some target) :
      Binds estate entity slot target (.pointById entity slot id)
  /-- The slot knows no target that lives, and its entity is added while the model stores the target under
  the identity that the slot holds. Whether the sink takes the addition does not matter. -/
  | added {model : ModelRef} {found : Entity} {kind : Kind} {link : Link}
      (here : estate.entity? entity = some found) (made : (estate.model? model).isSome = true)
      (given : found.id.isNil = false) (own : found.model = model)
      (typed : found.kind.target? slot = some kind) (set : found.links slot = some link)
      (unknown : estate.knownTarget link = none)
      (present : estate.stored model kind link.id = some target) :
      Binds estate entity slot target (.add model entity)

theorem Binds.typed (binds : call.Binds estate entity slot target) :
    ∃ card kind, estate.card? entity = some card ∧ card.kind.target? slot = some kind := by
  cases binds with
  | pointed here typed | named here typed | added here _ _ _ typed => exact typed_of here typed

theorem binds_unseen {Other : Type} {outside : Other}
    (binds : call.Binds (estate.amid outside) entity slot target) :
    call.Binds estate entity slot target := by
  cases binds with
  | pointed here typed there => exact .pointed here typed there
  | named here typed lives present => exact .named here typed lives present
  | added here made given own typed set unknown present =>
      exact .added here made given own typed set unknown present

theorem Binds.reached (binds : call.Binds estate entity slot target)
    (alive : estate.entityLives target = true) :
    (call.opening estate).reached.Bound entity slot target := by
  obtain ⟨card, kind, carded, typed⟩ := binds.typed
  refine ⟨?_, card, kind, (call.opening_effect estate).reached.cards carded, typed⟩
  cases binds with
  | pointed here typed there =>
      obtain ⟨pointed, present⟩ := Option.isSome_iff_exists.mp there
      exact ⟨pointed.id, pointAt_reached here present slot⟩
  | @named found kind id here typed lives present =>
      have named : estate.namedTarget entity slot id = some target := by
        simp only [namedTarget, here, typed, storedFor, lives, Option.bind_some, if_true]
        exact present
      exact ⟨id, named ▸ pointById_reached here slot id⟩
  | @added model found kind link here made given own typed set unknown present =>
      subst own
      obtain ⟨owner, made⟩ := Option.isSome_iff_exists.mp made
      refine ⟨link.id, ?_⟩
      simp only [opening, addOpening, here, made, given, ne_eq, not_true_eq_false, if_false,
        Bool.false_eq_true]
      exact bindSlots_knows here typed set unknown present alive

end Call

namespace Juncture

/-- A call that binds the slot begins here, or the slot was asked and answers the target. -/
inductive Binds (juncture : Juncture) (entity : EntityRef) (slot : Slot) (target : EntityRef) : Prop where
  | begins (begins : juncture.stage = .begins)
      (binds : juncture.call.Binds juncture.now entity slot target)
  | answers (calls : juncture.call = .follow entity slot)
      (answers : juncture.stage = .answers (.entity (some target)))

variable {former latter juncture : Juncture} {entity target : EntityRef} {slot : Slot}

theorem Leads.bound (leads : former.Leads latter)
    (spares : former.stage = .begins → ¬former.call.Sets entity slot)
    (alive : former.now.entityLives target = true) (bound : former.now.Bound entity slot target) :
    latter.now.Bound entity slot target := by
  obtain ⟨⟨id, known⟩, card, kind, carded, typed⟩ := bound
  exact ⟨⟨id, (leads.steady spares).retains known alive⟩, card, kind, leads.cards carded, typed⟩

theorem Founded.followed (founded : juncture.Founded) {answer : Call.Answer}
    (calls : juncture.call = .follow entity slot) (answers : juncture.stage = .answers answer) :
    ∃ start : Estate (List Juncture), answer = .ofFollow (start.follow entity slot).1 ∧
      juncture.now = (start.follow entity slot).2.amid () := by
  obtain ⟨_, _, reaches⟩ := founded
  obtain ⟨call, before, stage, now⟩ := juncture
  obtain rfl : call = .follow entity slot := calls
  obtain rfl : stage = .answers answer := answers
  cases reaches with
  | @ended start _ _ opened =>
      cases opened
      exact ⟨start, rfl, rfl⟩
  | closes opened => cases opened

theorem Leads.binds (leads : former.Leads latter) (begun : former.stage = .begins)
    (binds : former.call.Binds former.now entity slot target)
    (alive : former.now.entityLives target = true) : latter.now.Bound entity slot target := by
  cases leads with
  | goesOn settled | closes _ _ _ _ settled => exact absurd begun settled
  | opens start _ same now opened =>
      rw [now] at binds alive
      have bound := (Call.binds_unseen binds).reached alive
      rw [opened]
      exact ⟨bound.known, bound.typed⟩

end Juncture

namespace Script

def Alive (script : Script) (target : EntityRef) (first last : Nat) : Prop :=
  ∀ index juncture, first ≤ index → index ≤ last → script.log[index]? = some juncture →
    juncture.now.entityLives target = true

variable {first last : Nat} {entity target : EntityRef} {slot : Slot}

theorem Alive.later {script : Script} {middle : Nat} (alive : script.Alive target first last)
    (reaches : first ≤ middle) : script.Alive target middle last :=
  fun index juncture beyond => alive index juncture (Nat.le_trans reaches beyond)

/-- What a slot knows it knows at every later juncture, as long as it lives and the slot is not set. -/
theorem bound_lasts (script : Script) {start juncture : Juncture}
    (here : script.log[first]? = some start) (bound : start.now.Bound entity slot target)
    (later : first ≤ last) (there : script.log[last]? = some juncture)
    (alive : script.Alive target first last)
    (unset : ∀ index between, first ≤ index → index < last → script.log[index]? = some between →
      between.stage = .begins → ¬between.call.Sets entity slot) :
    juncture.now.Bound entity slot target := by
  refine script.log_passes (fun juncture => juncture.now.Bound entity slot target) here bound ?_ last
    later (Nat.le_refl last) juncture there
  intro index former latter beyond below isFormer _ leads holds
  apply leads.bound (unset index former beyond below isFormer) _ holds
  exact alive index former beyond (Nat.le_of_lt below) isFormer

/-- Once a slot was bound to a target, by a call that begins or by its own answer, it answers that target
whenever it is asked, as long as the target lives and no call that points the slot anywhere begins. -/
theorem bound_answers (script : Script) {bound access : Juncture} {answer : Call.Answer}
    (here : script.log[first]? = some bound) (binds : bound.Binds entity slot target)
    (later : first < last) (there : script.log[last]? = some access)
    (asks : access.call = .follow entity slot) (answers : access.stage = .answers answer)
    (alive : script.Alive target first last) (unset : script.Unset entity slot first last) :
    answer = .entity (some target) := by
  have reached : access.now.Bound entity slot target := by
    cases binds with
    | begins begins binds =>
        obtain ⟨inside, _⟩ := List.getElem?_eq_some_iff.mp there
        have next : script.log[first + 1]? = some script.log[first + 1] :=
          List.getElem?_eq_getElem (Nat.lt_of_le_of_lt later inside)
        have known := (script.log_leads here next).binds begins binds
          (alive first bound (Nat.le_refl first) (Nat.le_of_lt later) here)
        exact script.bound_lasts next known later there (alive.later (Nat.le_succ first)) unset
    | answers calls answered =>
        obtain ⟨start, same, now⟩ := (script.log_founded (List.mem_of_getElem? here)).followed calls answered
        have known := Estate.follow_binds same.symm
        have bound_now : bound.now.Bound entity slot target := by
          rw [now]
          exact ⟨known.known, known.typed⟩
        refine script.bound_lasts here bound_now (Nat.le_of_lt later) there alive ?_
        intro index between beyond below isBetween begins
        rcases Nat.eq_or_lt_of_le beyond with same | above
        · subst same
          obtain rfl := Option.some.inj (here.symm.trans isBetween)
          cases answered.symm.trans begins
        · exact unset index between above below isBetween begins
  obtain ⟨start, same, now⟩ := (script.log_founded (List.mem_of_getElem? there)).followed asks answers
  have living := alive last access (Nat.le_of_lt later) (Nat.le_refl last) there
  rw [now] at reached living
  rw [same]
  exact Estate.follow_bound ⟨reached.known, reached.typed⟩ living

/-- A context is pointed at an identity that nothing has yet. A second context gets it, the first one is
added, which the sink refuses, and then the second is replaced by a third, which is deleted, and the model
is dropped before the slot is asked. -/
def faithful : Script :=
  .call (.newModel (.made 0)) .done (.ok ()) <|
  .call (.elsewhere [.discard] [] [.model ⟨0⟩, .entity ⟨0⟩, .entity ⟨1⟩]) .done (.ok ()) <|
  .call (.newEntity ⟨0⟩ .context (.repeating 5)) .done (.ok ()) <|
  .call (.newEntity ⟨0⟩ .context (.repeating 8)) .done (.ok ()) <|
  .call (.newEntity ⟨0⟩ .context (.repeating 8)) .done (.ok ()) <|
  .call (.pointById ⟨0⟩ .parent (.repeating 8)) .done (.ok ()) <|
  .call (.add ⟨0⟩ ⟨1⟩) .done (.ok ()) <|
  .call (.add ⟨0⟩ ⟨0⟩) .done (.error (.serialization "no room")) <|
  .call (.add ⟨0⟩ ⟨2⟩) .done (.ok ()) <|
  .call (.delete ⟨0⟩ .context (.repeating 8)) .done (.ok ()) <|
  .call (.elsewhere [.discard] [] [.entity ⟨0⟩, .entity ⟨1⟩]) .done (.ok ()) <|
  .call (.follow ⟨0⟩ .parent) .done (.ok ()) .done

theorem faithful_answers : ∃ access answer, faithful.log[27]? = some access ∧
    access.call = .follow ⟨0⟩ .parent ∧ access.stage = .answers answer ∧
    answer = .entity (some ⟨1⟩) := by
  have alive : faithful.Alive ⟨1⟩ 15 27 := by
    have lives : (faithful.log.drop 15).all fun juncture => juncture.now.entityLives ⟨1⟩ := by rfl
    intro index juncture beyond _ here
    have member : juncture ∈ faithful.log.drop 15 := by
      apply List.mem_of_getElem? (i := index - 15)
      rw [List.getElem?_drop, Nat.add_sub_cancel' beyond, here]
    exact List.all_eq_true.mp lives juncture member
  have unset : faithful.Unset ⟨0⟩ .parent 15 27 := by
    intro index juncture beyond below here _ sets
    interval_cases index <;> obtain rfl := Option.some.inj here
    all_goals exact sets
  refine ⟨_, _, rfl, rfl, rfl, ?_⟩
  exact faithful.bound_answers rfl (.begins rfl (.added rfl rfl rfl (by rfl) rfl rfl rfl rfl)) (by decide) rfl rfl rfl
    alive unset

end Script

end Landscape

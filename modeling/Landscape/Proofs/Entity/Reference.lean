import Landscape.Proofs.Entity.Slots

/-!
References and what they answer. A slot answers the target that it knows while that lives, and otherwise what
is stored under its identity in the living model; so it never answers an entity with another identity, a
target that is gone does not stand in the way of one that took its place, and a slot that was pointed
elsewhere does not lead back. Asking is heard by nobody and changes nothing but what the slot knows.
-/

namespace Landscape

namespace Estate

variable {Outside : Type} {estate after : Estate Outside} {entity : EntityRef} {found : Entity}
  {slot : Slot} {kind : Kind} {answer : Call.Answer}

/-- The answer of a slot, with what is left after asking. -/
inductive Access (estate : Estate Outside) (entity : EntityRef) (found : Entity) (slot : Slot)
    (kind : Kind) : Call.Answer → Estate Outside → Prop where
  | unset (unset : found.links slot = none) : Access estate entity found slot kind (.entity none) estate
  | known {link : Link} {target : EntityRef} (set : found.links slot = some link)
      (known : estate.knownTarget link = some target) :
      Access estate entity found slot kind (.entity (some target)) estate
  | dropped {link : Link} (set : found.links slot = some link)
      (unknown : estate.knownTarget link = none) (gone : estate.modelLives found.model = false) :
      Access estate entity found slot kind (.refused .modelDropped) estate
  | stored {link : Link} {target : EntityRef} (set : found.links slot = some link)
      (unknown : estate.knownTarget link = none) (lives : estate.modelLives found.model = true)
      (present : estate.stored found.model kind link.id = some target) :
      Access estate entity found slot kind (.entity (some target))
        (estate.modifyEntity entity (Entity.setLink slot ⟨link.id, some target⟩))
  | missing {link : Link} (set : found.links slot = some link)
      (unknown : estate.knownTarget link = none) (lives : estate.modelLives found.model = true)
      (absent : estate.stored found.model kind link.id = none) :
      Access estate entity found slot kind (.refused (.notFound (.entity kind) link.id)) estate

theorem follow_access (here : estate.entity? entity = some found)
    (typed : found.kind.target? slot = some kind) :
    estate.Access entity found slot kind (.ofFollow (estate.follow entity slot).1)
      (estate.follow entity slot).2 := by
  simp only [follow, here, typed]
  cases set : found.links slot with
  | none => exact .unset set
  | some link =>
      cases known : estate.knownTarget link with
      | some target =>
          simp only [known]
          exact .known set known
      | none =>
          by_cases lives : estate.modelLives found.model = true
          · cases held : (estate.registry found.model kind).get? link.id with
            | none =>
                simp only [known, lives, held, if_true]
                exact .missing set known lives held
            | some target =>
                have learned : estate.modifyEntity entity (Entity.learnTarget slot target) =
                    estate.modifyEntity entity (Entity.setLink slot ⟨link.id, some target⟩) :=
                  modifyEntity_congr here (learnTarget_eq set target)
                simp only [known, lives, held, if_true, learned]
                exact .stored set known lives held
          · have gone : estate.modelLives found.model = false := by simpa using lives
            simp only [known, gone, Bool.false_eq_true, if_false]
            exact .dropped set known gone

theorem follow_typed {target : EntityRef}
    (answered : Call.Answer.ofFollow (estate.follow entity slot).1 = .entity (some target)) :
    ∃ found kind, estate.entity? entity = some found ∧ found.kind.target? slot = some kind := by
  simp only [follow] at answered
  split at answered
  · cases answered
  · next found here =>
      split at answered
      · next link kind set typed => exact ⟨found, kind, here, typed⟩
      · cases answered

theorem Access.none_iff (access : estate.Access entity found slot kind answer after) :
    answer = .entity none ↔ found.links slot = none := by
  cases access with
  | unset unset => exact iff_of_true rfl unset
  | known set | dropped set | stored set | missing set =>
      apply iff_of_false nofun
      rw [set]
      nofun

theorem Access.replaces (access : estate.Access entity found slot kind answer after) {link : Link}
    {target : EntityRef} (set : found.links slot = some link) (unknown : estate.knownTarget link = none)
    (lives : estate.modelLives found.model = true)
    (held : estate.stored found.model kind link.id = some target) : answer = .entity (some target) := by
  cases access with
  | unset unset => cases set.symm.trans unset
  | known other known =>
      obtain rfl := Option.some.inj (set.symm.trans other)
      cases unknown.symm.trans known
  | dropped _ _ gone => cases lives.symm.trans gone
  | stored other _ _ present =>
      obtain rfl := Option.some.inj (set.symm.trans other)
      exact congrArg Call.Answer.entity (present.symm.trans held)
  | missing other _ _ absent =>
      obtain rfl := Option.some.inj (set.symm.trans other)
      cases held.symm.trans absent

theorem known_target {link : Link} {target : EntityRef}
    (known : estate.knownTarget link = some target) : link.target = some target :=
  (Option.filter_eq_some_iff.mp known).1

theorem Access.named (access : estate.Access entity found slot kind answer after)
    (sound : estate.Sound) (here : estate.entity? entity = some found) {target : EntityRef}
    (answered : answer = .entity (some target)) :
    ∃ link, found.links slot = some link ∧ (estate.card? target).map Card.id = some link.id := by
  cases access with
  | unset | dropped | missing => cases answered
  | known set known =>
      cases answered
      exact ⟨_, set, (sound.well entity found here).aimed slot _ target set (known_target known)⟩
  | stored set unknown lives present =>
      cases answered
      exact ⟨_, set, congrArg (Option.map Card.id) (sound.placed _ _ _ target present)⟩

/-- All that is to be said of asking a slot of an entity. -/
structure Resolves (estate : Estate Outside) (entity : EntityRef) (found : Entity) (slot : Slot)
    (kind : Kind) : Prop where
  aimed : ∀ link target, found.links slot = some link → estate.knownTarget link = some target →
    (estate.card? target).map Card.id = some link.id
  access : ∀ deliver : Deliver Outside, estate.Access entity found slot kind
    ((Call.follow entity slot).perform deliver estate).1
    ((Call.follow entity slot).perform deliver estate).2
  unset : ∀ deliver : Deliver Outside,
    ((Call.follow entity slot).perform deliver estate).1 = .entity none ↔ found.links slot = none
  named : ∀ (deliver : Deliver Outside) target,
    ((Call.follow entity slot).perform deliver estate).1 = .entity (some target) →
    ∃ link, found.links slot = some link ∧ (estate.card? target).map Card.id = some link.id
  replaced : ∀ (deliver : Deliver Outside) link gone target, found.links slot = some link →
    link.target = some gone → estate.entityLives gone = false →
    estate.modelLives found.model = true → estate.stored found.model kind link.id = some target →
    ((Call.follow entity slot).perform deliver estate).1 = .entity (some target)
  silent : ∀ deliver : Deliver Outside, (Call.follow entity slot).handed deliver estate = []

theorem resolves_of_sound (sound : estate.Sound) (here : estate.entity? entity = some found)
    (typed : found.kind.target? slot = some kind) : estate.Resolves entity found slot kind where
  aimed link target set known :=
    (sound.well entity found here).aimed slot link target set (known_target known)
  access deliver := follow_access here typed
  unset deliver := (follow_access here typed).none_iff
  named deliver target answered := (follow_access here typed).named sound here answered
  replaced deliver link gone target set knew dead lives held := by
    have unknown : estate.knownTarget link = none := by
      rw [knownTarget, knew]
      simp [Option.filter, dead]
    exact (follow_access here typed).replaces set unknown lives held
  silent deliver := by
    have outside := (undisturbed_follow entity slot (estate.amid (estate.outside, ([] : List Handed)))).2
    exact congrArg Prod.snd outside

end Estate

inductive Juncture.Points (juncture : Juncture) (entity : EntityRef) (slot : Slot) (id : ResourceId) :
    Prop where
  | byId (begins : juncture.stage = .begins) (calls : juncture.call = .pointById entity slot id)
      (here : (juncture.now.entity? entity).isSome)
  | byTarget (target : EntityRef) (begins : juncture.stage = .begins)
      (calls : juncture.call = .pointAt entity slot target) (here : (juncture.now.entity? entity).isSome)
      (names : (juncture.now.card? target).map Card.id = some id)

theorem Juncture.Points.leads {former latter : Juncture} {entity : EntityRef} {slot : Slot}
    {id : ResourceId} (points : former.Points entity slot id) (leads : former.Leads latter) :
    (latter.now.link? entity slot).map Link.id = some id := by
  have begun : former.stage = .begins := by
    cases points with
    | byId begins | byTarget _ begins => exact begins
  cases leads with
  | goesOn settled | closes _ _ _ _ settled => exact absurd begun settled
  | opens start _ same now opened =>
      rw [opened]
      cases points with
      | byId begins calls here =>
          rw [now] at here
          obtain ⟨found, present⟩ := Option.isSome_iff_exists.mp here
          have started : start.entity? entity = some found := present
          rw [calls]
          exact congrArg (Option.map Link.id) (Call.pointById_reached started slot id)
      | byTarget target begins calls here names =>
          rw [now] at here names
          obtain ⟨found, present⟩ := Option.isSome_iff_exists.mp here
          have started : start.entity? entity = some found := present
          obtain ⟨card, carded, rfl⟩ := Option.map_eq_some_iff.mp names
          obtain ⟨pointed, there, rfl⟩ := Option.map_eq_some_iff.mp carded
          have aim : start.entity? target = some pointed := there
          rw [calls]
          exact congrArg (Option.map Link.id) (Call.pointAt_reached started aim slot)

namespace Script

theorem points_lasts (script : Script) {first last : Nat} {set juncture : Juncture}
    {entity : EntityRef} {slot : Slot} {id : ResourceId} (here : script.log[first]? = some set)
    (points : set.Points entity slot id) (there : script.log[last]? = some juncture)
    (after : first < last) (unset : script.Unset entity slot first last) :
    (juncture.now.link? entity slot).map Link.id = some id := by
  obtain ⟨inside, _⟩ := List.getElem?_eq_some_iff.mp there
  have next : script.log[first + 1]? = some script.log[first + 1] :=
    List.getElem?_eq_getElem (Nat.lt_of_le_of_lt after inside)
  have start := points.leads (script.log_leads here next)
  refine script.log_passes (fun juncture => (juncture.now.link? entity slot).map Link.id = some id)
    next start ?_ last after (Nat.le_refl last) juncture there
  intro index former latter beyond below isFormer _ leads holds
  have steady := leads.steady (unset index former beyond below isFormer)
  exact steady.id.trans holds

/-- In every estate that a run comes through, asking any slot of any entity goes as it should; and a slot
that was pointed at an identity, by that identity or at an entity that has it, never answers an entity with
another one before it is pointed somewhere again. -/
theorem slots_resolve (script : Script) :
    (∀ juncture ∈ script.log, ∀ entity found slot kind, juncture.now.entity? entity = some found →
      found.kind.target? slot = some kind → juncture.now.Resolves entity found slot kind) ∧
    ∀ first last set juncture entity slot id, script.log[first]? = some set →
      set.Points entity slot id → script.log[last]? = some juncture → first < last →
      script.Unset entity slot first last →
      (juncture.now.link? entity slot).map Link.id = some id ∧
      ∀ (deliver : Deliver Unit) target,
        ((Call.follow entity slot).perform deliver juncture.now).1 = .entity (some target) →
        (juncture.now.card? target).map Card.id = some id := by
  constructor
  · intro juncture member entity found slot kind here typed
    obtain ⟨sound, grows, _⟩ := script.log_founded member
    exact Estate.resolves_of_sound (grows.sound sound) here typed
  · intro first last set juncture entity slot id here points there after unset
    have holds := script.points_lasts here points there after unset
    refine ⟨holds, ?_⟩
    intro deliver target answered
    obtain ⟨sound, grows, _⟩ := script.log_founded (List.mem_of_getElem? there)
    obtain ⟨found, kind, present, typed⟩ := Estate.follow_typed answered
    have resolves := Estate.resolves_of_sound (grows.sound sound) present typed
    obtain ⟨link, held, named⟩ := resolves.named deliver target answered
    rw [Estate.link_of present, held] at holds
    exact named.trans holds

/-- A context is pointed at one parent and then, by its identity, at another one that is stored. -/
def repointed : Script :=
  .call (.newModel (.made 0)) .done (.ok ()) <|
  .call (.elsewhere [.discard] [] [.model ⟨0⟩, .entity ⟨1⟩]) .done (.ok ()) <|
  .call (.newEntity ⟨0⟩ .context (.repeating 5)) .done (.ok ()) <|
  .call (.newEntity ⟨0⟩ .context (.repeating 8)) .done (.ok ()) <|
  .call (.newEntity ⟨0⟩ .context (.repeating 9)) .done (.ok ()) <|
  .call (.add ⟨0⟩ ⟨2⟩) .done (.ok ()) <|
  .call (.pointAt ⟨0⟩ .parent ⟨1⟩) .done (.ok ()) <|
  .call (.pointById ⟨0⟩ .parent (.repeating 9)) .done (.ok ()) <|
  .call (.follow ⟨0⟩ .parent) .done (.ok ()) .done

theorem repointed_resolves : ∃ juncture found, repointed.log[17]? = some juncture ∧
    juncture.call = .follow ⟨0⟩ .parent ∧ juncture.now.entity? ⟨0⟩ = some found ∧
    juncture.now.Resolves ⟨0⟩ found .parent .context ∧
    (juncture.now.link? ⟨0⟩ .parent).map Link.id = some (.repeating 9) := by
  have unset : repointed.Unset ⟨0⟩ .parent 15 17 := by
    intro index juncture beyond below between begins
    obtain rfl : index = 16 := by omega
    obtain rfl := Option.some.inj between
    cases begins
  refine ⟨_, _, rfl, rfl, rfl, ?_, ?_⟩
  · exact repointed.slots_resolve.1 _ (List.mem_of_getElem? (i := 17) rfl) _ _ _ _ rfl rfl
  · exact (repointed.slots_resolve.2 15 17 _ _ ⟨0⟩ .parent (.repeating 9) rfl (.byId rfl rfl rfl) rfl
      (by decide) unset).1

end Script

end Landscape

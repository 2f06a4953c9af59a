import Landscape.Proofs.Entity.Edit
import Landscape.Proofs.Entity.Slots
import Landscape.Proofs.Records

/-!
What can be read of an entity, and which call writes what. Each setter, each setter of a reference and each
change of annotations writes the readers that belong to it; all others answer as before. A setter that finds
nothing to change would have written what is there.
-/

namespace Landscape

/-- What can be read of an entity without following its references. A map of annotations is told by the value
of each key. -/
inductive Reader where
  | kind | id | model | registration
  | displayName | summary | description
  | version | isAbstract | apiType | consumes | provides | resources
  | slotId (slot : Slot)
  | slotTarget (slot : Slot)
  | note (key : String)

namespace Reader

def Value : Reader → Type
  | kind => Kind
  | id => ResourceId
  | model => ModelRef
  | registration => Registration
  | displayName | description => String
  | summary | note _ => Option String
  | version => Option Version
  | isAbstract => Option Bool
  | apiType => Option ApiType
  | consumes | provides => Option (List ResourceId)
  | resources => Option (List ResourceRef)
  | slotId _ => Option ResourceId
  | slotTarget _ => Option EntityRef

def read (found : Entity) : (reader : Reader) → reader.Value
  | kind => found.kind
  | id => found.id
  | model => found.model
  | registration => found.registration
  | displayName => found.displayName
  | summary => if found.kind = .finding then some found.displayName else none
  | description => found.description
  | version => found.details.version?
  | isAbstract => found.details.isAbstract?
  | apiType => found.details.apiType?
  | consumes => found.details.consumes?
  | provides => found.details.provides?
  | resources => found.details.resources?
  | slotId slot => (found.links slot).map Link.id
  | slotTarget slot => (found.links slot).bind Link.target
  | note key => found.annotations.get? key

end Reader

namespace Edit

variable {Outside : Type}

def listed (reference : ResourceRef) (references : List ResourceRef) : List ResourceRef :=
  if reference ∈ references then references else references ++ [reference]

/-- What an edit writes: the value that a reader answers from then on, for the readers that belong to the
edit. -/
def writes (estate : Estate Outside) (found : Entity) : Edit → (reader : Reader) → Option reader.Value
  | set (.displayName text), .displayName => some text
  | set (.displayName text), .summary => some (if found.kind = .finding then some text else none)
  | set (.summary text), .displayName => some text
  | set (.summary text), .summary => some (some text)
  | set (.description text), .description => some text
  | set (.version version), .version => some (some version)
  | set (.isAbstract flag), .isAbstract => some (some flag)
  | set (.apiType type), .apiType => some (some type)
  | set (.consumes ids), .consumes => some (some ids)
  | set (.provides ids), .provides => some (some ids)
  | set (.resources references), .resources => some (some references)
  | set (.addResource reference), .resources => some (found.details.resources?.map (listed reference))
  | pointById slot id, .slotId asked => if asked = slot then some (some id) else none
  | pointById slot id, .slotTarget asked =>
      if asked = slot then
        some ((found.kind.target? slot).bind fun kind => estate.storedFor found kind id)
      else none
  | pointAt slot target, .slotId asked =>
      if asked = slot then some ((estate.entity? target).map Entity.id) else none
  | pointAt slot target, .slotTarget asked => if asked = slot then some (some target) else none
  | annotate key value, .note asked => if asked = key then some (some value) else none
  | unannotate key, .note asked => if asked = key then some none else none
  | _, _ => none

/-- The edit is one that entities of this kind have, and points a slot at a target of the slot's kind. -/
def Typed (estate : Estate Outside) (found : Entity) : Edit → Prop
  | set change => found.kind.has change.field = true
  | pointById slot _ => (found.kind.target? slot).isSome = true
  | pointAt slot target => ∃ kind, found.kind.target? slot = some kind ∧
      (estate.card? target).map Card.kind = some kind
  | annotate _ _ | unannotate _ => True

variable {estate : Estate Outside} {found : Entity} {edit : Edit}

theorem Typed.fits (typed : edit.Typed estate found) : edit.Fits estate := by
  cases edit with
  | pointAt slot target =>
      obtain ⟨kind, _, aimed⟩ := typed
      obtain ⟨card, known, _⟩ := Option.map_eq_some_iff.mp aimed
      obtain ⟨pointed, there, _⟩ := Option.map_eq_some_iff.mp known
      exact Option.isSome_iff_exists.mpr ⟨pointed, there⟩
  | _ => trivial

theorem read_set (suited : found.details.owner? = (Details.blank found.kind).owner?) {wanted : Change}
    (has : found.kind.has wanted.field = true) (reader : Reader)
    (busy : found.absorbs wanted = false) :
    reader.read (found.change wanted) =
      ((set wanted).writes estate found reader).getD (reader.read found) := by
  obtain ⟨kind, id, model, registration, displayName, description, details, links, annotations⟩ := found
  -- the kind that has a detail settles the form of the details, and then each reader can be asked
  cases wanted with
  | displayName | description => cases reader <;> rfl
  | summary text =>
      have finding : kind = .finding := of_decide_eq_true has
      subst finding
      cases reader <;> rfl
  | version version =>
      cases details with
      | plain | finding => cases kind <;> simp_all [Details.blank, Details.owner?, Kind.has, Change.field]
      | _ => cases reader <;> rfl
  | isAbstract flag =>
      have system : kind = .system := of_decide_eq_true has
      subst system
      cases details <;> cases suited
      cases reader <;> rfl
  | apiType type =>
      have api : kind = .api := of_decide_eq_true has
      subst api
      cases details <;> cases suited
      cases reader <;> rfl
  | consumes | provides =>
      have component : kind = .component := of_decide_eq_true has
      subst component
      cases details <;> cases suited
      cases reader <;> rfl
  | resources references =>
      have finding : kind = .finding := of_decide_eq_true has
      subst finding
      cases details <;> cases suited
      cases reader <;> rfl
  | addResource reference =>
      have finding : kind = .finding := of_decide_eq_true has
      subst finding
      cases details <;> cases suited
      next references =>
        have missing : reference ∉ references := by simpa [Entity.absorbs] using busy
        have appended : listed reference references = references ++ [reference] := if_neg missing
        cases reader with
        | resources => exact congrArg some appended.symm
        | _ => rfl

theorem getD_ite {Value : Type} {wrote : Prop} [Decidable wrote] (value former : Value) :
    (if wrote then some value else none).getD former = if wrote then value else former := by
  split <;> rfl

theorem slotId_setLink (slot asked : Slot) (link : Link) (found : Entity) :
    ((found.setLink slot link).links asked).map Link.id =
      if asked = slot then some link.id else (found.links asked).map Link.id := by
  simp only [Entity.setLink]
  split <;> rfl

theorem slotTarget_setLink (slot asked : Slot) (link : Link) (found : Entity) :
    ((found.setLink slot link).links asked).bind Link.target =
      if asked = slot then link.target else (found.links asked).bind Link.target := by
  simp only [Entity.setLink]
  split <;> rfl

theorem read_change (suited : found.details.owner? = (Details.blank found.kind).owner?)
    (typed : edit.Typed estate found) (busy : edit.isIdle found = false) (reader : Reader) :
    reader.read (edit.change estate found) =
      (edit.writes estate found reader).getD (reader.read found) := by
  cases edit with
  | set wanted => exact read_set suited typed reader busy
  | pointById slot id =>
      cases reader with
      | slotId asked => exact (slotId_setLink slot asked _ found).trans (getD_ite _ _).symm
      | slotTarget asked => exact (slotTarget_setLink slot asked _ found).trans (getD_ite _ _).symm
      | _ => rfl
  | pointAt slot target =>
      obtain ⟨pointed, there⟩ := Option.isSome_iff_exists.mp typed.fits
      rw [change, there]
      cases reader with
      | slotId asked =>
          simp only [writes, there]
          exact (slotId_setLink slot asked _ found).trans (getD_ite _ _).symm
      | slotTarget asked => exact (slotTarget_setLink slot asked _ found).trans (getD_ite _ _).symm
      | _ => rfl
  | annotate key value =>
      cases reader with
      | note asked => exact (Records.get_insert key value asked _).trans (getD_ite _ _).symm
      | _ => rfl
  | unannotate key =>
      cases reader with
      | note asked => exact (Records.get_erase key asked _).trans (getD_ite _ _).symm
      | _ => rfl

theorem read_idle (idle : edit.isIdle found = true) (reader : Reader) :
    reader.read found = (edit.writes estate found reader).getD (reader.read found) := by
  -- to list a reference, to annotate and to remove a note are all that can be idle
  cases edit with
  | set wanted =>
      cases wanted with
      | addResource reference =>
          cases reader with
          | resources =>
              have absorbed : found.absorbs (.addResource reference) = true := idle
              cases form : found.details with
              | finding references =>
                  have there : reference ∈ references := by simpa [Entity.absorbs, form] using absorbed
                  simp only [Reader.read, writes, form]
                  exact congrArg some (if_pos there).symm
              | _ => simp [Entity.absorbs, form] at absorbed
          | _ => rfl
      | _ => cases idle
  | pointById | pointAt => cases idle
  | annotate key value =>
      have same : found.annotations.get? key = some value := of_decide_eq_true idle
      cases reader with
      | note asked =>
          by_cases own : asked = key
          · simp only [Reader.read, writes, if_pos own]
            exact own ▸ same
          · simp only [Reader.read, writes, if_neg own]
            rfl
      | _ => rfl
  | unannotate key =>
      have absent : found.annotations.get? key = none := by
        simpa [isIdle, Records.contains] using idle
      cases reader with
      | note asked =>
          by_cases own : asked = key
          · simp only [Reader.read, writes, if_pos own]
            exact own ▸ absent
          · simp only [Reader.read, writes, if_neg own]
            rfl
      | _ => rfl

/-- What is read after an edit, whether there was anything to change or not. -/
theorem read_applied (suited : found.details.owner? = (Details.blank found.kind).owner?)
    (typed : edit.Typed estate found) (reader : Reader) :
    reader.read (edit.applied estate found) =
      (edit.writes estate found reader).getD (reader.read found) := by
  cases idle : edit.isIdle found with
  | true =>
      rw [applied, if_pos idle]
      exact read_idle idle reader
  | false =>
      rw [applied, if_neg (by simp [idle])]
      exact read_change suited typed idle reader

end Edit

end Landscape

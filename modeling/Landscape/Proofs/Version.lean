import Landscape.Proofs.Codec
import Landscape.Version

/-!
Versions and their JSON. The text of a version names it: it is read back as the version, so equal texts are
those of equal versions. A date that is absent is not written, and a date that is not written or null is
read as absent. This is so whatever the texts of JSON and of dates are, as long as those read back. In the form
that dates have here a date may be written in many ways; what denotes the same makes the same version.
-/

namespace Landscape

inductive DateField where
  | absent
  | null
  | written (text : String)

namespace DateField

def ofDateBy (text : Instant → String) : Option Instant → DateField
  | none => absent
  | some instant => written (text instant)

def ofDate : Option Instant → DateField := ofDateBy Instant.text

def members (name : String) : DateField → List Json.Member
  | absent => []
  | null => [Json.member name .null]
  | written text => [Json.member name (.text text)]

def value? : DateField → Option Json
  | absent => none
  | null => some .null
  | written text => some (.text text)

/-- A field that gives no date gives an absent one; another gives the instant that its text is read as. -/
inductive GivesBy (parse? : String → Option Instant) : DateField → Option Instant → Prop where
  | absent : GivesBy parse? absent none
  | null : GivesBy parse? null none
  | written {text : String} {instant : Instant} (reads : parse? text = some instant) :
      GivesBy parse? (written text) (some instant)

/-- The same of dates as they are written here: the text denotes the instant. -/
inductive Gives : DateField → Option Instant → Prop where
  | absent : Gives absent none
  | null : Gives null none
  | written {writing : Instant.Writing} {instant : Instant} (denotes : writing.moment = instant.moment) :
      Gives (written writing.text) (some instant)

theorem Gives.reads {field : DateField} {date : Option Instant} (gives : field.Gives date) :
    field.GivesBy Instant.parse? date := by
  cases gives with
  | absent => exact .absent
  | null => exact .null
  | written denotes => exact .written (Instant.Writing.parse_eq_some_iff.mpr denotes.symm)

theorem gives_ofDateBy (dates : Codec Instant) (date : Option Instant) :
    (ofDateBy dates.write date).GivesBy dates.read? date := by
  cases date with
  | none => exact .absent
  | some instant => exact .written (dates.reads instant)

theorem GivesBy.read {parse? : String → Option Instant} {field : DateField} {date : Option Instant}
    (gives : field.GivesBy parse? date) :
    Json.optional? (Json.textBy? parse?) field.value? = some date := by
  cases gives with
  | absent | null => rfl
  | written reads => simp [value?, Json.optional?, Json.text, Json.textBy?, Json.text?, reads]

end DateField

namespace Version

def given (text : String) (availableFrom deprecatedFrom terminatedFrom : DateField) : Json :=
  .object (Json.member "version" (.text text) :: availableFrom.members "availableFrom"
    ++ deprecatedFrom.members "deprecatedFrom" ++ terminatedFrom.members "terminatedFrom")

def ofWire? (text : String) : Option Version := (Json.parse? text).bind ofJson?

def ofTexts? (text : String) (availableFrom deprecatedFrom terminatedFrom : Option String) :
    Option Version := do
  return { new text with
    availableFrom := ← availableFrom.mapM Instant.parse?
    deprecatedFrom := ← deprecatedFrom.mapM Instant.parse?
    terminatedFrom := ← terminatedFrom.mapM Instant.parse? }

theorem toJsonBy_eq_given (write : Instant → String) (version : Version) :
    version.toJsonBy write = given version.version (.ofDateBy write version.availableFrom)
      (.ofDateBy write version.deprecatedFrom) (.ofDateBy write version.terminatedFrom) := by
  obtain ⟨text, availableFrom, deprecatedFrom, terminatedFrom⟩ := version
  cases availableFrom <;> cases deprecatedFrom <;> cases terminatedFrom <;> rfl

variable (text : String) (availableFrom deprecatedFrom terminatedFrom : DateField)

theorem plain_given : (given text availableFrom deprecatedFrom terminatedFrom).Plain := by
  cases availableFrom <;> cases deprecatedFrom <;> cases terminatedFrom <;>
    simp [given, DateField.members, Json.member, Json.text, Json.Plain, Json.PlainMembers]

theorem fields_given :
    (given text availableFrom deprecatedFrom terminatedFrom).fields?
        ["version", "availableFrom", "deprecatedFrom", "terminatedFrom"] 1 =
      some [some (.text text), availableFrom.value?, deprecatedFrom.value?, terminatedFrom.value?] := by
  cases availableFrom <;> cases deprecatedFrom <;> cases terminatedFrom <;> rfl

variable {text availableFrom deprecatedFrom terminatedFrom}

theorem ofJson_given {parse? : String → Option Instant} {first second third : Option Instant}
    (available : availableFrom.GivesBy parse? first) (deprecated : deprecatedFrom.GivesBy parse? second)
    (terminated : terminatedFrom.GivesBy parse? third) :
    ofJsonBy? parse? (given text availableFrom deprecatedFrom terminatedFrom) =
      some ⟨text, first, second, third⟩ := by
  simp [ofJsonBy?, fields_given, Json.required?, Json.text, Json.text?, available.read, deprecated.read,
    terminated.read]

theorem plain_toJsonBy (write : Instant → String) (version : Version) :
    (version.toJsonBy write).Plain := by
  rw [toJsonBy_eq_given]
  exact plain_given _ _ _ _

theorem ofJson_toJsonBy (dates : Codec Instant) (version : Version) :
    ofJsonBy? dates.read? (version.toJsonBy dates.write) = some version := by
  rw [toJsonBy_eq_given]
  exact ofJson_given (DateField.gives_ofDateBy dates _) (DateField.gives_ofDateBy dates _)
    (DateField.gives_ofDateBy dates _)

def codec (json : JsonCodec) (dates : Codec Instant) : Codec Version :=
  json.shape (toJsonBy dates.write) (ofJsonBy? dates.read?) (plain_toJsonBy dates.write)
    (ofJson_toJsonBy dates)

theorem codec_wire : (codec Json.codec Instant.codec).write = wire := rfl

theorem codec_ofWire : (codec Json.codec Instant.codec).read? = ofWire? := rfl

open Instant (Writing)

/-- Dates are built from any texts that denote them. -/
theorem parse_dates {date : Option Instant} {writing : Option Writing}
    (denotes : writing.map Writing.moment = date.map Instant.moment) :
    (writing.map Writing.text).mapM Instant.parse? = some date := by
  cases date with
  | none =>
      obtain rfl := Option.map_eq_none_iff.mp denotes
      rfl
  | some instant =>
      obtain ⟨writing, rfl, same⟩ := Option.map_eq_some_iff.mp denotes
      have parsed := Writing.parse_eq_some_iff.mpr same.symm
      simp [parsed]

theorem parse_dates_congr {one other : Option Writing}
    (same : one.map Writing.moment = other.map Writing.moment) :
    (one.map Writing.text).mapM Instant.parse? = (other.map Writing.text).mapM Instant.parse? := by
  cases one with
  | none =>
      obtain rfl := Option.map_eq_none_iff.mp same.symm
      rfl
  | some one =>
      obtain ⟨other, rfl, moment⟩ := Option.map_eq_some_iff.mp same.symm
      simp [Writing.parse_congr moment]

/-- The JSON text of a version decides it. It is read back as the version; it gives the dates that are there and
no others; and however JSON gives the dates, by any texts that denote them, and by nothing or null where there
is none, the version that is read is the same. So is the version that is built from any texts that denote its
dates. -/
theorem wire_decides :
    (∀ one other : Version, one.wire = other.wire ↔ one = other) ∧
    (∀ version : Version, ofWire? version.wire = some version) ∧
    (∀ version : Version, version.toJson = given version.version (.ofDate version.availableFrom)
      (.ofDate version.deprecatedFrom) (.ofDate version.terminatedFrom)) ∧
    (∀ (version : Version) (availableFrom deprecatedFrom terminatedFrom : DateField),
      availableFrom.Gives version.availableFrom → deprecatedFrom.Gives version.deprecatedFrom →
      terminatedFrom.Gives version.terminatedFrom →
      ofWire? (given version.version availableFrom deprecatedFrom terminatedFrom).compact = some version) ∧
    (∀ (version : Version) (availableFrom deprecatedFrom terminatedFrom : Option Writing),
      availableFrom.map Writing.moment = version.availableFrom.map Instant.moment →
      deprecatedFrom.map Writing.moment = version.deprecatedFrom.map Instant.moment →
      terminatedFrom.map Writing.moment = version.terminatedFrom.map Instant.moment →
      ofTexts? version.version (availableFrom.map Writing.text) (deprecatedFrom.map Writing.text)
        (terminatedFrom.map Writing.text) = some version) ∧
    ∀ (text : String) (availableFrom deprecatedFrom terminatedFrom
        otherAvailable otherDeprecated otherTerminated : Option Writing),
      availableFrom.map Writing.moment = otherAvailable.map Writing.moment →
      deprecatedFrom.map Writing.moment = otherDeprecated.map Writing.moment →
      terminatedFrom.map Writing.moment = otherTerminated.map Writing.moment →
      ofTexts? text (availableFrom.map Writing.text) (deprecatedFrom.map Writing.text)
          (terminatedFrom.map Writing.text) =
        ofTexts? text (otherAvailable.map Writing.text) (otherDeprecated.map Writing.text)
          (otherTerminated.map Writing.text) := by
  refine ⟨?_, ?_, toJsonBy_eq_given Instant.text, ?_, ?_, ?_⟩
  · intro one other
    rw [← codec_wire]
    exact (codec Json.codec Instant.codec).write_inj
  · intro version
    rw [← codec_wire, ← codec_ofWire]
    exact (codec Json.codec Instant.codec).reads version
  · intro version availableFrom deprecatedFrom terminatedFrom available deprecated terminated
    rw [ofWire?, Json.parse_compact (plain_given version.version _ _ _), Option.bind_some, ofJson?]
    exact ofJson_given available.reads deprecated.reads terminated.reads
  · intro version availableFrom deprecatedFrom terminatedFrom available deprecated terminated
    simp only [ofTexts?, parse_dates available, parse_dates deprecated, parse_dates terminated]
    rfl
  · intro text availableFrom deprecatedFrom terminatedFrom _ _ _ available deprecated terminated
    simp only [ofTexts?, parse_dates_congr available, parse_dates_congr deprecated,
      parse_dates_congr terminated]

def ahead : Writing :=
  ⟨⟨2024, 6, 1, by decide, by decide, by decide⟩, 't', 1, 59, 60, ['5'],
    .clock false true 2 0 (by decide) (by decide), by decide, by decide, by decide, by decide,
    List.all_eq_true.mp (by decide)⟩

def universal : Writing :=
  ⟨⟨2024, 5, 31, by decide, by decide, by decide⟩, ' ', 23, 59, 60, ['5', '0', '0', '0'],
    .universal ['z'] (by decide), by decide, by decide, by decide, by decide,
    List.all_eq_true.mp (by decide)⟩

/-- The date is gone over midnight and into another month, and the version is the same. -/
theorem shifted_named : ahead.text = "2024-06-01t01:59:60.5+02:00" ∧
    universal.text = "2024-05-31 23:59:60.5000z" ∧ ahead.moment = universal.moment ∧
    ofTexts? "1" none none (some ahead.text) = ofTexts? "1" none none (some universal.text) ∧
    ∃ version : Version, ofTexts? "1" none none (some ahead.text) = some version ∧
      ofWire? (given "1" .null .absent (.written universal.text)).compact = some version ∧
      version.wire = "\x7b\"version\":\"1\",\"terminatedFrom\":\"2024-05-31T23:59:60.500Z\"\x7d" := by
  have same : ahead.moment = universal.moment := by decide
  obtain ⟨_, _, _, read, built, alike⟩ := wire_decides
  let version : Version := ⟨"1", none, none, some
    ⟨⟨2024, 5, 31, by decide, by decide, by decide⟩, 1439, 60, 500000000, by decide, by decide, by decide⟩⟩
  refine ⟨by decide, by decide, same, alike "1" none none (some ahead) none none (some universal) rfl rfl
    (congrArg some same), version, built version none none (some ahead) rfl rfl (by decide),
    read version .null .absent (.written universal.text) .null .absent (.written (by decide)), ?_⟩
  decide

end Version

end Landscape

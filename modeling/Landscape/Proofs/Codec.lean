import Landscape.Proofs.Identity
import Landscape.Proofs.Instant.Writing
import Landscape.Proofs.Json.Text

/-!
Values and their texts. Of the texts of identities, of instants and of JSON values the shapes that are built
on them need one thing only, that what is written is read back; so their results hold by any such codec, and
the readers and writers of this library are codecs.
-/

namespace Landscape

structure Codec (Value : Type) where
  write : Value → String
  read? : String → Option Value
  reads : ∀ value, read? (write value) = some value

/-- Nothing is assumed of numbers, nor of literals that have no text. -/
structure JsonCodec where
  write : Json → String
  read? : String → Option Json
  reads : ∀ value, value.Plain → read? (write value) = some value

variable {Value : Type}

theorem Codec.write_inj (codec : Codec Value) {one other : Value} :
    codec.write one = codec.write other ↔ one = other := by
  constructor
  · intro same
    have read := codec.reads one
    rw [same, codec.reads] at read
    exact (Option.some.inj read).symm
  · rintro rfl
    rfl

def JsonCodec.shape (json : JsonCodec) (toJson : Value → Json) (ofJson? : Json → Option Value)
    (plain : ∀ value, (toJson value).Plain) (reads : ∀ value, ofJson? (toJson value) = some value) :
    Codec Value where
  write value := json.write (toJson value)
  read? text := (json.read? text).bind ofJson?
  reads value := by rw [json.reads _ (plain value), Option.bind_some, reads]

def ResourceId.codec : Codec ResourceId := ⟨text, parse?, parse_text⟩

def Instant.codec : Codec Instant := ⟨text, parse?, parse_text⟩

def Json.codec : JsonCodec := ⟨compact, parse?, fun _ => parse_compact⟩

end Landscape

import Landscape.Json.Basic

/-!
Reading typed values out of JSON. A record is an object whose other members are ignored, unless a
field is given twice, or an array of its fields in order. A named alternative is its name, or an
object that maps the name to null.
-/

namespace Landscape.Json

def text? : Json → Option String
  | string found => found
  | _ => none

def textBy? {Value : Type} (read : String → Option Value) (json : Json) : Option Value :=
  json.text?.bind read

def listOf? {Value : Type} (read : Json → Option Value) : Json → Option (List Value)
  | array items => items.mapM read
  | _ => none

def name? : Json → Option String
  | string found => found
  | object [(name, null)] => name
  | _ => none

def membersNamed (name : String) : List Member → List Json
  | [] => []
  | (found, value) :: rest =>
      if found = some name then value :: membersNamed name rest else membersNamed name rest

def field? (members : List Member) (name : String) : Option (Option Json) :=
  match membersNamed name members with
  | [] => some none
  | [value] => some (some value)
  | _ => none

/-- The fields of a record by the given names. At least so many must be there in an array. -/
def fields? (names : List String) (least : Nat) : Json → Option (List (Option Json))
  | object members =>
      if members.any fun member => member.1.isNone then none
      else names.mapM (field? members)
  | array items =>
      if least ≤ items.length ∧ items.length ≤ names.length then
        some (items.map some ++ List.replicate (names.length - items.length) none)
      else none
  | _ => none

def required? {Value : Type} (read : Json → Option Value) (field : Option Json) : Option Value :=
  field.bind read

def optional? {Value : Type} (read : Json → Option Value) : Option Json → Option (Option Value)
  | none => some none
  | some null => some none
  | some value => (read value).map some

end Landscape.Json

/-!
Identities of stored entities. An identity is sixteen bytes; its text is the lower-case
hyphenated form of their thirty-two hexadecimal digits. Reading accepts the bare digits, the
hyphenated form, that form in braces, and that form after a `urn:uuid:` label, with digits and
label in any letter case. A refused text is explained by the first rule that it breaks.
-/

namespace Landscape

structure ResourceId where
  bytes : List UInt8
  size_eq : bytes.length = 16
  deriving DecidableEq

/-- Why a text names no identity. Lengths and positions count bytes of the text. -/
inductive IdError where
  | length (found : Nat)
  | character (found : Char) (position : Nat)
  | groupCount (found : Nat)
  | groupLength (group expected found : Nat)
  deriving DecidableEq, Repr

def IdError.message : IdError → String
  | .length found => s!"invalid length: found {found}"
  | .character found position =>
      "invalid character: found `" ++ found.toString ++ "` at " ++ toString position
  | .groupCount found => s!"invalid group count: expected 5, found {found}"
  | .groupLength group expected found =>
      s!"invalid group length in group {group}: expected {expected}, found {found}"

namespace Hex

def digit (value : Nat) : Char :=
  if value < 10 then Char.ofNat (48 + value) else Char.ofNat (87 + value)

def value? (c : Char) : Option Nat :=
  let code := c.toNat
  if 48 ≤ code ∧ code ≤ 57 then some (code - 48)
  else if 97 ≤ code ∧ code ≤ 102 then some (code - 87)
  else if 65 ≤ code ∧ code ≤ 70 then some (code - 55)
  else none

def isDigit (c : Char) : Bool :=
  (value? c).isSome

def ofByte (byte : UInt8) : List Char :=
  [digit (byte.toNat / 16), digit (byte.toNat % 16)]

def ofBytes (bytes : List UInt8) : List Char :=
  bytes.flatMap ofByte

def toBytes? : List Char → Option (List UInt8)
  | [] => some []
  | [_] => none
  | high :: low :: rest =>
      match value? high, value? low, toBytes? rest with
      | some h, some l, some bytes => some (UInt8.ofNat (16 * h + l) :: bytes)
      | _, _, _ => none

end Hex

namespace ResourceId

def ofBytes? (bytes : List UInt8) : Option ResourceId :=
  if size_eq : bytes.length = 16 then some ⟨bytes, size_eq⟩ else none

/-- The identity that no stored entity has; events about annotations carry it. -/
protected def nil : ResourceId := ⟨List.replicate 16 0, rfl⟩

def isNil (id : ResourceId) : Bool :=
  id.bytes.all (· == 0)

instance : LT ResourceId := ⟨fun a b => a.bytes < b.bytes⟩

instance (a b : ResourceId) : Decidable (a < b) :=
  inferInstanceAs (Decidable (a.bytes < b.bytes))

instance : Inhabited ResourceId := ⟨ResourceId.nil⟩

def hyphenate (digits : List Char) : List Char :=
  digits.take 8 ++ '-' :: (digits.drop 8).take 4 ++ '-' :: (digits.drop 12).take 4
    ++ '-' :: (digits.drop 16).take 4 ++ '-' :: digits.drop 20

def chars (id : ResourceId) : List Char :=
  hyphenate (Hex.ofBytes id.bytes)

def text (id : ResourceId) : String :=
  String.ofList id.chars

instance : ToString ResourceId := ⟨text⟩

def unhyphenate? (text : List Char) : Option (List Char) :=
  let digits := text.take 8 ++ (text.drop 9).take 4 ++ (text.drop 14).take 4
    ++ (text.drop 19).take 4 ++ text.drop 24
  if digits.length = 32 ∧ hyphenate digits = text then some digits else none

def urnLabel : List Char := "urn:uuid:".toList

def unlabel? (text : List Char) : Option (List Char) :=
  if (text.take 9).map Char.toLower = urnLabel then some (text.drop 9) else none

def unbrace? (text : List Char) : Option (List Char) :=
  match text with
  | '\x7b' :: rest => if rest.getLast? = some '\x7d' then some rest.dropLast else none
  | _ => none

def utf8Size (text : List Char) : Nat :=
  text.foldr (fun c size => c.utf8Size + size) 0

def digits? (text : List Char) : Option (List Char) :=
  if text.length = 32 then some text
  else if text.length = 36 then unhyphenate? text
  else if text.length = 38 then (unbrace? text).bind unhyphenate?
  else if text.length = 45 then (unlabel? text).bind unhyphenate?
  else none

def ofChars? (text : List Char) : Option ResourceId :=
  ((digits? text).bind Hex.toBytes?).bind ofBytes?

def hyphens : Nat → List Char → Except (Char × Nat) (List Nat)
  | _, [] => .ok []
  | position, c :: rest =>
      if Hex.isDigit c then hyphens (position + c.utf8Size) rest
      else if c = '-' then (hyphens (position + c.utf8Size) rest).map (position :: ·)
      else .error (c, position)

def groupFault (size : Nat) : List Nat → IdError
  | [a, b, c, d] =>
      if a ≠ 8 then .groupLength 0 8 a
      else if b ≠ 13 then .groupLength 1 4 (b - 9)
      else if c ≠ 18 then .groupLength 2 4 (c - 14)
      else if d ≠ 23 then .groupLength 3 4 (d - 19)
      else .groupLength 4 12 (size - 24)
  | found => .groupCount (found.length + 1)

/-- Explains a text whose spelling is already known to want hyphens, or may be any. -/
def explain (wantsHyphens : Bool) (text : List Char) : IdError :=
  let size := utf8Size text
  if size = 0 ∨ 45 < size then .length size
  else
    let (body, skipped, wantsHyphens) :=
      if wantsHyphens then (text, 0, true)
      else match unbrace? text, unlabel? text with
        | some inner, _ => (inner, 1, true)
        | none, some inner => (inner, 9, true)
        | none, none => (text, 0, false)
    match hyphens 0 body with
    | .error (c, position) => .character c (position + skipped)
    | .ok [] => if wantsHyphens then .groupCount 1 else .length size
    | .ok found => groupFault size found

/-- The part of a refused text that is explained: of a text as long as a spelling with hyphens, the
part that should have been hyphenated. -/
def fault (text : List Char) : IdError :=
  let size := utf8Size text
  if size = 36 then explain true text
  else match (if size = 38 then unbrace? text else none), (if size = 45 then unlabel? text else none) with
    | some inner, _ => explain true inner
    | none, some inner => explain true inner
    | none, none => explain false text

def parseChars (text : List Char) : Except IdError ResourceId :=
  match ofChars? text with
  | some id => .ok id
  | none => .error (fault text)

def parse (text : String) : Except IdError ResourceId :=
  parseChars text.toList

def parse? (text : String) : Option ResourceId :=
  ofChars? text.toList

def insertSorted (id : ResourceId) : List ResourceId → List ResourceId
  | [] => [id]
  | first :: rest =>
      if id = first then first :: rest
      else if id < first then id :: first :: rest
      else first :: insertSorted id rest

def sortedSet (ids : List ResourceId) : List ResourceId :=
  ids.foldr insertSorted []

end ResourceId

end Landscape

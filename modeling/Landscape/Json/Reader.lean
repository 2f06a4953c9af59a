import Landscape.Json.Basic

/-!
Reading JSON text strictly: blanks may surround every token, nothing may follow the value, and
control characters, unknown escapes and leading zeros are refused. Every reader answers what it read
together with the text that is left.
-/

namespace Landscape.Json

def isBlank (c : Char) : Bool :=
  c = ' ' || c = '\n' || c = '\r' || c = '\t'

def skipBlanks (text : List Char) : List Char :=
  text.dropWhile isBlank

def expect? : List Char → List Char → Option (List Char)
  | [], text => some text
  | _ :: _, [] => none
  | wanted :: more, c :: rest => if c = wanted then expect? more rest else none

def digits (text : List Char) : List Char × List Char :=
  (text.takeWhile Char.isDigit, text.dropWhile Char.isDigit)

def readWhole? (text : List Char) : Option (List Char × List Char) :=
  match digits text with
  | ([], _) => none
  | ('0' :: _ :: _, _) => none
  | found => some found

def readFraction? : List Char → Option (List Char × List Char)
  | '.' :: rest =>
      match digits rest with
      | ([], _) => none
      | (found, left) => some ('.' :: found, left)
  | text => some ([], text)

def readSign : List Char → List Char × List Char
  | '+' :: rest => (['+'], rest)
  | '-' :: rest => (['-'], rest)
  | text => ([], text)

def readExponent? : List Char → Option (List Char × List Char)
  | [] => some ([], [])
  | mark :: rest =>
      if mark = 'e' || mark = 'E' then
        let (sign, rest) := readSign rest
        match digits rest with
        | ([], _) => none
        | (found, left) => some (mark :: sign ++ found, left)
      else some ([], mark :: rest)

def readNumber? (text : List Char) : Option (List Char × List Char) :=
  let (sign, rest) := match text with
    | '-' :: rest => (['-'], rest)
    | text => ([], text)
  do
    let (whole, rest) ← readWhole? rest
    let (fraction, rest) ← readFraction? rest
    let (exponent, rest) ← readExponent? rest
    return (sign ++ whole ++ fraction ++ exponent, rest)

def hexValue? (c : Char) : Option Nat :=
  if '0' ≤ c ∧ c ≤ '9' then some (c.toNat - '0'.toNat)
  else if 'a' ≤ c ∧ c ≤ 'f' then some (c.toNat - 'a'.toNat + 10)
  else if 'A' ≤ c ∧ c ≤ 'F' then some (c.toNat - 'A'.toNat + 10)
  else none

def codeUnit? (a b c d : Char) : Option Nat := do
  return (((← hexValue? a) * 16 + (← hexValue? b)) * 16 + (← hexValue? c)) * 16 + (← hexValue? d)

def unescape? : Char → Option Char
  | '"' => some '"'
  | '\\' => some '\\'
  | '/' => some '/'
  | 'b' => some '\x08'
  | 'f' => some '\x0c'
  | 'n' => some '\n'
  | 'r' => some '\r'
  | 't' => some '\t'
  | _ => none

/-- What a literal is made of: characters, and code units written by their number. -/
abbrev Piece := Char ⊕ Nat

def readPieces? : List Char → Option (List Piece × List Char)
  | [] => none
  | '"' :: left => some ([], left)
  | '\\' :: 'u' :: a :: b :: c :: d :: rest =>
      match codeUnit? a b c d, readPieces? rest with
      | some unit, some (pieces, left) => some (.inr unit :: pieces, left)
      | _, _ => none
  | '\\' :: c :: rest =>
      match unescape? c, readPieces? rest with
      | some c, some (pieces, left) => some (.inl c :: pieces, left)
      | _, _ => none
  | c :: rest =>
      if c.toNat < 0x20 || c = '\\' then none
      else (readPieces? rest).map fun (pieces, left) => (.inl c :: pieces, left)

def isHighSurrogate (unit : Nat) : Bool := 0xD800 ≤ unit && unit < 0xDC00

def isLowSurrogate (unit : Nat) : Bool := 0xDC00 ≤ unit && unit < 0xE000

def joinSurrogates (high low : Nat) : Char :=
  Char.ofNat (0x10000 + (high - 0xD800) * 0x400 + (low - 0xDC00))

/-- The text that pieces denote, unless a surrogate among them has no partner. -/
def textOf? : List Piece → Option (List Char)
  | [] => some []
  | .inl c :: rest => (textOf? rest).map (c :: ·)
  | .inr high :: .inr low :: rest =>
      if isHighSurrogate high && isLowSurrogate low then
        (textOf? rest).map (joinSurrogates high low :: ·)
      else if isHighSurrogate high || isLowSurrogate high then none
      else (textOf? (.inr low :: rest)).map (Char.ofNat high :: ·)
  | .inr unit :: rest =>
      if isHighSurrogate unit || isLowSurrogate unit then none
      else (textOf? rest).map (Char.ofNat unit :: ·)

def readString? (text : List Char) : Option (Option String × List Char) :=
  (readPieces? text).map fun (pieces, left) => ((textOf? pieces).map String.ofList, left)

/-! Values. Depth bounds how deep the value may be nested; the text's length is always enough. -/

mutual

def readValue? : Nat → List Char → Option (Json × List Char)
  | 0, _ => none
  | depth + 1, text =>
      match skipBlanks text with
      | '"' :: rest => (readString? rest).map fun (found, left) => (.string found, left)
      | '[' :: rest =>
          match skipBlanks rest with
          | ']' :: left => some (.array [], left)
          | rest => (readItems? depth rest).map fun (items, left) => (.array items, left)
      | '\x7b' :: rest =>
          match skipBlanks rest with
          | '\x7d' :: left => some (.object [], left)
          | rest => (readMembers? depth rest).map fun (members, left) => (.object members, left)
      | 'n' :: rest => (expect? "ull".toList rest).map (.null, ·)
      | 't' :: rest => (expect? "rue".toList rest).map (.bool true, ·)
      | 'f' :: rest => (expect? "alse".toList rest).map (.bool false, ·)
      | rest => (readNumber? rest).map fun (found, left) => (.number (String.ofList found), left)

def readItems? : Nat → List Char → Option (List Json × List Char)
  | 0, _ => none
  | depth + 1, text =>
      match readValue? depth text with
      | none => none
      | some (item, left) =>
          match skipBlanks left with
          | ',' :: rest => (readItems? depth rest).map fun (items, left) => (item :: items, left)
          | ']' :: left => some ([item], left)
          | _ => none

def readMembers? : Nat → List Char → Option (List Member × List Char)
  | 0, _ => none
  | depth + 1, text =>
      match skipBlanks text with
      | '"' :: rest =>
          match readString? rest with
          | none => none
          | some (name, left) =>
              match skipBlanks left with
              | ':' :: rest =>
                  match readValue? depth rest with
                  | none => none
                  | some (value, left) =>
                      match skipBlanks left with
                      | ',' :: rest =>
                          (readMembers? depth rest).map fun (members, left) =>
                            ((name, value) :: members, left)
                      | '\x7d' :: left => some ([(name, value)], left)
                      | _ => none
              | _ => none
      | _ => none

end

def parseChars? (text : List Char) : Option Json :=
  match readValue? (text.length + 1) text with
  | some (value, left) => if skipBlanks left = [] then some value else none
  | none => none

def parse? (text : String) : Option Json :=
  parseChars? text.toList

end Landscape.Json

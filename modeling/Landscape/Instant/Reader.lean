import Landscape.Instant.Basic

/-!
Reading instants. A date, a separator, a clock time with an optional fraction and an offset from
universal time; blanks may stand around the numbers but not around the separator. Digits of the
fraction beyond the ninth are ignored. Every reader answers what it read with the text that is left.
-/

namespace Landscape.Instant

def blankRanges : List (Nat × Nat) :=
  [(0x09, 0x0d), (0x20, 0x20), (0x85, 0x85), (0xa0, 0xa0), (0x1680, 0x1680), (0x2000, 0x200a),
   (0x2028, 0x2029), (0x202f, 0x202f), (0x205f, 0x205f), (0x3000, 0x3000)]

def isBlank (c : Char) : Bool :=
  blankRanges.any fun (first, last) => first ≤ c.toNat && c.toNat ≤ last

def skipBlanks (text : List Char) : List Char :=
  text.dropWhile isBlank

def decimal (digits : List Char) : Nat :=
  digits.foldl (fun value c => 10 * value + (c.toNat - '0'.toNat)) 0

def takeDigits : Nat → List Char → List Char × List Char
  | most + 1, c :: rest =>
      if c.isDigit then
        let (digits, left) := takeDigits most rest
        (c :: digits, left)
      else ([], c :: rest)
  | _, text => ([], text)

def readDigits? (most : Nat) (text : List Char) : Option (Nat × List Char) :=
  match takeDigits most text with
  | ([], _) => none
  | (digits, left) => some (decimal digits, left)

def readNumber? (most : Nat) (text : List Char) : Option (Nat × List Char) :=
  readDigits? most (skipBlanks text)

/-- A year of at most four digits, or of any number of digits behind a sign. -/
def readYear? (text : List Char) : Option (Int × List Char) :=
  match skipBlanks text with
  | '-' :: rest => (readDigits? rest.length rest).map fun (year, left) => (-(year : Int), left)
  | '+' :: rest => (readDigits? rest.length rest).map fun (year, left) => ((year : Int), left)
  | rest => (readDigits? 4 rest).map fun (year, left) => ((year : Int), left)

/-- Skips a mark and the blanks before it. -/
def readMark? (mark : Char) (text : List Char) : Option (List Char) :=
  match skipBlanks text with
  | [] => none
  | c :: rest => if c = mark then some rest else none

def readSeparator? : List Char → Option (List Char)
  | 'T' :: rest => some rest
  | 't' :: rest => some rest
  | ' ' :: rest => some rest
  | _ => none

def readFraction? : List Char → Option (Nat × List Char)
  | '.' :: rest =>
      match takeDigits 9 rest with
      | ([], _) => none
      | (digits, left) =>
          some (decimal digits * Nat.pow 10 (9 - digits.length), left.dropWhile Char.isDigit)
  | text => some (0, text)

/-! Offsets, in minutes ahead of universal time. -/

def readClock? (text : List Char) : Option (Nat × List Char) :=
  match takeDigits 2 text with
  | ([h, k], left) =>
      match takeDigits 2 (left.dropWhile fun c => c = ':' || isBlank c) with
      | ([m, n], left) =>
          let hours := decimal [h, k]
          let minutes := decimal [m, n]
          if hours < 24 ∧ minutes < 60 then some (60 * hours + minutes, left) else none
      | _ => none
  | _ => none

def readOffset? (text : List Char) : Option (Int × List Char) :=
  if (text.take 3).map Char.toUpper = ['U', 'T', 'C'] then some (0, text.drop 3)
  else match text with
    | 'Z' :: rest => some (0, rest)
    | 'z' :: rest => some (0, rest)
    | '+' :: rest => (readClock? rest).map fun (minutes, left) => ((minutes : Int), left)
    | '-' :: rest => (readClock? rest).map fun (minutes, left) => (-(minutes : Int), left)
    | '\u2212' :: rest => (readClock? rest).map fun (minutes, left) => (-(minutes : Int), left)
    | _ => none

def parseChars? (text : List Char) : Option Instant := do
  let (year, text) ← readYear? text
  let text ← readMark? '-' text
  let (month, text) ← readNumber? 2 text
  let text ← readMark? '-' text
  let (day, text) ← readNumber? 2 text
  let text ← readSeparator? text
  let (hour, text) ← readNumber? 2 text
  let text ← readMark? ':' text
  let (minute, text) ← readNumber? 2 text
  let text ← readMark? ':' text
  let (second, text) ← readNumber? 2 text
  let (nanosecond, text) ← readFraction? text
  let (offset, text) ← readOffset? (skipBlanks text)
  let date ← Date.of? year month day
  if hour < 24 ∧ minute < 60 ∧ skipBlanks text = [] then
    atOffset? offset date (60 * hour + minute) second nanosecond
  else none

def parse? (text : String) : Option Instant :=
  parseChars? text.toList

end Landscape.Instant

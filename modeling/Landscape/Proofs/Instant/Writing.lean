import Landscape.Instant.Reader
import Landscape.Proofs.Instant.Calendar
import Mathlib.Algebra.Group.Nat.Defs
import Mathlib.Data.List.Basic

/-!
The ways to write an instant. A date and the time of a clock are written, with as many digits of a fraction as
one likes, and with the offset of the clock from universal time. What is written denotes a moment, and it is
read as the instant of that moment, if there is one. So what denotes the same is read alike, whatever
the offsets and however many digits, and the text of an instant is read back as the instant.
-/

namespace Landscape

namespace Instant

theorem isDigit_padded {width value : Nat} {c : Char} (member : c ∈ padded width value) :
    c.isDigit = true := by
  rcases List.mem_append.mp member with zero | digit
  · rw [(List.mem_replicate.mp zero).2]
    rfl
  · exact Nat.isDigit_of_mem_toDigits (by decide) (by decide) digit

theorem length_padded {width value : Nat} (wide : 0 < width) (fits : value < 10 ^ width) :
    (padded width value).length = width := by
  have short := (Nat.length_toDigits_le_iff (by decide) wide).mpr fits
  simp only [padded, digitsOf, List.length_append, List.length_replicate]
  omega

theorem decimal_eq (digits : List Char) : decimal digits = Nat.ofDigitChars 10 digits 0 := rfl

theorem decimal_padded (width value : Nat) : decimal (padded width value) = value := by
  rw [decimal_eq, padded, Nat.ofDigitChars_append, Nat.ofDigitChars_replicate_zero, Nat.mul_zero, digitsOf,
    Nat.ofDigitChars_ten_toDigits]

theorem padded_ne_nil (width value : Nat) : padded width value ≠ [] :=
  List.append_ne_nil_of_right_ne_nil _ Nat.toDigits_ne_nil

def Stops (rest : List Char) : Prop := ∀ c ∈ rest.head?, c.isDigit = false

theorem takeDigits_append {most : Nat} {digits rest : List Char} (all : ∀ c ∈ digits, c.isDigit = true)
    (stops : most ≤ digits.length ∨ Stops rest) :
    takeDigits most (digits ++ rest) = (digits.take most, digits.drop most ++ rest) := by
  induction digits generalizing most with
  | nil =>
      cases most with
      | zero => rfl
      | succ most =>
          rcases stops with short | stops
          · exact absurd short (Nat.not_succ_le_zero most)
          · cases rest with
            | nil => rfl
            | cons c rest => simp [takeDigits, stops c rfl]
  | cons c digits ih =>
      cases most with
      | zero => rfl
      | succ most =>
          obtain ⟨digit, all⟩ := List.forall_mem_cons.mp all
          have shorter : most ≤ digits.length ∨ Stops rest := stops.imp_left Nat.le_of_succ_le_succ
          simp [takeDigits, digit, ih all shorter]

theorem readDigits_append {most : Nat} {digits rest : List Char} (all : ∀ c ∈ digits, c.isDigit = true)
    (some : digits ≠ []) (fits : digits.length ≤ most) (stops : most ≤ digits.length ∨ Stops rest) :
    readDigits? most (digits ++ rest) = .some (decimal digits, rest) := by
  rw [readDigits?, takeDigits_append all stops, List.take_of_length_le fits, List.drop_of_length_le fits]
  cases digits with
  | nil => exact absurd rfl some
  | cons => rfl

theorem skipBlanks_cons {c : Char} {rest : List Char} (shows : isBlank c = false) :
    skipBlanks (c :: rest) = c :: rest := by
  simp [skipBlanks, shows]

theorem isBlank_digit {c : Char} (digit : c.isDigit = true) : isBlank c = false := by
  have range : 48 ≤ c.toNat ∧ c.toNat ≤ 57 := by
    simpa [Char.isDigit, UInt32.le_iff_toNat_le] using digit
  apply Bool.eq_false_iff.mpr
  intro blank
  simp [isBlank, blankRanges] at blank
  omega

theorem isDigit_first {width value : Nat} {rest more : List Char} {c : Char}
    (begins : padded width value ++ rest = c :: more) : c.isDigit = true := by
  cases digits : padded width value with
  | nil => exact absurd digits (padded_ne_nil width value)
  | cons first _ =>
      rw [digits] at begins
      obtain rfl := (List.cons.inj begins).1
      exact isDigit_padded (digits ▸ List.mem_cons_self)

theorem skipBlanks_padded (width value : Nat) (rest : List Char) :
    skipBlanks (padded width value ++ rest) = padded width value ++ rest := by
  cases begins : padded width value ++ rest with
  | nil => rfl
  | cons => exact skipBlanks_cons (isBlank_digit (isDigit_first begins))

theorem readMark_cons {mark : Char} (shows : isBlank mark = false) (rest : List Char) :
    readMark? mark (mark :: rest) = some rest := by
  rw [readMark?, skipBlanks_cons shows]
  exact if_pos rfl

theorem readNumber_padded {value : Nat} (fits : value < 100) (rest : List Char) :
    readNumber? 2 (padded 2 value ++ rest) = some (value, rest) := by
  have length : (padded 2 value).length = 2 := length_padded (by decide) fits
  rw [readNumber?, skipBlanks_padded, readDigits_append (fun c member => isDigit_padded member)
    (padded_ne_nil 2 value) (Nat.le_of_eq length) (.inl (Nat.le_of_eq length.symm)), decimal_padded]

theorem readYear_unsigned {value : Nat} (fits : value < 10000) (rest : List Char) :
    readYear? (padded 4 value ++ rest) = some ((value : Int), rest) := by
  have length : (padded 4 value).length = 4 := length_padded (by decide) fits
  have read : readDigits? 4 (padded 4 value ++ rest) = some (value, rest) := by
    rw [readDigits_append (fun c member => isDigit_padded member) (padded_ne_nil 4 value)
      (Nat.le_of_eq length) (.inl (Nat.le_of_eq length.symm)), decimal_padded]
  unfold readYear?
  rw [skipBlanks_padded]
  -- neither sign is a digit
  split
  · next signed => cases isDigit_first signed
  · next signed => cases isDigit_first signed
  · rw [read]
    rfl

theorem readDigits_signed (value : Nat) {rest : List Char} (stops : Stops rest) :
    readDigits? (padded 4 value ++ rest).length (padded 4 value ++ rest) = some (value, rest) := by
  rw [readDigits_append (fun c member => isDigit_padded member) (padded_ne_nil 4 value)
    (by rw [List.length_append]; exact Nat.le_add_right _ _) (.inr stops), decimal_padded]

theorem readYear_chars (year : Int) {rest : List Char} (stops : Stops rest) :
    readYear? (yearChars year ++ rest) = some (year, rest) := by
  unfold yearChars
  split
  · next plain =>
      rw [readYear_unsigned (by omega), Int.toNat_of_nonneg plain.1]
  · have read := readDigits_signed year.natAbs stops
    by_cases before : year < 0
    · have signed : -(year.natAbs : Int) = year := by omega
      rw [if_pos before, List.cons_append, readYear?, skipBlanks_cons (by decide)]
      simp only [read, Option.map_some, signed]
    · have signed : (year.natAbs : Int) = year := by omega
      rw [if_neg before, List.cons_append, readYear?, skipBlanks_cons (by decide)]
      simp only [read, Option.map_some, signed]

def nanosecondsOf (fraction : List Char) : Nat :=
  Nat.ofDigitChars 10 ((fraction ++ List.replicate 9 '0').take 9) 0

def pointed (fraction : List Char) : List Char :=
  if fraction = [] then [] else '.' :: fraction

theorem nanosecondsOf_eq (fraction : List Char) :
    nanosecondsOf fraction = decimal (fraction.take 9) * 10 ^ (9 - (fraction.take 9).length) := by
  have zeros : min (9 - fraction.length) 9 = 9 - (fraction.take 9).length := by
    rw [List.length_take]
    omega
  rw [nanosecondsOf, List.take_append, List.take_replicate, Nat.ofDigitChars_append,
    Nat.ofDigitChars_replicate_zero, zeros, decimal_eq, Nat.mul_comm]

theorem dropDigits_append {digits rest : List Char} (all : ∀ c ∈ digits, c.isDigit = true)
    (stops : Stops rest) : (digits ++ rest).dropWhile Char.isDigit = rest := by
  rw [List.dropWhile_append_of_pos all]
  cases rest with
  | nil => rfl
  | cons c rest => simp [stops c rfl]

theorem readFraction_pointed {fraction rest : List Char} (all : ∀ c ∈ fraction, c.isDigit = true)
    (stops : Stops rest) (unpointed : rest.head? ≠ some '.') :
    readFraction? (pointed fraction ++ rest) = some (nanosecondsOf fraction, rest) := by
  cases digits : fraction with
  | nil =>
      show readFraction? rest = some (0, rest)
      unfold readFraction?
      split
      · exact absurd rfl unpointed
      · rfl
  | cons c more =>
      rw [digits] at all
      have left : ((c :: more).drop 9 ++ rest).dropWhile Char.isDigit = rest :=
        dropDigits_append (fun c member => all c (List.mem_of_mem_drop member)) stops
      show readFraction? ('.' :: (c :: more ++ rest)) = _
      rw [readFraction?, takeDigits_append all (.inr stops), nanosecondsOf_eq]
      simp only [List.take_succ_cons, left]
      rfl

/-- How an offset is written: by a name for universal time, or as the hours and minutes that the clock is ahead
or behind. -/
inductive Zone where
  | universal (name : List Char) (name_mem : name ∈ [['Z'], ['z'], ['U', 'T', 'C']])
  | clock (behind colon : Bool) (hours minutes : Nat) (hours_lt : hours < 24) (minutes_lt : minutes < 60)

namespace Zone

def offset : Zone → Int
  | universal _ _ => 0
  | clock behind _ hours minutes _ _ =>
      if behind then -(60 * hours + minutes : Nat) else (60 * hours + minutes : Nat)

def chars : Zone → List Char
  | universal name _ => name
  | clock behind colon hours minutes _ _ =>
      (if behind then '-' else '+') :: padded 2 hours ++ (if colon then [':'] else []) ++ padded 2 minutes

theorem offset_bounds (zone : Zone) : zone.offset < 1440 ∧ -1440 < zone.offset := by
  cases zone with
  | universal => exact ⟨by simp [offset], by simp [offset]⟩
  | clock behind colon hours minutes hoursLt minutesLt =>
      simp only [offset]
      split <;> omega

theorem chars_ends (zone : Zone) : Stops zone.chars ∧ zone.chars.head? ≠ some '.' ∧
    skipBlanks zone.chars = zone.chars := by
  cases zone with
  | universal name mem =>
      simp only [List.mem_cons, List.not_mem_nil, or_false] at mem
      rcases mem with rfl | rfl | rfl <;> exact ⟨fun c is => by cases is; rfl, nofun, rfl⟩
  | clock behind colon hours minutes =>
      cases behind <;> exact ⟨fun c is => by cases is; rfl, nofun, rfl⟩

end Zone

theorem takeDigits_padded {value : Nat} (fits : value < 100) (rest : List Char) :
    takeDigits 2 (padded 2 value ++ rest) = (padded 2 value, rest) := by
  have length : (padded 2 value).length = 2 := length_padded (by decide) fits
  have short := Nat.le_of_eq length
  rw [takeDigits_append (fun c member => isDigit_padded member) (.inl (Nat.le_of_eq length.symm)),
    List.take_of_length_le short, List.drop_of_length_le short, List.nil_append]

theorem skipColon_padded (colon : Bool) (value : Nat) :
    ((if colon then [':'] else []) ++ padded 2 value).dropWhile (fun c => c = ':' || isBlank c) =
      padded 2 value := by
  have digits : (padded 2 value).dropWhile (fun c => c = ':' || isBlank c) = padded 2 value := by
    cases begins : padded 2 value with
    | nil => rfl
    | cons c more =>
        have digit : c.isDigit = true := isDigit_padded (begins ▸ List.mem_cons_self)
        have apart : c ≠ ':' := by
          rintro rfl
          cases digit
        simp [apart, isBlank_digit digit]
  cases colon with
  | true => exact digits
  | false => exact digits

theorem readClock_padded {hours minutes : Nat} (hoursLt : hours < 24) (minutesLt : minutes < 60)
    (colon : Bool) :
    readClock? (padded 2 hours ++ (if colon then [':'] else []) ++ padded 2 minutes) =
      some (60 * hours + minutes, []) := by
  have hourDigits := takeDigits_padded (show hours < 100 by omega)
  have minuteDigits := takeDigits_padded (show minutes < 100 by omega) []
  have hour := decimal_padded 2 hours
  have minute := decimal_padded 2 minutes
  obtain ⟨h, k, first⟩ := List.length_eq_two.mp
    (length_padded (by decide) (show hours < 10 ^ 2 by omega))
  obtain ⟨m, n, second⟩ := List.length_eq_two.mp
    (length_padded (by decide) (show minutes < 10 ^ 2 by omega))
  rw [List.append_nil] at minuteDigits
  rw [readClock?, List.append_assoc, hourDigits, first]
  dsimp only
  rw [skipColon_padded, minuteDigits, second]
  dsimp only
  rw [← first, ← second, hour, minute, if_pos ⟨hoursLt, minutesLt⟩]

theorem readOffset_chars (zone : Zone) : readOffset? zone.chars = some (zone.offset, []) := by
  cases zone with
  | universal name mem =>
      simp only [List.mem_cons, List.not_mem_nil, or_false] at mem
      rcases mem with rfl | rfl | rfl <;> rfl
  | clock behind colon hours minutes hoursLt minutesLt =>
      have clock := readClock_padded hoursLt minutesLt colon
      cases behind with
      | true =>
          show (readClock? _).map _ = _
          exact congrArg (Option.map _) clock
      | false =>
          show (readClock? _).map _ = _
          exact congrArg (Option.map _) clock

/-- A date and a time of day, as a clock in some zone shows it. -/
structure Writing where
  date : Date
  separator : Char
  hour : Nat
  minute : Nat
  second : Nat
  fraction : List Char
  zone : Zone
  separator_mem : separator ∈ ['T', 't', ' ']
  hour_lt : hour < 24
  minute_lt : minute < 60
  second_le : second ≤ 60
  isDigit : ∀ c ∈ fraction, c.isDigit = true

namespace Writing

def chars (writing : Writing) : List Char :=
  yearChars writing.date.year ++ '-' :: padded 2 writing.date.month
    ++ '-' :: padded 2 writing.date.day
    ++ writing.separator :: padded 2 writing.hour ++ ':' :: padded 2 writing.minute
    ++ ':' :: padded 2 writing.second ++ pointed writing.fraction ++ writing.zone.chars

def text (writing : Writing) : String := String.ofList writing.chars

/-- What is denoted: the clock is put back by its offset, and nine digits of the fraction count. -/
def moment (writing : Writing) : Moment :=
  ⟨1440 * writing.date.number + (60 * writing.hour + writing.minute : Nat) - writing.zone.offset,
    writing.second, nanosecondsOf writing.fraction⟩

theorem readSeparator_cons {separator : Char} (mem : separator ∈ ['T', 't', ' ']) (rest : List Char) :
    readSeparator? (separator :: rest) = some rest := by
  simp only [List.mem_cons, List.not_mem_nil, or_false] at mem
  rcases mem with rfl | rfl | rfl <;> rfl

theorem bind_read {α β : Type} {read : Option α} {value : α} {next : α → Option β}
    (found : read = some value) : read.bind next = next value := by
  rw [found, Option.bind_some]

theorem parseChars_chars (writing : Writing) :
    parseChars? writing.chars = atOffset? writing.zone.offset writing.date
      (60 * writing.hour + writing.minute) writing.second (nanosecondsOf writing.fraction) := by
  have hyphen : isBlank '-' = false := by decide
  have colon : isBlank ':' = false := by decide
  have month : writing.date.month < 100 := by have := writing.date.month_mem; omega
  have day : writing.date.day < 100 := by
    have days := (Calendar.daysIn_bounds writing.date.year writing.date.month).2
    have bounds := writing.date.day_mem
    omega
  have date : Date.of? writing.date.year writing.date.month writing.date.day = some writing.date :=
    Date.of_eq_some_iff.mpr ⟨rfl, rfl, rfl⟩
  -- a year may be of any length, so what follows has to end it
  have ends {rest : List Char} : Stops ('-' :: rest) := fun c is => by cases is; rfl
  have hour := writing.hour_lt
  have minute := writing.minute_lt
  have second := writing.second_le
  obtain ⟨stops, unpointed, shows⟩ := writing.zone.chars_ends
  have fraction := readFraction_pointed writing.isDigit stops unpointed
  have zone : readOffset? (skipBlanks writing.zone.chars) = some (writing.zone.offset, []) :=
    shows.symm ▸ readOffset_chars writing.zone
  simp only [chars, List.append_assoc, List.cons_append]
  unfold parseChars?
  -- from here one line for each part that is read, in the order of the text
  refine (bind_read (readYear_chars _ ends)).trans ?_
  refine (bind_read (readMark_cons hyphen _)).trans ?_
  refine (bind_read (readNumber_padded month _)).trans ?_
  refine (bind_read (readMark_cons hyphen _)).trans ?_
  refine (bind_read (readNumber_padded day _)).trans ?_
  refine (bind_read (readSeparator_cons writing.separator_mem _)).trans ?_
  refine (bind_read (readNumber_padded (by omega) _)).trans ?_
  refine (bind_read (readMark_cons colon _)).trans ?_
  refine (bind_read (readNumber_padded (by omega) _)).trans ?_
  refine (bind_read (readMark_cons colon _)).trans ?_
  refine (bind_read (readNumber_padded (by omega) _)).trans ?_
  refine (bind_read fraction).trans ?_
  refine (bind_read zone).trans ?_
  refine (bind_read date).trans ?_
  exact if_pos ⟨hour, minute, rfl⟩

/-- A text is read as the instant that it denotes, and as nothing if there is none. -/
theorem parse_eq_some_iff {writing : Writing} {instant : Instant} :
    parse? writing.text = some instant ↔ instant.moment = writing.moment := by
  have hour := writing.hour_lt
  have minute := writing.minute_lt
  obtain ⟨ahead, behind⟩ := writing.zone.offset_bounds
  rw [parse?, text, String.toList_ofList, parseChars_chars,
    atOffset_eq_some_iff (by omega) ahead behind]
  rfl

theorem parse_congr {one other : Writing} (same : one.moment = other.moment) :
    parse? one.text = parse? other.text := by
  apply Option.ext
  intro instant
  rw [parse_eq_some_iff, parse_eq_some_iff, same]

end Writing

theorem fractionChars_cases {nanosecond : Nat} (lt : nanosecond < 1000000000) :
    (fractionChars nanosecond = [] ∧ nanosecond = 0) ∨
    ∃ width value, fractionChars nanosecond = '.' :: padded width value ∧ 0 < width ∧ width ≤ 9 ∧
      value < 10 ^ width ∧ value * 10 ^ (9 - width) = nanosecond := by
  unfold fractionChars
  split
  · next none => exact .inl ⟨rfl, none⟩
  · right
    split
    · exact ⟨3, nanosecond / 1000000, rfl, by decide, by decide, by omega, by omega⟩
    · split
      · exact ⟨6, nanosecond / 1000, rfl, by decide, by decide, by omega, by omega⟩
      · exact ⟨9, nanosecond, rfl, by decide, by decide, by omega, by omega⟩

theorem isDigit_fraction {nanosecond : Nat} (lt : nanosecond < 1000000000) :
    ∀ c ∈ (fractionChars nanosecond).tail, c.isDigit = true := by
  intro c member
  rcases fractionChars_cases lt with ⟨none, _⟩ | ⟨width, value, digits, _⟩
  · rw [none] at member
    cases member
  · rw [digits] at member
    exact isDigit_padded member

theorem pointed_fraction {nanosecond : Nat} (lt : nanosecond < 1000000000) :
    pointed (fractionChars nanosecond).tail = fractionChars nanosecond := by
  rcases fractionChars_cases lt with ⟨none, _⟩ | ⟨width, value, digits, _⟩
  · rw [none]
    rfl
  · rw [digits]
    exact if_neg (padded_ne_nil width value)

theorem nanosecondsOf_fraction {nanosecond : Nat} (lt : nanosecond < 1000000000) :
    nanosecondsOf (fractionChars nanosecond).tail = nanosecond := by
  rcases fractionChars_cases lt with ⟨none, zero⟩ | ⟨width, value, digits, wide, short, fits, exact⟩
  · rw [none, zero]
    rfl
  · have length := length_padded wide fits
    have whole : (padded width value).take 9 = padded width value :=
      List.take_of_length_le (Nat.le_trans (Nat.le_of_eq length) short)
    rw [digits, List.tail_cons, nanosecondsOf_eq, whole, decimal_padded, length, exact]

/-- An instant is written in universal time, with the fewest digits that are exact. -/
def writing (instant : Instant) : Writing where
  date := instant.date
  separator := 'T'
  hour := instant.minute / 60
  minute := instant.minute % 60
  second := instant.second
  fraction := (fractionChars instant.nanosecond).tail
  zone := .universal ['Z'] List.mem_cons_self
  separator_mem := List.mem_cons_self
  hour_lt := by have := instant.minute_lt; omega
  minute_lt := Nat.mod_lt _ (by decide)
  second_le := instant.second_le
  isDigit := isDigit_fraction instant.nanosecond_lt

theorem text_writing (instant : Instant) : instant.writing.text = instant.text := by
  rw [Writing.text, Writing.chars, text, chars]
  simp only [writing, pointed_fraction instant.nanosecond_lt, Zone.chars]

theorem moment_writing (instant : Instant) : instant.writing.moment = instant.moment := by
  have minutes : 60 * (instant.minute / 60) + instant.minute % 60 = instant.minute := Nat.div_add_mod _ _
  rw [Writing.moment, moment]
  simp only [writing, minutes, Zone.offset, Int.sub_zero, nanosecondsOf_fraction instant.nanosecond_lt]

/-- The text of an instant is read back as the instant. -/
theorem parse_text (instant : Instant) : parse? instant.text = some instant := by
  rw [← text_writing, Writing.parse_eq_some_iff, moment_writing]

end Instant

end Landscape

/-!
Points in time by the proleptic Gregorian calendar and the clock of universal time, to the
nanosecond. A minute may end in a leap second. Dates and clocks that do not exist cannot be formed.
An instant has one text: four-digit years unless the year needs a sign, and the fewest of zero, three,
six and nine digits of the fraction that are exact.
-/

namespace Landscape

namespace Calendar

def isLeap (year : Int) : Bool :=
  year % 4 = 0 && (year % 100 ≠ 0 || year % 400 = 0)

def daysIn (year : Int) (month : Nat) : Nat :=
  match month with
  | 2 => if isLeap year then 29 else 28
  | 4 | 6 | 9 | 11 => 30
  | _ => 31

def firstYear : Int := -262143
def lastYear : Int := 262142

end Calendar

structure Date where
  year : Int
  month : Nat
  day : Nat
  year_mem : Calendar.firstYear ≤ year ∧ year ≤ Calendar.lastYear
  month_mem : 1 ≤ month ∧ month ≤ 12
  day_mem : 1 ≤ day ∧ day ≤ Calendar.daysIn year month
  deriving DecidableEq

namespace Date

def of? (year : Int) (month day : Nat) : Option Date :=
  if year_mem : Calendar.firstYear ≤ year ∧ year ≤ Calendar.lastYear then
    if month_mem : 1 ≤ month ∧ month ≤ 12 then
      if day_mem : 1 ≤ day ∧ day ≤ Calendar.daysIn year month then
        some ⟨year, month, day, year_mem, month_mem, day_mem⟩
      else none
    else none
  else none

def next? (date : Date) : Option Date :=
  if date.day < Calendar.daysIn date.year date.month then of? date.year date.month (date.day + 1)
  else if date.month < 12 then of? date.year (date.month + 1) 1
  else of? (date.year + 1) 1 1

def previous? (date : Date) : Option Date :=
  if 1 < date.day then of? date.year date.month (date.day - 1)
  else if 1 < date.month then
    of? date.year (date.month - 1) (Calendar.daysIn date.year (date.month - 1))
  else of? (date.year - 1) 12 31

end Date

structure Instant where
  date : Date
  minute : Nat
  /-- Sixty is the leap second. -/
  second : Nat
  nanosecond : Nat
  minute_lt : minute < 1440
  second_le : second ≤ 60
  nanosecond_lt : nanosecond < 1000000000
  deriving DecidableEq

namespace Instant

def of? (date : Date) (minute second nanosecond : Nat) : Option Instant :=
  if minute_lt : minute < 1440 then
    if second_le : second ≤ 60 then
      if nanosecond_lt : nanosecond < 1000000000 then
        some ⟨date, minute, second, nanosecond, minute_lt, second_le, nanosecond_lt⟩
      else none
    else none
  else none

/-- The instant at which a clock that is so many minutes ahead of universal time shows the given one. -/
def atOffset? (offset : Int) (date : Date) (minute second nanosecond : Nat) : Option Instant :=
  let shifted := (minute : Int) - offset
  if shifted < 0 then
    date.previous?.bind fun date => of? date (shifted + 1440).toNat second nanosecond
  else if shifted < 1440 then of? date shifted.toNat second nanosecond
  else date.next?.bind fun date => of? date (shifted - 1440).toNat second nanosecond

def digitsOf (value : Nat) : List Char := Nat.toDigits 10 value

def padded (width value : Nat) : List Char :=
  let digits := digitsOf value
  List.replicate (width - digits.length) '0' ++ digits

def yearChars (year : Int) : List Char :=
  if 0 ≤ year ∧ year ≤ 9999 then padded 4 year.toNat
  else (if year < 0 then '-' else '+') :: padded 4 year.natAbs

def fractionChars (nanosecond : Nat) : List Char :=
  if nanosecond = 0 then []
  else if nanosecond % 1000000 = 0 then '.' :: padded 3 (nanosecond / 1000000)
  else if nanosecond % 1000 = 0 then '.' :: padded 6 (nanosecond / 1000)
  else '.' :: padded 9 nanosecond

def chars (instant : Instant) : List Char :=
  yearChars instant.date.year ++ '-' :: padded 2 instant.date.month
    ++ '-' :: padded 2 instant.date.day
    ++ 'T' :: padded 2 (instant.minute / 60) ++ ':' :: padded 2 (instant.minute % 60)
    ++ ':' :: padded 2 instant.second ++ fractionChars instant.nanosecond ++ ['Z']

def text (instant : Instant) : String :=
  String.ofList instant.chars

end Instant

end Landscape

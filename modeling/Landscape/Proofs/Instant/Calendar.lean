import Landscape.Instant.Basic
import Mathlib.Tactic.ByContra

/-!
Days and minutes counted. Every date has a number that counts the days, dates have different numbers, and the
number goes up by one from a date to the next. So an instant is told by the minutes that passed and by
where it stands within its minute, and a clock that is ahead of universal time is put back by counting.
-/

namespace Landscape

namespace Calendar

/-- The days before a year begins, from the year one on and backwards from there. -/
def daysBefore (year : Int) : Int :=
  365 * (year - 1) + (year - 1) / 4 - (year - 1) / 100 + (year - 1) / 400

def daysOf (year : Int) : Nat → Nat
  | 0 => 0
  | months + 1 => daysOf year months + daysIn year (months + 1)

theorem daysOf_year (year : Int) : daysOf year 12 = if isLeap year then 366 else 365 := by
  simp only [daysOf, daysIn]
  split <;> rfl

theorem daysIn_bounds (year : Int) (month : Nat) : 1 ≤ daysIn year month ∧ daysIn year month ≤ 31 := by
  unfold daysIn
  split
  · split <;> decide
  all_goals decide

theorem daysOf_mono (year : Int) {former latter : Nat} (le : former ≤ latter) :
    daysOf year former ≤ daysOf year latter := by
  induction le with
  | refl => exact Nat.le_refl _
  | step _ ih => exact Nat.le_trans ih (Nat.le_add_right _ _)

theorem isLeap_iff (year : Int) :
    isLeap year = true ↔ year % 4 = 0 ∧ (year % 100 ≠ 0 ∨ year % 400 = 0) := by
  simp [isLeap]

theorem daysBefore_succ (year : Int) : daysBefore (year + 1) = daysBefore year + daysOf year 12 := by
  rw [daysOf_year, daysBefore, daysBefore]
  -- the quotients add up to one more in the leap years, and only in these
  by_cases leap : isLeap year = true
  · rw [if_pos leap]
    rw [isLeap_iff] at leap
    omega
  · rw [if_neg leap]
    rw [isLeap_iff] at leap
    omega

theorem daysBefore_mono {former latter : Int} (le : former ≤ latter) :
    daysBefore former ≤ daysBefore latter := by
  simp only [daysBefore]
  omega

end Calendar

namespace Date

open Calendar

theorem of_eq_some_iff {year : Int} {month day : Nat} {date : Date} :
    of? year month day = some date ↔ date.year = year ∧ date.month = month ∧ date.day = day := by
  simp only [of?, Option.dite_none_right_eq_some, Option.some.injEq]
  constructor
  · rintro ⟨_, _, _, rfl⟩
    exact ⟨rfl, rfl, rfl⟩
  · rintro ⟨rfl, rfl, rfl⟩
    exact ⟨date.year_mem, date.month_mem, date.day_mem, rfl⟩

theorem of_isSome {year : Int} {month day : Nat} (yearMem : firstYear ≤ year ∧ year ≤ lastYear)
    (monthMem : 1 ≤ month ∧ month ≤ 12) (dayMem : 1 ≤ day ∧ day ≤ daysIn year month) :
    ∃ date, of? year month day = some date :=
  ⟨⟨year, month, day, yearMem, monthMem, dayMem⟩, of_eq_some_iff.mpr ⟨rfl, rfl, rfl⟩⟩

/-- The days up to a date, counted from the first day of the year one. -/
def number (date : Date) : Int :=
  daysBefore date.year + daysOf date.year (date.month - 1) + date.day

variable (date : Date)

theorem daysOf_month :
    daysOf date.year date.month = daysOf date.year (date.month - 1) + daysIn date.year date.month := by
  obtain ⟨month, is⟩ : ∃ month, date.month = month + 1 := ⟨date.month - 1, by have := date.month_mem; omega⟩
  rw [is]
  rfl

theorem number_bounds : daysBefore date.year < date.number ∧
    date.number ≤ daysBefore date.year + daysOf date.year date.month := by
  have day := date.day_mem
  have month := date.daysOf_month
  unfold number
  omega

theorem number_le : date.number ≤ daysBefore (date.year + 1) := by
  have bounds := date.number_bounds.2
  have months := daysOf_mono date.year date.month_mem.2
  rw [daysBefore_succ]
  omega

variable {date}

theorem year_le_of_number_le {other : Date} (le : date.number ≤ other.number) :
    date.year ≤ other.year := by
  by_contra before
  have years := daysBefore_mono (show other.year + 1 ≤ date.year by omega)
  have early := other.number_le
  have late := date.number_bounds.1
  omega

theorem month_le_of_number_le {other : Date} (year : date.year = other.year)
    (le : date.number ≤ other.number) : date.month ≤ other.month := by
  by_contra before
  have months := daysOf_mono date.year (show other.month ≤ date.month - 1 by omega)
  have early := other.number_bounds.2
  have day := date.day_mem
  unfold number at le early
  rw [year] at *
  omega

/-- Dates are told apart by their numbers. -/
theorem number_injective {other : Date} (same : date.number = other.number) : date = other := by
  -- the year is told first, then the month in it: neither can be less where the number is not
  have before := Int.le_of_eq same
  have after := Int.le_of_eq same.symm
  have year := Int.le_antisymm (year_le_of_number_le before) (year_le_of_number_le after)
  have month := Nat.le_antisymm (month_le_of_number_le year before)
    (month_le_of_number_le year.symm after)
  have day : date.day = other.day := by
    unfold number at same
    rw [year, month] at same
    omega
  cases date
  cases other
  cases year
  cases month
  cases day
  rfl

theorem number_of_last (last : ¬ date.day < daysIn date.year date.month) :
    date.number = daysBefore date.year + daysOf date.year date.month := by
  have day := date.day_mem
  have through := date.daysOf_month
  unfold number
  omega

theorem number_of_end (last : ¬ date.day < daysIn date.year date.month) (month : ¬ date.month < 12) :
    date.number = daysBefore (date.year + 1) := by
  have december : date.month = 12 := by
    have bounds := date.month_mem
    omega
  rw [number_of_last last, december, daysBefore_succ]

theorem number_next {next : Date} (found : date.next? = some next) :
    next.number = date.number + 1 := by
  unfold next? at found
  split at found
  · obtain ⟨year, month, day⟩ := of_eq_some_iff.mp found
    simp only [number, year, month, day]
    omega
  · next last =>
      split at found
      · obtain ⟨year, month, day⟩ := of_eq_some_iff.mp found
        rw [number_of_last last, number, year, month, day]
        rfl
      · next december =>
          obtain ⟨year, month, day⟩ := of_eq_some_iff.mp found
          rw [number_of_end last december, number, year, month, day]
          simp [daysOf]

theorem last_of_next_none (missing : date.next? = none) :
    daysBefore (lastYear + 1) ≤ date.number := by
  unfold next? at missing
  split at missing
  · next early =>
      obtain ⟨next, made⟩ := of_isSome date.year_mem date.month_mem
        (show 1 ≤ date.day + 1 ∧ date.day + 1 ≤ _ from ⟨Nat.le_add_left 1 _, early⟩)
      cases made.symm.trans missing
  · next last =>
      split at missing
      · next month =>
          obtain ⟨next, made⟩ := of_isSome date.year_mem
            (show 1 ≤ date.month + 1 ∧ date.month + 1 ≤ 12 from ⟨Nat.le_add_left 1 _, month⟩)
            ⟨Nat.le_refl 1, (daysIn_bounds _ _).1⟩
          cases made.symm.trans missing
      · next december =>
          -- the first of January is there, unless its year is not
          rw [number_of_end last december]
          apply daysBefore_mono
          by_contra early
          have years := date.year_mem
          obtain ⟨next, made⟩ := of_isSome (show firstYear ≤ date.year + 1 ∧ date.year + 1 ≤ lastYear by omega)
            (show 1 ≤ 1 ∧ 1 ≤ 12 by decide) ⟨Nat.le_refl 1, (daysIn_bounds _ _).1⟩
          cases made.symm.trans missing

theorem next_eq_some_iff {other : Date} :
    date.next? = some other ↔ other.number = date.number + 1 := by
  constructor
  · exact number_next
  · intro follows
    cases found : date.next? with
    | none =>
        have last := last_of_next_none found
        have years := daysBefore_mono (show other.year + 1 ≤ lastYear + 1 by have := other.year_mem; omega)
        have bound := other.number_le
        omega
    | some next =>
        rw [number_injective ((number_next found).trans follows.symm)]

theorem number_of_first (first : ¬ 1 < date.day) :
    date.number = daysBefore date.year + daysOf date.year (date.month - 1) + 1 := by
  have day := date.day_mem
  unfold number
  omega

theorem number_previous {previous : Date} (found : date.previous? = some previous) :
    previous.number = date.number - 1 := by
  unfold previous? at found
  split at found
  · obtain ⟨year, month, day⟩ := of_eq_some_iff.mp found
    simp only [number, year, month, day]
    omega
  · next first =>
      split at found
      · obtain ⟨year, month, day⟩ := of_eq_some_iff.mp found
        have through := previous.daysOf_month
        rw [month, year] at through
        rw [number_of_first first, number, year, month, day]
        omega
      · next january =>
          obtain ⟨year, month, day⟩ := of_eq_some_iff.mp found
          have bounds := date.month_mem
          have begins : date.month - 1 = 0 := by omega
          have years := daysBefore_succ (date.year - 1)
          have through := previous.daysOf_month
          rw [month, year] at through
          rw [Int.sub_add_cancel] at years
          rw [number_of_first first, number, year, month, day, begins, years, through]
          simp only [daysOf, daysIn]
          omega

theorem first_of_previous_none (missing : date.previous? = none) :
    date.number = daysBefore firstYear + 1 := by
  unfold previous? at missing
  split at missing
  · next late =>
      obtain ⟨previous, made⟩ := of_isSome date.year_mem date.month_mem
        (show 1 ≤ date.day - 1 ∧ date.day - 1 ≤ _ by have := date.day_mem; omega)
      cases made.symm.trans missing
  · next first =>
      split at missing
      · next month =>
          obtain ⟨previous, made⟩ := of_isSome date.year_mem
            (show 1 ≤ date.month - 1 ∧ date.month - 1 ≤ 12 by have := date.month_mem; omega)
            ⟨(daysIn_bounds _ _).1, Nat.le_refl _⟩
          cases made.symm.trans missing
      · next january =>
          -- the last day of the year before is there, unless that year is not
          have begins : date.month - 1 = 0 := by have := date.month_mem; omega
          have year : date.year = firstYear := by
            by_contra late
            have years := date.year_mem
            obtain ⟨previous, made⟩ := of_isSome
              (show firstYear ≤ date.year - 1 ∧ date.year - 1 ≤ lastYear by omega)
              (show 1 ≤ 12 ∧ 12 ≤ 12 by decide)
              (show 1 ≤ 31 ∧ 31 ≤ daysIn (date.year - 1) 12 from ⟨by decide, Nat.le_refl 31⟩)
            cases made.symm.trans missing
          rw [number_of_first first, begins, year]
          simp [daysOf]

theorem previous_eq_some_iff {other : Date} :
    date.previous? = some other ↔ other.number = date.number - 1 := by
  constructor
  · exact number_previous
  · intro precedes
    cases found : date.previous? with
    | none =>
        have first := first_of_previous_none found
        have years := daysBefore_mono other.year_mem.1
        have bound := other.number_bounds.1
        omega
    | some previous =>
        rw [number_injective ((number_previous found).trans precedes.symm)]

end Date

namespace Instant

/-- A point in time, by the minutes that have passed and by where it stands in its minute. A leap second comes
after the sixtieth second, in the minute that it ends. -/
structure Moment where
  minute : Int
  second : Nat
  nanosecond : Nat
  deriving DecidableEq

theorem of_eq_some_iff {date : Date} {minute second nanosecond : Nat} {instant : Instant} :
    of? date minute second nanosecond = some instant ↔
      instant.date = date ∧ instant.minute = minute ∧ instant.second = second ∧
        instant.nanosecond = nanosecond := by
  simp only [of?, Option.dite_none_right_eq_some, Option.some.injEq]
  constructor
  · rintro ⟨_, _, _, rfl⟩
    exact ⟨rfl, rfl, rfl, rfl⟩
  · rintro ⟨rfl, rfl, rfl, rfl⟩
    exact ⟨instant.minute_lt, instant.second_le, instant.nanosecond_lt, rfl⟩

def moment (instant : Instant) : Moment :=
  ⟨1440 * instant.date.number + instant.minute, instant.second, instant.nanosecond⟩

theorem moment_eq_iff {instant : Instant} {minute : Int} {second nanosecond : Nat} :
    instant.moment = ⟨minute, second, nanosecond⟩ ↔
      1440 * instant.date.number + instant.minute = minute ∧ instant.second = second ∧
        instant.nanosecond = nanosecond := by
  rw [moment, Moment.mk.injEq]

/-- A clock that is ahead of universal time is put back, over midnight if need be. -/
theorem atOffset_eq_some_iff {offset : Int} {date : Date} {minute second nanosecond : Nat}
    (day : minute < 1440) (ahead : offset < 1440) (behind : -1440 < offset) {instant : Instant} :
    atOffset? offset date minute second nanosecond = some instant ↔
      instant.moment = ⟨1440 * date.number + minute - offset, second, nanosecond⟩ := by
  have bound := instant.minute_lt
  rw [moment_eq_iff]
  simp only [atOffset?]
  -- both sides count minutes, and less than a day of them stays within a date
  split
  · simp only [Option.bind_eq_some_iff, Date.previous_eq_some_iff, of_eq_some_iff]
    constructor
    · rintro ⟨_, precedes, rfl, minutes, rest⟩
      exact ⟨by omega, rest⟩
    · rintro ⟨minutes, rest⟩
      exact ⟨instant.date, by omega, rfl, by omega, rest⟩
  · split
    · rw [of_eq_some_iff]
      constructor
      · rintro ⟨rfl, minutes, rest⟩
        exact ⟨by omega, rest⟩
      · rintro ⟨minutes, rest⟩
        exact ⟨Date.number_injective (by omega), by omega, rest⟩
    · simp only [Option.bind_eq_some_iff, Date.next_eq_some_iff, of_eq_some_iff]
      constructor
      · rintro ⟨_, follows, rfl, minutes, rest⟩
        exact ⟨by omega, rest⟩
      · rintro ⟨minutes, rest⟩
        exact ⟨instant.date, by omega, rfl, by omega, rest⟩

end Instant

end Landscape

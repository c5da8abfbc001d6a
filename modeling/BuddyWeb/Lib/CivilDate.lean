/-
Dates of the Gregorian calendar, carried on in both directions, and the minutes of their days,
counted from the first minute of 1970.
-/
import BuddyWeb.Lib.FlatJson

namespace BuddyWeb

structure CivilMinute where
  year : Int
  month : Int
  day : Int
  hour : Int
  minute : Int
deriving DecidableEq, Repr

/-- The days before a date.  Years are counted from March on, so that a leap day is the last
one of its year. -/
def daysBefore (year month day : Int) : Int :=
  let marchYear := if month ≤ 2 then year - 1 else year
  let marchMonth := (month + 9) % 12
  365 * marchYear + marchYear / 4 - marchYear / 100 + marchYear / 400 +
    (153 * marchMonth + 2) / 5 + day - 719469

/-- The minute of a date; months beyond a year carry over into the next ones, and a year of
two digits is one of the twentieth century. -/
def minuteOfCivil (civil : CivilMinute) : Int :=
  let year := if 0 ≤ civil.year ∧ civil.year ≤ 99 then 1900 + civil.year else civil.year
  let months := civil.month - 1
  (daysBefore (year + months / 12) (months % 12 + 1) civil.day * 24 + civil.hour) * 60 +
    civil.minute

/-- A day in periods of four centuries, one century, four years and one year, each from
March on. -/
structure MarchDay where
  era : Int
  century : Int
  four : Int
  yearOfFour : Int
  dayOfYear : Int

def marchDay (days : Int) : MarchDay :=
  let dayOfEra := (days + 719468) % 146097
  -- the last day of a period belongs to its last part, which is a day longer
  let century := if dayOfEra = 146096 then 3 else dayOfEra / 36524
  let dayOfCentury := dayOfEra - 36524 * century
  let dayOfFour := dayOfCentury % 1461
  let yearOfFour := if dayOfFour = 1460 then 3 else dayOfFour / 365
  ⟨(days + 719468) / 146097, century, dayOfCentury / 1461, yearOfFour,
    dayOfFour - 365 * yearOfFour⟩

namespace MarchDay

def year (day : MarchDay) : Int :=
  400 * day.era + 100 * day.century + 4 * day.four + day.yearOfFour

def month (day : MarchDay) : Int :=
  (5 * day.dayOfYear + 2) / 153

/-- The periods are within their bounds. -/
structure InBounds (day : MarchDay) : Prop where
  century : 0 ≤ day.century ∧ day.century ≤ 3
  four : 0 ≤ day.four ∧ day.four ≤ 24
  yearOfFour : 0 ≤ day.yearOfFour ∧ day.yearOfFour ≤ 3
  dayOfYear : 0 ≤ day.dayOfYear ∧ day.dayOfYear ≤ 365

theorem InBounds.leapDays {day : MarchDay} (h : day.InBounds) :
    day.year / 4 = 100 * day.era + 25 * day.century + day.four ∧
      day.year / 100 = 4 * day.era + day.century ∧ day.year / 400 = day.era := by
  obtain ⟨hcentury, hfour, hyear, _⟩ := h
  unfold year
  omega

theorem InBounds.month {day : MarchDay} (h : day.InBounds) :
    0 ≤ day.month ∧ day.month ≤ 11 := by
  have hday := h.dayOfYear
  unfold MarchDay.month
  omega

end MarchDay

theorem marchDay_inBounds (days : Int) : (marchDay days).InBounds := by
  constructor <;> simp only [marchDay] <;> omega

theorem marchDay_days (days : Int) :
    days + 719468 = 146097 * (marchDay days).era + 36524 * (marchDay days).century +
      1461 * (marchDay days).four + 365 * (marchDay days).yearOfFour +
      (marchDay days).dayOfYear := by
  simp only [marchDay]
  omega

/-- The date of a day. -/
def civilOfDays (days : Int) : Int × Int × Int :=
  let day := marchDay days
  if day.month < 10 then
    (day.year, day.month + 3, day.dayOfYear - (153 * day.month + 2) / 5 + 1)
  else (day.year + 1, day.month - 9, day.dayOfYear - (153 * day.month + 2) / 5 + 1)

def civilOfMinute (minute : Int) : CivilMinute :=
  let date := civilOfDays (minute / 1440)
  ⟨date.1, date.2.1, date.2.2, minute % 1440 / 60, minute % 60⟩

/-- The ranges which two digits hold. -/
structure CivilMinute.InRange (civil : CivilMinute) : Prop where
  month : 1 ≤ civil.month ∧ civil.month ≤ 12
  day : 1 ≤ civil.day ∧ civil.day ≤ 31
  hour : 0 ≤ civil.hour ∧ civil.hour ≤ 23
  minute : 0 ≤ civil.minute ∧ civil.minute ≤ 59

theorem civilOfMinute_inRange (minute : Int) : (civilOfMinute minute).InRange := by
  have hbounds := (marchDay_inBounds (minute / 1440)).dayOfYear
  have hmonth := (marchDay_inBounds (minute / 1440)).month
  constructor <;> simp only [civilOfMinute, civilOfDays]
  · split <;> simp only <;> omega
  · unfold MarchDay.month
    split <;> simp only <;> omega
  · omega
  · omega

/-- The date of a day has that many days before it. -/
theorem daysBefore_civilOfDays (days : Int) :
    daysBefore (civilOfDays days).1 (civilOfDays days).2.1 (civilOfDays days).2.2 = days := by
  have hbounds := marchDay_inBounds days
  have hdays := marchDay_days days
  have hmonth := hbounds.month
  obtain ⟨hfour, hcentury, hera⟩ := hbounds.leapDays
  have hyear : (marchDay days).year = 400 * (marchDay days).era +
      100 * (marchDay days).century + 4 * (marchDay days).four +
      (marchDay days).yearOfFour := rfl
  by_cases hlate : (marchDay days).month < 10
  · simp only [civilOfDays, hlate, ↓reduceIte, daysBefore]
    rw [if_neg (by omega)]
    have hmod : ((marchDay days).month + 3 + 9) % 12 = (marchDay days).month := by omega
    rw [hmod, hfour, hcentury, hera]
    omega
  · simp only [civilOfDays, hlate, ↓reduceIte, daysBefore]
    rw [if_pos (by omega)]
    have hmod : ((marchDay days).month - 9 + 9) % 12 = (marchDay days).month := by omega
    rw [hmod, Int.add_sub_cancel, hfour, hcentury, hera]
    omega

/-- A date goes back to its minute unless its year has two digits. -/
theorem minuteOfCivil_civilOfMinute {minute : Int} (h : 100 ≤ (civilOfMinute minute).year) :
    minuteOfCivil (civilOfMinute minute) = minute := by
  obtain ⟨hmonth, _, _, _⟩ := civilOfMinute_inRange minute
  have hmonths : ((civilOfMinute minute).month - 1) / 12 = 0 := by omega
  have hmonthOf : ((civilOfMinute minute).month - 1) % 12 + 1 = (civilOfMinute minute).month := by
    omega
  have hdays : daysBefore (civilOfMinute minute).year (civilOfMinute minute).month
      (civilOfMinute minute).day = minute / 1440 := daysBefore_civilOfDays (minute / 1440)
  have hhour : (civilOfMinute minute).hour = minute % 1440 / 60 := rfl
  have hminute : (civilOfMinute minute).minute = minute % 60 := rfl
  simp only [minuteOfCivil]
  rw [if_neg (by omega), hmonths, hmonthOf, Int.add_zero, hdays, hhour, hminute]
  omega

/-- The years as far as days tell them. -/
theorem civilOfDays_year (days : Int) :
    400 * (days + 719468) - 146688 ≤ 146097 * (civilOfDays days).1 ∧
      146097 * (civilOfDays days).1 ≤ 400 * (days + 719468) + 146697 := by
  obtain ⟨hcentury, hfour, hyearOfFour, hday⟩ := marchDay_inBounds days
  have hdays := marchDay_days days
  have hyear : (marchDay days).year = 400 * (marchDay days).era +
      100 * (marchDay days).century + 4 * (marchDay days).four +
      (marchDay days).yearOfFour := rfl
  simp only [civilOfDays]
  split <;> simp only <;> omega

/-- A few days do not lead out of the years with three digits or more. -/
theorem le_year_of_near {minute near : Int} (h : 1000 ≤ (civilOfMinute minute).year)
    (hnear : minute - 14400 ≤ near) : 100 ≤ (civilOfMinute near).year := by
  have hyear : (civilOfMinute minute).year = (civilOfDays (minute / 1440)).1 := rfl
  have hnearYear : (civilOfMinute near).year = (civilOfDays (near / 1440)).1 := rfl
  have hupper := (civilOfDays_year (minute / 1440)).2
  have hlower := (civilOfDays_year (near / 1440)).1
  omega

end BuddyWeb

import HeatingHub.Calendar.Moment
import HeatingHub.Proofs.Calendar.DateText
import Mathlib.Data.Int.Init

/-!
# Minutes on the line of time

Minutes are numbered from the first one of day 0 (`Moment.minute`), so that adding minutes to a
moment adds to the number of its minute, whatever days, months and years are carried. A date of the
first ten thousand years can be exceeded by millions of days inside the calendar's range.
-/

namespace HeatingHub.Calendar

namespace Moment

variable {m a b : Moment}

/-- The number of the minute that the moment lies in. -/
def minute (m : Moment) : Int := 1440 * m.date.day + (m.time.second / 60 : Nat)

/-- The moment is the beginning of its minute. -/
def IsMinute (m : Moment) : Prop := m.time.second % 60 = 0 ∧ m.time.nano = 0

theorem isMinute_truncateToMinute (m : Moment) : m.truncateToMinute.IsMinute :=
  ⟨Nat.mul_mod_left _ 60, rfl⟩

theorem minute_truncateToMinute (m : Moment) : m.truncateToMinute.minute = m.minute := by
  unfold minute truncateToMinute ClockTime.truncateToMinute
  dsimp only
  rw [Nat.mul_div_cancel _ (by decide)]

theorem truncateToMinute_le (m : Moment) : m.truncateToMinute ≤ m := by
  rw [le_iff]
  unfold rank truncateToMinute ClockTime.truncateToMinute ClockTime.rank
  dsimp only
  omega

theorem minute_addMinutes (m : Moment) (n : Nat) : (m.addMinutes n).minute = m.minute + n := by
  unfold addMinutes
  split
  case isTrue none => simp [none]
  case isFalse =>
    unfold minute
    dsimp only [Date.addDays_day]
    omega

/-- Of two moments the one in the earlier minute is the earlier one; this also holds of a leap
second, which comes before the next minute. -/
theorem lt_of_minute_lt (h : a.minute < b.minute) : a < b := by
  have := a.time.second_lt
  have := a.time.nano_lt
  have := b.time.second_lt
  rw [lt_iff]
  unfold minute at h
  unfold rank ClockTime.rank
  omega

/-- Minutes carry at most so many days. -/
theorem day_addMinutes_le (m : Moment) (n : Nat) :
    m.date ≤ (m.addMinutes n).date ∧ (m.addMinutes n).date ≤ m.date.addDays (n / 1440 + 1 : Nat) := by
  have := m.time.second_lt
  simp only [Date.le_iff]
  unfold addMinutes
  split
  case isTrue none =>
    simp only [Date.addDays_day]
    omega
  case isFalse =>
    simp only [Date.addDays_day]
    omega

end Moment

/-! ## Years -/

theorem daysBefore_succ (year : Int) :
    daysBefore (year + 1) = daysBefore year + total (monthLengths year) := by
  rw [total_monthLengths]
  unfold daysBefore
  dsimp only
  have leap : isLeap year = true ↔ year % 4 = 0 ∧ (year % 100 ≠ 0 ∨ year % 400 = 0) := by
    simp [isLeap]
  split
  case isTrue h =>
    have := leap.1 h
    omega
  case isFalse h =>
    have := mt leap.2 h
    omega

theorem daysBefore_mono {a b : Int} (h : a ≤ b) : daysBefore a ≤ daysBefore b := by
  induction b, h using Int.leInduction with
  | base => exact Int.le_refl _
  | succ b _ ih =>
    rw [daysBefore_succ]
    omega

/-- A date lies in its year. -/
theorem day_bounds (d : Date) :
    daysBefore d.civil.year ≤ d.day ∧ d.day < daysBefore (d.civil.year + 1) := by
  obtain ⟨day, inYear⟩ := yearAndDay_spec d
  rw [daysBefore_succ]
  show daysBefore d.yearAndDay.1 ≤ d.day ∧
    d.day < daysBefore d.yearAndDay.1 + total (monthLengths d.yearAndDay.1)
  omega

theorem year_mono {d e : Date} (h : d ≤ e) : d.civil.year ≤ e.civil.year := by
  by_contra earlier
  have before := daysBefore_mono (Int.not_le.1 earlier)
  have low := (day_bounds d).1
  have high := (day_bounds e).2
  rw [Date.le_iff] at h
  omega

/-- Dates after one that is in the calendar's range and has a year up to 9999 are in range too, if
they are no more than ninety million days later. -/
theorem inRange_of_le {d e : Date} (range : d.inRange = true) (year : d.civil.year ≤ 9999)
    (later : d ≤ e) (soon : e ≤ d.addDays 90000000) : e.inRange = true := by
  have inRange_iff (d : Date) :
      d.inRange = true ↔ -262143 ≤ d.civil.year ∧ d.civil.year ≤ 262142 := by
    show yearInRange d.civil.year = true ↔ _
    simp [yearInRange]
  rw [inRange_iff] at range ⊢
  refine ⟨Int.le_trans range.1 (year_mono later), ?_⟩
  by_contra beyond
  have low := daysBefore_mono (Int.not_le.1 beyond)
  have high := daysBefore_mono (Int.add_le_add_right year 1)
  have apart : daysBefore (9999 + 1) + 90000000 < daysBefore (262142 + 1) := by decide
  have first := (day_bounds e).1
  have last := (day_bounds d).2
  rw [Date.le_iff, Date.addDays_day] at soon
  omega

end HeatingHub.Calendar

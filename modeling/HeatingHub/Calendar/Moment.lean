import HeatingHub.Calendar.ClockTime
import HeatingHub.Calendar.Date

/-!
# Moments

A moment is a time on a date, without a zone. Schedules and holidays are judged in local moments;
messages of the boiler carry moments of universal time, given in milliseconds.
-/

namespace HeatingHub.Calendar

structure Moment where
  date : Date
  time : ClockTime
deriving DecidableEq

namespace Moment

/-- The place of a moment on the line of time. -/
def rank (m : Moment) : Int := 172800000000000 * m.date.day + m.time.rank

instance : LE Moment := ⟨fun a b => a.rank ≤ b.rank⟩

instance : LT Moment := ⟨fun a b => a.rank < b.rank⟩

instance (a b : Moment) : Decidable (a ≤ b) := inferInstanceAs (Decidable (a.rank ≤ b.rank))

instance (a b : Moment) : Decidable (a < b) := inferInstanceAs (Decidable (a.rank < b.rank))

theorem le_iff {a b : Moment} : a ≤ b ↔ a.rank ≤ b.rank := Iff.rfl

theorem lt_iff {a b : Moment} : a < b ↔ a.rank < b.rank := Iff.rfl

/-- Moments of one date are ordered by their times, others by their dates. -/
theorem le_iff_date_time {a b : Moment} :
    a ≤ b ↔ a.date < b.date ∨ a.date = b.date ∧ a.time ≤ b.time := by
  have := a.time.rank_lt
  have := b.time.rank_lt
  simp only [le_iff, rank, Date.lt_iff, Date.eq_iff, ClockTime.le_iff]
  omega

theorem lt_iff_date_time {a b : Moment} :
    a < b ↔ a.date < b.date ∨ a.date = b.date ∧ a.time < b.time := by
  have := a.time.rank_lt
  have := b.time.rank_lt
  simp only [lt_iff, rank, Date.lt_iff, Date.eq_iff, ClockTime.lt_iff]
  omega

/-- The beginning of the minute that the moment lies in. -/
def truncateToMinute (m : Moment) : Moment := ⟨m.date, m.time.truncateToMinute⟩

/-- The moment `n` minutes later. From a leap second one counts as from the second it belongs
to. -/
def addMinutes (m : Moment) (n : Nat) : Moment :=
  if h : n = 0 then m
  else
    let seconds := m.time.second + 60 * n
    ⟨m.date.addDays (seconds / 86400 : Nat),
      ⟨seconds % 86400, m.time.nano % 1000000000, by omega, by omega⟩⟩

/-- The day 1 January 1970. -/
def epochDay : Int := 719162

example : (Date.ofCivil? ⟨1970, 1, 1⟩).map Date.day = some epochDay := by decide

/-- The moment a number of milliseconds after the start of 1970, inside the calendar's range. -/
def ofEpochMillis? (millis : Int) : Option Moment :=
  let date : Date := ⟨epochDay + millis / 86400000⟩
  let inDay := (millis % 86400000).toNat
  if date.inRange then
    some ⟨date, ⟨inDay / 1000, inDay % 1000 * 1000000, by omega, by omega⟩⟩
  else none

/-! ## Text -/

/-- Date and time to the second, parted by `T`. -/
def text (m : Moment) : String := m.date.text ++ "T" ++ m.time.text

/-- A moment of universal time, with the fraction of its second. -/
def universalText (m : Moment) : String := m.text ++ m.time.fractionText ++ "Z"

example : (ofEpochMillis? 1705320000123).map universalText = some "2024-01-15T12:00:00.123Z" := by
  decide +kernel

end Moment

end HeatingHub.Calendar

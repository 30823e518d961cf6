import HeatingHub.Number.Text

/-!
# Days of the calendar

A date is a day number, so that the next day, the weekday and the order of dates are arithmetic.
Day 0 is Monday, 1 January of year 1; the calendar is the Gregorian one, carried on in both
directions. Year, month and day of the month are a second view of the same day.
-/

namespace HeatingHub.Calendar

/-- A day, counted from Monday, 1 January of year 1. -/
structure Date where
  day : Int
deriving DecidableEq

namespace Date

instance : LE Date := ⟨fun a b => a.day ≤ b.day⟩

instance : LT Date := ⟨fun a b => a.day < b.day⟩

instance (a b : Date) : Decidable (a ≤ b) := inferInstanceAs (Decidable (a.day ≤ b.day))

instance (a b : Date) : Decidable (a < b) := inferInstanceAs (Decidable (a.day < b.day))

theorem le_iff {a b : Date} : a ≤ b ↔ a.day ≤ b.day := Iff.rfl

theorem lt_iff {a b : Date} : a < b ↔ a.day < b.day := Iff.rfl

theorem eq_iff {a b : Date} : a = b ↔ a.day = b.day :=
  ⟨congrArg day, fun h => congrArg mk h⟩

/-- The date `n` days later. -/
def addDays (d : Date) (n : Int) : Date := ⟨d.day + n⟩

@[simp] theorem addDays_day (d : Date) (n : Int) : (d.addDays n).day = d.day + n := rfl

end Date

/-! ## Weekdays -/

/-- A day of the week; Monday is 0. -/
abbrev Weekday := Fin 7

def Weekday.name (w : Weekday) : String :=
  #v["monday", "tuesday", "wednesday", "thursday", "friday", "saturday", "sunday"].get w

def Date.weekday (d : Date) : Weekday := ⟨(d.day % 7).toNat, by omega⟩

/-! ## Year, month and day -/

/-- A date as year, month from 1 and day of the month from 1. -/
structure Civil where
  year : Int
  month : Nat
  day : Nat
deriving DecidableEq

def isLeap (year : Int) : Bool := year % 4 == 0 && (year % 100 != 0 || year % 400 == 0)

/-- The lengths of the twelve months. -/
def monthLengths (year : Int) : List Nat :=
  [31, if isLeap year then 29 else 28, 31, 30, 31, 30, 31, 31, 30, 31, 30, 31]

/-- The number of days from year 1 to the first of January. -/
def daysBefore (year : Int) : Int :=
  let past := year - 1
  365 * past + past / 4 - past / 100 + past / 400

/-- The sum of the lengths of months. -/
def total : List Nat → Nat
  | [] => 0
  | length :: rest => length + total rest

/-- The calendar's range of years. -/
def yearInRange (year : Int) : Bool := decide (-262143 ≤ year) && decide (year ≤ 262142)

/-- The date of a civil day, if there is such a day. -/
def Date.ofCivil? (c : Civil) : Option Date :=
  match (monthLengths c.year)[c.month - 1]? with
  | some length =>
    if yearInRange c.year ∧ 1 ≤ c.month ∧ 1 ≤ c.day ∧ c.day ≤ length then
      some ⟨daysBefore c.year + total ((monthLengths c.year).take (c.month - 1)) + (c.day - 1)⟩
    else none
  | none => none

/-- Finds the month of a day of the year, counted from 0; the list holds the lengths of the months
from `month` on. -/
def splitMonths (month : Nat) : List Nat → Nat → Nat × Nat
  | [], day => (month, day + 1)
  | length :: rest, day =>
    if day < length then (month, day + 1) else splitMonths (month + 1) rest (day - length)

/-- The year of a date, and the day of the year from 0. A cycle of 400 years has 146097 days; the
last year of a cycle of 4 or 400 years has the leap day, so it counts 366. -/
def Date.yearAndDay (d : Date) : Int × Nat :=
  let cycle := d.day / 146097
  let n := (d.day % 146097).toNat
  let centuries := min (n / 36524) 3
  let n := n - 36524 * centuries
  let fours := n / 1461
  let n := n % 1461
  let years := min (n / 365) 3
  (400 * cycle + (100 * centuries + 4 * fours + years : Nat) + 1, n - 365 * years)

def Date.civil (d : Date) : Civil :=
  let (year, n) := d.yearAndDay
  let (month, day) := splitMonths 1 (monthLengths year) n
  ⟨year, month, day⟩

/-- The year of the date lies in the calendar's range. -/
def Date.inRange (d : Date) : Bool := yearInRange d.yearAndDay.1

example : (Date.ofCivil? ⟨2024, 2, 29⟩).map Date.civil = some ⟨2024, 2, 29⟩ := by decide

example : (Date.ofCivil? ⟨2024, 1, 15⟩).map Date.weekday = some 0 := by decide

example : Date.ofCivil? ⟨1900, 2, 29⟩ = none := by decide

/-! ## Text -/

/-- Four digits, and a sign before any year outside 0 to 9999. -/
def yearText (year : Int) : List Char :=
  if 0 ≤ year ∧ year ≤ 9999 then Number.padded 4 year.natAbs
  else (if year < 0 then '-' else '+') :: Number.padded 4 year.natAbs

def Civil.text (c : Civil) : List Char :=
  yearText c.year ++ '-' :: Number.padded 2 c.month ++ '-' :: Number.padded 2 c.day

/-- The date as `YYYY-MM-DD`. -/
def Date.text (d : Date) : String := String.ofList d.civil.text

example : (Date.mk 0).text = "0001-01-01" ∧ (Date.mk (-367)).text = "-0001-12-31" := by
  decide +kernel

end HeatingHub.Calendar

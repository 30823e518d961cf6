import HeatingHub.Number.Numeral

/-!
# Times of the day

A time is a second of the day and nanoseconds after it began. A leap second has no second of its
own: it belongs to the second before it, whose nanoseconds then go on past a thousand million.
-/

namespace HeatingHub.Calendar

structure ClockTime where
  second : Nat
  nano : Nat
  second_lt : second < 86400 := by omega
  nano_lt : nano < 2000000000 := by omega
deriving DecidableEq

namespace ClockTime

/-- The place of a time in the day; leap seconds come after the second they belong to. -/
def rank (t : ClockTime) : Nat := 2000000000 * t.second + t.nano

theorem rank_lt (t : ClockTime) : t.rank < 172800000000000 := by
  have := t.second_lt
  have := t.nano_lt
  unfold rank
  omega

theorem rank_injective {a b : ClockTime} (h : a.rank = b.rank) : a = b := by
  obtain ⟨s, n, _, _⟩ := a
  obtain ⟨s', n', _, _⟩ := b
  simp only [rank] at h
  obtain rfl : s = s' := by omega
  obtain rfl : n = n' := by omega
  rfl

instance : LE ClockTime := ⟨fun a b => a.rank ≤ b.rank⟩

instance : LT ClockTime := ⟨fun a b => a.rank < b.rank⟩

instance (a b : ClockTime) : Decidable (a ≤ b) := inferInstanceAs (Decidable (a.rank ≤ b.rank))

instance (a b : ClockTime) : Decidable (a < b) := inferInstanceAs (Decidable (a.rank < b.rank))

theorem le_iff {a b : ClockTime} : a ≤ b ↔ a.rank ≤ b.rank := Iff.rfl

theorem lt_iff {a b : ClockTime} : a < b ↔ a.rank < b.rank := Iff.rfl

def midnight : ClockTime := ⟨0, 0, by omega, by omega⟩

/-- A time given by hour and minute. -/
def ofHourMinute? (hour minute : Nat) : Option ClockTime :=
  if h : hour < 24 ∧ minute < 60 then some ⟨3600 * hour + 60 * minute, 0, by omega, by omega⟩
  else none

/-- A time given by hour, minute, second and nanosecond; second 60 is a leap second. -/
def ofParts? (hour minute second nano : Nat) : Option ClockTime :=
  if h : hour < 24 ∧ minute < 60 ∧ second ≤ 60 ∧ nano < 1000000000 then
    if leap : second = 60 then
      some ⟨3600 * hour + 60 * minute + 59, 1000000000 + nano, by omega, by omega⟩
    else some ⟨3600 * hour + 60 * minute + second, nano, by omega, by omega⟩
  else none

/-- The minute the time lies in. -/
def truncateToMinute (t : ClockTime) : ClockTime :=
  ⟨t.second / 60 * 60, 0, by have := t.second_lt; omega, by omega⟩

/-! ## Text -/

def hour (t : ClockTime) : Nat := t.second / 3600

def minute (t : ClockTime) : Nat := t.second / 60 % 60

/-- The second shown; 60 in a leap second. -/
def shownSecond (t : ClockTime) : Nat := t.second % 60 + t.nano / 1000000000

/-- Hour and minute. -/
def shortText (t : ClockTime) : String :=
  String.ofList (Number.padded 2 t.hour ++ ':' :: Number.padded 2 t.minute)

/-- Hour, minute and second. -/
def text (t : ClockTime) : String :=
  String.ofList (Number.padded 2 t.hour ++ ':' :: Number.padded 2 t.minute ++
    ':' :: Number.padded 2 t.shownSecond)

/-- The fraction of the second in thousands, millionths or thousand-millionths, as few as show
all of it; nothing for a whole second. -/
def fractionText (t : ClockTime) : String :=
  let n := t.nano % 1000000000
  if n = 0 then ""
  else if n % 1000000 = 0 then String.ofList ('.' :: Number.padded 3 (n / 1000000))
  else if n % 1000 = 0 then String.ofList ('.' :: Number.padded 6 (n / 1000))
  else String.ofList ('.' :: Number.padded 9 n)

end ClockTime

end HeatingHub.Calendar

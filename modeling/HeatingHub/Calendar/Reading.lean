import HeatingHub.Calendar.Moment
import HeatingHub.Number.Power
import HeatingHub.Text.Blank

/-!
# Dates and times as written

Numbers in a date or time may have blanks before them. A year has at most four digits unless it
has a sign; all other numbers have at most two.
-/

namespace HeatingHub.Calendar

open Number (valueOf)

/-! ## Numbers -/

/-- Takes the digits at the head of a text, at most `limit` of them. -/
def takeDigitsUpTo : Nat → List Char → List Char × List Char
  | _, [] => ([], [])
  | 0, s => ([], s)
  | limit + 1, c :: s =>
    if c.isDigit then
      let (ds, rest) := takeDigitsUpTo limit s
      (c :: ds, rest)
    else ([], c :: s)

/-- A number of one digit up to `limit` digits. -/
def readUpTo? (limit : Nat) (s : List Char) : Option (Nat × List Char) :=
  let (ds, rest) := takeDigitsUpTo limit s
  if ds.isEmpty then none else some (valueOf ds, rest)

/-- A number of two digits at most, behind blanks. -/
def readPair? (s : List Char) : Option (Nat × List Char) := readUpTo? 2 (Text.trimStart s)

def readYear? (s : List Char) : Option (Int × List Char) :=
  match Text.trimStart s with
  | '-' :: s => (readUpTo? s.length s).map fun (n, rest) => (-(n : Int), rest)
  | '+' :: s => (readUpTo? s.length s).map fun (n, rest) => ((n : Int), rest)
  | s => (readUpTo? 4 s).map fun (n, rest) => ((n : Int), rest)

/-- Takes one given character. -/
def expect? (c : Char) : List Char → Option (List Char)
  | [] => none
  | d :: s => if c = d then some s else none

/-! ## Dates -/

/-- Year, month and day with what follows; `skip` is applied before each of the two dashes. -/
def readCivil? (skip : List Char → List Char) (s : List Char) : Option (Civil × List Char) := do
  let (year, s) ← readYear? s
  let s ← expect? '-' (skip s)
  let (month, s) ← readPair? s
  let s ← expect? '-' (skip s)
  let (day, s) ← readPair? s
  return (⟨year, month, day⟩, s)

/-- Reads a date and nothing else. -/
def Date.read? (s : String) : Option Date := do
  let (civil, rest) ← readCivil? id s.toList
  if rest.isEmpty then Date.ofCivil? civil else none

/-- Reads a date with blanks before and after its parts. -/
def Date.readLoose? (s : String) : Option Date := do
  let (civil, rest) ← readCivil? Text.trimStart s.toList
  if (Text.trimStart rest).isEmpty then Date.ofCivil? civil else none

example : (Date.read? "2024-7-01").map Date.text = some "2024-07-01" ∧
    Date.read? "2024-07-01 " = none ∧ Date.read? "12024-07-01" = none := by decide +kernel

/-! ## Times -/

/-- Reads `HH:MM` and nothing else. -/
def ClockTime.read? (s : String) : Option ClockTime := do
  let (hour, s) ← readPair? s.toList
  let s ← expect? ':' s
  let (minute, s) ← readPair? s
  if s.isEmpty then ClockTime.ofHourMinute? hour minute else none

example : (ClockTime.read? "6:05").map ClockTime.shortText = some "06:05" ∧
    ClockTime.read? "24:00" = none := by decide +kernel

/-- Reads the fraction of a second in nanoseconds; digits beyond the ninth are dropped. -/
def readFraction? : List Char → Option (Nat × List Char)
  | '.' :: s =>
    let (ds, rest) := Number.takeDigits s
    if ds.isEmpty then none
    else some (valueOf (ds.take 9) * Number.tenTo (9 - (ds.take 9).length), rest)
  | s => some (0, s)

/-- Reads `YYYY-MM-DDTHH:MM:SS`, with or without a fraction, and nothing else. -/
def Moment.read? (s : String) : Option Moment := do
  let (civil, s) ← readCivil? id s.toList
  let date ← Date.ofCivil? civil
  let s ← expect? 'T' s
  let (hour, s) ← readPair? s
  let s ← expect? ':' s
  let (minute, s) ← readPair? s
  let s ← expect? ':' s
  let (second, s) ← readPair? s
  let (nano, s) ← readFraction? s
  let time ← ClockTime.ofParts? hour minute second nano
  if s.isEmpty then some ⟨date, time⟩ else none

example : (Moment.read? "2016-12-31T23:59:60.5").map Moment.text = some "2016-12-31T23:59:60" := by
  decide +kernel

end HeatingHub.Calendar

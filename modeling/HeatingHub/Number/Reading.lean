import HeatingHub.Number.Numeral
import HeatingHub.Text.Blank

/-!
# Decimal numbers as written

A number as people type it: a sign, digits with at most one point among or around them, and an
exponent. Its value is the double nearest to it.
-/

namespace HeatingHub.Number

/-- A number taken apart: its digits as one natural, and the power of ten they count. -/
structure Written where
  negative : Bool
  coefficient : Nat
  exponent : Int
deriving DecidableEq

/-! ## Grammar -/

/-- The sign at the head of a text, if there is one; true for minus. -/
def splitSign : List Char → Bool × List Char
  | '-' :: s => (true, s)
  | '+' :: s => (false, s)
  | s => (false, s)

/-- Reads the exponent that follows the digits: nothing, or a signed numeral behind an `e`. -/
def writtenExponent? : List Char → Option Int
  | [] => some 0
  | c :: s =>
    if c = 'e' ∨ c = 'E' then
      let (negative, ds) := splitSign s
      (natural? ds).map fun n => if negative then -(n : Int) else n
    else none

/-- The digits after the point, if there is one, and what follows them. -/
def splitFraction : List Char → List Char × List Char
  | '.' :: s => takeDigits s
  | s => ([], s)

/-- Reads a number; there must be a digit before or after the point. -/
def written? (s : List Char) : Option Written :=
  let (negative, s) := splitSign s
  let (whole, s) := takeDigits s
  let (fraction, s) := splitFraction s
  if whole.isEmpty && fraction.isEmpty then none
  else (writtenExponent? s).map fun e =>
    ⟨negative, valueOf (whole ++ fraction), e - fraction.length⟩

example : written? ['-', '2', '.', '5', 'e', '3'] = some ⟨true, 25, 2⟩ := by decide

example : written? ['.'] = none ∧ written? ['5', '.'] = some ⟨false, 5, 0⟩ := by decide

/-! ## Value -/

/-- The place of the leading digit: below `-330` the value rounds to zero, and above `310` it is
beyond the largest double. -/
def Written.order (w : Written) : Int := w.exponent + (digits w.coefficient).length

/-- The absolute value of a written number, rounded to the nearest double. -/
def Written.magnitude (w : Written) : Float :=
  if w.coefficient = 0 ∨ w.order < -330 then 0
  else if 310 < w.order then 1 / 0
  else Float.ofScientific w.coefficient (decide (w.exponent < 0)) w.exponent.natAbs

def Written.value (w : Written) : Float := if w.negative then -w.magnitude else w.magnitude

/-- Reads a finite number, with blanks around it. -/
def finite? (s : String) : Option Float :=
  ((written? (Text.trim s.toList)).map Written.value).filter Float.isFinite

example : finite? " 21.5 " = some 21.5 ∧ finite? "1e999" = none ∧ finite? "nan" = none := by
  decide +kernel

end HeatingHub.Number

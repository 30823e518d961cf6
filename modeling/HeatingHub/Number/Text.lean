import HeatingHub.Number.Shortest

/-!
# The text of a number

Three forms: the shortest decimal written out in full (`plain`), the same with a mark that the
number need not be whole (`literal`), and one decimal place (`oneDecimal`).
-/

namespace HeatingHub.Number

/-! ## Layout of a decimal -/

/-- Digits and point without an exponent; `tail` follows a number that has no fraction. -/
def Decimal.positional (d : Decimal) (tail : List Char) : List Char :=
  let ds := digits d.coefficient
  if 0 ≤ d.exponent then ds ++ List.replicate d.exponent.toNat '0' ++ tail
  else
    let places := (-d.exponent).toNat
    if places < ds.length then
      ds.take (ds.length - places) ++ '.' :: ds.drop (ds.length - places)
    else ['0', '.'] ++ List.replicate (places - ds.length) '0' ++ ds

/-- The exponent of the leading digit. -/
def Decimal.order (d : Decimal) : Int := d.exponent + (digits d.coefficient).length - 1

def integer (n : Int) : List Char :=
  if n < 0 then '-' :: digits n.natAbs else digits n.natAbs

/-- One digit before the point, and the exponent behind an `e`. -/
def Decimal.scientific (d : Decimal) : List Char :=
  match digits d.coefficient with
  | [] => []
  | c :: r => c :: (if r.isEmpty then [] else '.' :: r) ++ 'e' :: integer d.order

/-- Positional from the fourth place after the point to the sixteenth before it. -/
def Decimal.literal (d : Decimal) : List Char :=
  if d.coefficient = 0 ∨ (-4 ≤ d.order ∧ d.order < 16) then d.positional ['.', '0']
  else d.scientific

/-! ## Rounding to one place -/

/-- The integer nearest to a quotient; of two equally near the even one. -/
def roundQuotient (num den : Nat) : Nat :=
  let q := num / den
  match compare (2 * (num % den)) den with
  | .lt => q
  | .gt => q + 1
  | .eq => if q % 2 = 0 then q else q + 1

/-- The exact value rounded to one place after the point. -/
def Magnitude.oneDecimal (x : Magnitude) : List Char :=
  let tenths := roundQuotient (10 * x.num) x.den
  digits (tenths / 10) ++ '.' :: digits (tenths % 10)

/-! ## The forms of a double -/

/-- Puts sign and special values around the text of a magnitude. -/
def Double.text (show? : Magnitude → List Char) : Double → String
  | .nan => "NaN"
  | .infinite negative => if negative then "-inf" else "inf"
  | .finite negative m => String.ofList ((if negative then ['-'] else []) ++ show? m)

/-- The fewest digits that read back, without exponent and without a fraction of zero. -/
def plain (x : Float) : String := (Double.of x).text fun m => m.shortest.positional []

/-- The fewest digits that read back, with a fraction or an exponent. -/
def literal (x : Float) : String := (Double.of x).text fun m => m.shortest.literal

/-- One place after the point; a tie of the exact value goes to the even digit. -/
def oneDecimal (x : Float) : String := (Double.of x).text Magnitude.oneDecimal

example : plain 21.5 = "21.5" ∧ plain 1e21 = "1000000000000000000000" ∧ plain 1e-7 = "0.0000001" := by
  decide +kernel

example : literal 12 = "12.0" ∧ literal 1e16 = "1e16" ∧ literal 5e-324 = "5e-324" := by
  decide +kernel

example : oneDecimal 0.25 = "0.2" ∧ oneDecimal 0.35 = "0.3" ∧ oneDecimal (-0.0) = "-0.0" := by
  decide +kernel

end HeatingHub.Number

import HeatingHub.Number.Double
import HeatingHub.Number.Numeral

/-!
# The shortest decimal of a double

Of the decimals that round to a given double, `Magnitude.shortest` takes one with the fewest
digits, and of several the one nearest to the double; of two equally near the larger.
-/

namespace HeatingHub.Number

/-- `coefficient * 10 ^ exponent`. -/
structure Decimal where
  coefficient : Nat
  exponent : Int
deriving DecidableEq

namespace Magnitude

/-- Compares a decimal with `n` quarters of the unit in the last place. -/
def compareQuarters (x : Magnitude) (d : Decimal) (n : Nat) : Ordering :=
  let e := x.exponent - 2
  compare (d.coefficient * tenTo d.exponent.toNat * twoTo (-e).toNat)
    (n * twoTo e.toNat * tenTo (-d.exponent).toNat)

/-- The decimal rounds to the double: it lies between the midpoints to the neighbours, which count
when the mantissa is even. -/
def admits (x : Magnitude) (d : Decimal) : Bool :=
  let below := x.compareQuarters d (4 * x.mantissa - if x.lopsided then 1 else 2)
  let above := x.compareQuarters d (4 * x.mantissa + 2)
  let even := x.mantissa % 2 == 0
  (below == .gt || (even && below == .eq)) && (above == .lt || (even && above == .eq))

/-- The place of the leading digit: `10 ^ (scale - 1) ≤ x < 10 ^ scale` unless `x` is zero. -/
def scale (x : Magnitude) : Int :=
  if x.den ≤ x.num then ((digits (x.num / x.den)).length : Int)
  else 1 - ((digits ((x.den - 1) / x.num)).length : Int)

/-- The multiple of `10 ^ e` next below the double, or the double itself. -/
def floorAt (x : Magnitude) (e : Int) : Nat :=
  x.num * tenTo (-e).toNat / (x.den * tenTo e.toNat)

/-- The double is nearer to the multiple `a` of `10 ^ e` than to the next. -/
def nearerBelow (x : Magnitude) (a : Nat) (e : Int) : Bool :=
  decide (2 * x.num * tenTo (-e).toNat < (2 * a + 1) * x.den * tenTo e.toNat)

/-- A decimal of `n` digits that rounds to the double. -/
def withDigits? (x : Magnitude) (n : Nat) : Option Decimal :=
  let e := x.scale - n
  let a := x.floorAt e
  let low : Decimal := ⟨a, e⟩
  let high : Decimal := if a + 1 = tenTo n then ⟨1, x.scale⟩ else ⟨a + 1, e⟩
  if x.admits low then
    if x.admits high && !x.nearerBelow a e then some high else some low
  else if x.admits high then some high else none

/-- The double written out in full. -/
def exact (x : Magnitude) : Decimal :=
  if 0 ≤ x.exponent then ⟨x.num, 0⟩ else ⟨x.mantissa * Nat.pow 5 (-x.exponent).toNat, x.exponent⟩

/-- Seventeen digits always suffice. -/
def shortest (x : Magnitude) : Decimal :=
  if x.mantissa = 0 then ⟨0, 0⟩
  else ((List.range' 1 17).findSome? x.withDigits?).getD x.exact

end Magnitude

end HeatingHub.Number

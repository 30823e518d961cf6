import HeatingHub.Number.Power

/-!
# Doubles, exactly

A finite double is an integer times a power of two. The text of a number is computed from these
integers, so that no digit depends on a rounding of its own.
-/

namespace HeatingHub.Number

/-- The absolute value of a finite double, `mantissa * 2 ^ exponent`. -/
structure Magnitude where
  mantissa : Nat
  exponent : Int
  /-- The next double below is half as far away as the next one above. -/
  lopsided : Bool
deriving DecidableEq

/-- What a double stands for. -/
inductive Double where
  | nan
  | infinite (negative : Bool)
  | finite (negative : Bool) (magnitude : Magnitude)
deriving DecidableEq

/-- The magnitude with the given exponent field and fraction field. -/
def Magnitude.ofFields (exponent fraction : Nat) : Magnitude :=
  if exponent = 0 then ⟨fraction, -1074, false⟩
  else ⟨twoTo 52 + fraction, (exponent : Int) - 1075, fraction = 0 ∧ 1 < exponent⟩

def Double.of (x : Float) : Double :=
  let bits := x.toBits.toNat
  let negative := decide (twoTo 63 ≤ bits)
  let exponent := bits / twoTo 52 % twoTo 11
  let fraction := bits % twoTo 52
  if exponent = 2047 then if fraction = 0 then .infinite negative else .nan
  else .finite negative (.ofFields exponent fraction)

example : Double.of 1.0 = .finite false ⟨twoTo 52, -52, true⟩ := by decide +kernel

/-! ## As a quotient of naturals -/

def Magnitude.num (x : Magnitude) : Nat := x.mantissa * twoTo x.exponent.toNat

def Magnitude.den (x : Magnitude) : Nat := twoTo (-x.exponent).toNat

end HeatingHub.Number

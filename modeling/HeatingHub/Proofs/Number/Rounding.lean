import HeatingHub.Number.Text
import Mathlib

/-!
# Quotients rounded to doubles

Arithmetic on doubles computes an integer part and what is lost of a quotient, and shifts both until
53 bits are left. Followed through the shifts, what is lost stays that of the quotient
(`shiftRight_quotientMantissa`), so the result is the double that has the quotient in its rounding
interval (`roundWithAccuracy_near`).
-/

namespace HeatingHub.Number

open Float.Model Float.Model.UnpackedFloat

/-! ## What is lost of a quotient -/

/-- The integer part of a quotient, and whether the rest is at least a half, and strictly between
the ends of its half. -/
def quotientMantissa (a b : Nat) : ExtendedMantissa :=
  ⟨a / b, decide (b ≤ 2 * (a % b)), decide (a % b ≠ 0 ∧ 2 * (a % b) ≠ b)⟩

theorem ofMantissaAndAccuracy_quotient {a b : Nat} (hb : 0 < b) :
    ExtendedMantissa.ofMantissaAndAccuracy (a / b) (accuracyOfFraction (a % b) b) =
      quotientMantissa a b := by
  unfold accuracyOfFraction quotientMantissa
  split
  case isTrue exact =>
    simp [ExtendedMantissa.ofMantissaAndAccuracy, exact]
    omega
  case isFalse rest =>
    rcases Nat.lt_trichotomy (2 * (a % b)) b with less | half | more
    · rw [Nat.compare_eq_lt.2 less]
      simp [ExtendedMantissa.ofMantissaAndAccuracy]
      omega
    · rw [Nat.compare_eq_eq.2 half]
      simp [ExtendedMantissa.ofMantissaAndAccuracy]
      omega
    · rw [Nat.compare_eq_gt.2 more]
      simp [ExtendedMantissa.ofMantissaAndAccuracy]
      omega

theorem shiftRightOne_quotientMantissa {a b : Nat} (hb : 0 < b) :
    (quotientMantissa a b).shiftRightOne = quotientMantissa a (b * 2) := by
  have rest : a % (b * 2) = a % b + b * (a / b % 2) := Nat.mod_mul
  have less := Nat.mod_lt a hb
  have whole : a / b / 2 = a / (b * 2) := Nat.div_div_eq_div_mul ..
  unfold quotientMantissa ExtendedMantissa.shiftRightOne
  dsimp only
  rw [rest, whole]
  -- the last bit of the integer part is the first of what is lost now
  rcases Nat.mod_two_eq_zero_or_one (a / b) with even | odd
  · simp only [even, ExtendedMantissa.mk.injEq, true_and]
    constructor
    · simp
      omega
    · rw [← Bool.decide_or, decide_eq_decide]
      omega
  · simp only [odd, ExtendedMantissa.mk.injEq, true_and]
    constructor
    · simp
      omega
    · rw [← Bool.decide_or, decide_eq_decide]
      omega

theorem shiftRight_quotientMantissa {a b : Nat} (hb : 0 < b) (n : Nat) :
    quotientMantissa a b >>> n = quotientMantissa a (b * 2 ^ n) := by
  induction n with
  | zero => rw [Nat.pow_zero, Nat.mul_one]; rfl
  | succ n ih =>
    show (quotientMantissa a b >>> n).shiftRightOne = _
    rw [ih, shiftRightOne_quotientMantissa (by positivity), Nat.mul_assoc, Nat.pow_succ]

theorem roundedMantissa_quotient (a b : Nat) (hb : 0 < b) :
    (quotientMantissa a b).roundedMantissa = roundQuotient a b := by
  have less := Nat.mod_lt a hb
  unfold quotientMantissa roundQuotient ExtendedMantissa.roundedMantissa
  dsimp only
  rcases Nat.lt_trichotomy (2 * (a % b)) b with below | half | above
  · rw [Nat.compare_eq_lt.2 below, decide_eq_false (by omega)]
    by_cases exact : a % b = 0
    · rw [decide_eq_false (by omega)]
      rfl
    · rw [decide_eq_true (by omega)]
      rfl
  · rw [Nat.compare_eq_eq.2 half, decide_eq_true (by omega), decide_eq_false (by omega)]
    show a / b + a / b % 2 = if a / b % 2 = 0 then a / b else a / b + 1
    split <;> omega
  · rw [Nat.compare_eq_gt.2 above, decide_eq_true (by omega), decide_eq_true (by omega)]
    rfl

/-- A quotient is rounded to the integer that it is less than a half away from, or to the even one
of two that it is a half away from. -/
theorem roundQuotient_eq {a b m : Nat} (hb : 0 < b) (lower : 2 * (m * b) ≤ 2 * a + b)
    (upper : 2 * a ≤ 2 * (m * b) + b)
    (tie : 2 * (m * b) = 2 * a + b ∨ 2 * a = 2 * (m * b) + b → m % 2 = 0) :
    roundQuotient a b = m := by
  have parts : a / b * b + a % b = a := Nat.div_add_mod' a b
  have less := Nat.mod_lt a hb
  have fits : a / b = m ∨ a / b + 1 = m := by
    rcases Nat.lt_trichotomy (a / b) m with below | same | above
    · by_cases next : a / b + 1 = m
      · exact .inr next
      · have far := Nat.mul_le_mul_right b (show a / b + 2 ≤ m by omega)
        rw [Nat.add_mul] at far
        omega
    · exact .inl same
    · have far := Nat.mul_le_mul_right b (show m + 1 ≤ a / b from above)
      rw [Nat.add_mul] at far
      omega
  unfold roundQuotient
  dsimp only
  rcases Nat.lt_trichotomy (2 * (a % b)) b with small | half | large
  · rw [Nat.compare_eq_lt.2 small]
    rcases fits with same | next
    · exact same
    · rw [← next, Nat.add_mul] at lower
      omega
  · rw [Nat.compare_eq_eq.2 half]
    show (if a / b % 2 = 0 then a / b else a / b + 1) = m
    rcases fits with same | next
    · rw [same] at parts ⊢
      rw [if_pos (tie (by omega))]
    · have even : m % 2 = 0 := tie (by rw [← next, Nat.add_mul]; omega)
      rw [if_neg (by omega), next]
  · rw [Nat.compare_eq_gt.2 large]
    rcases fits with same | next
    · rw [← same] at upper
      omega
    · exact next

/-! ## Rounding to 53 bits -/

section Round

variable {a b s j m : Nat} {e : Int} {sign : Sign}

theorem shiftToTargetExponent_quotient (hb : 0 < b) (bits : (a / b).log2 = 52 + s)
    (low : -1074 ≤ e + s) :
    shiftToTargetExponent Format.binary64 (a / b) e (accuracyOfFraction (a % b) b) =
      (quotientMantissa a (b * 2 ^ s), e + s) := by
  have target : Format.binary64.targetExponent (totalExponent (a / b) e) = e + s := by
    simp only [Format.targetExponent, totalExponent, Format.mantissaBits, Format.minExponent, bits]
    omega
  unfold shiftToTargetExponent shiftToExponent
  dsimp only
  rw [target, ofMantissaAndAccuracy_quotient hb, show (e + s - e).toNat = s by omega,
    shiftRight_quotientMantissa hb]

theorem roundWithAccuracy_quotient (hb : 0 < b) (bits : (a / b).log2 = 52 + s)
    (low : -1074 ≤ e + s) (rounded : (roundQuotient a (b * 2 ^ s)).log2 = 52 + j)
    (pos : 0 < roundQuotient a (b * 2 ^ s) / 2 ^ j) :
    roundWithAccuracy Format.binary64 sign (a / b) e (accuracyOfFraction (a % b) b) =
      .finite sign (roundQuotient a (b * 2 ^ s) / 2 ^ j) (e + s + j) pos := by
  have again := shiftToTargetExponent_quotient (a := roundQuotient a (b * 2 ^ s)) (b := 1)
    (e := e + s) (s := j) Nat.one_pos (by rwa [Nat.div_one]) (by omega)
  rw [Nat.div_one, Nat.mod_one, Nat.one_mul, show accuracyOfFraction 0 1 = .exact from rfl] at again
  unfold roundWithAccuracy
  rw [shiftToTargetExponent_quotient hb bits low]
  dsimp only
  rw [roundedMantissa_quotient _ _ (by positivity), again]
  exact dif_neg pos.ne'

/-- The number lies in the rounding interval of the double `m * 2 ^ e`. Below a power of two doubles
are twice as dense. -/
structure Near (m : Nat) (e : Int) (v : Rat) : Prop where
  lower : (4 * m - if m = 2 ^ 52 then 1 else 2) * 2 ^ (e - 2) ≤ v
  upper : v ≤ (4 * m + 2) * 2 ^ (e - 2)
  tie : v = (4 * m - 2) * 2 ^ (e - 2) ∨ v = (4 * m + 2) * 2 ^ (e - 2) → m % 2 = 0

theorem two_zpow_pos (e : Int) : (0 : Rat) < 2 ^ e := zpow_pos (by norm_num) e

theorem Near.least {m : Nat} {e : Int} {v : Rat} (near : Near m e v) (lower : 2 ^ 52 ≤ m) :
    (2 : Rat) ^ (51 + e) < v := by
  have lower' : (2 ^ 52 : Rat) ≤ m := by exact_mod_cast lower
  refine lt_of_lt_of_le ?_ near.lower
  rw [show 51 + e = 53 + (e - 2) by ring, zpow_add₀ two_ne_zero, zpow_ofNat]
  refine mul_lt_mul_of_pos_right ?_ (two_zpow_pos _)
  split <;> linarith

theorem Near.greatest {m : Nat} {e : Int} {v : Rat} (near : Near m e v) (upper : m < 2 ^ 53) :
    v < (2 : Rat) ^ (53 + e) := by
  have upper' : (m + 1 : Rat) ≤ 2 ^ 53 := by exact_mod_cast upper
  refine lt_of_le_of_lt near.upper ?_
  rw [show 53 + e = 55 + (e - 2) by ring, zpow_add₀ two_ne_zero, zpow_ofNat]
  refine mul_lt_mul_of_pos_right ?_ (two_zpow_pos _)
  linarith

/-- The leading bit of a quotient. -/
theorem bits_quotient (hb : 0 < b) (bits : (a / b).log2 = 52 + s) :
    (2 : Rat) ^ ((52 + s : Int) + e) ≤ a / b * 2 ^ e ∧
      (a : Rat) / b * 2 ^ e < 2 ^ ((53 + s : Int) + e) := by
  have positive : a / b ≠ 0 := by
    intro zero
    rw [zero, Nat.log2_zero] at bits
    omega
  obtain ⟨lower, upper⟩ := (Nat.log2_eq_iff positive).1 bits
  rw [Nat.le_div_iff_mul_le hb] at lower
  rw [Nat.div_lt_iff_lt_mul hb] at upper
  have hb' : (0 : Rat) < b := Nat.cast_pos.2 hb
  have lower' : (2 : Rat) ^ (52 + s) * b ≤ a := by exact_mod_cast lower
  have upper' : (a : Rat) < 2 ^ (53 + s) * b := by
    have : (a : Rat) < 2 ^ (52 + s + 1) * b := by exact_mod_cast upper
    rwa [show 53 + s = 52 + s + 1 by omega]
  rw [zpow_add₀ two_ne_zero, zpow_add₀ two_ne_zero (53 + s : Int)]
  constructor
  · refine mul_le_mul_of_nonneg_right ?_ (two_zpow_pos e).le
    rw [le_div_iff₀ hb']
    exact_mod_cast lower'
  · refine mul_lt_mul_of_pos_right ?_ (two_zpow_pos e)
    rw [div_lt_iff₀ hb']
    exact_mod_cast upper'

theorem quotient_quarters (a b s : Nat) (e : Int) :
    (a : Rat) / b * 2 ^ e = 4 * a / (b * 2 ^ s : Nat) * 2 ^ (e + s - 2) := by
  have scale : (2 : Rat) ^ (e + s - 2) = 2 ^ e * 2 ^ s / 4 := by
    rw [zpow_sub₀ two_ne_zero, zpow_add₀ two_ne_zero, zpow_natCast]
    norm_num
  rw [scale]
  push_cast
  field_simp

theorem roundQuotient_near {B : Nat} (hB : 0 < B)
    (lower : (4 * m - 2 : Rat) ≤ 4 * a / B) (upper : 4 * a / B ≤ (4 * m + 2 : Rat))
    (tie : (4 * a / B : Rat) = 4 * m - 2 ∨ (4 * a / B : Rat) = 4 * m + 2 → m % 2 = 0) :
    roundQuotient a B = m := by
  have hB' : (0 : Rat) < B := Nat.cast_pos.2 hB
  rw [le_div_iff₀ hB'] at lower
  rw [div_le_iff₀ hB'] at upper
  rw [div_eq_iff hB'.ne', div_eq_iff hB'.ne'] at tie
  refine roundQuotient_eq hB ?_ ?_ fun half => tie ?_
  · have : (2 * (m * B) : Rat) ≤ 2 * a + B := by linarith
    exact_mod_cast this
  · have : (2 * a : Rat) ≤ 2 * (m * B) + B := by linarith
    exact_mod_cast this
  · refine half.imp (fun below => ?_) fun above => ?_
    · have : (2 * (m * B) : Rat) = 2 * a + B := by exact_mod_cast below
      linarith
    · have : (2 * a : Rat) = 2 * (m * B) + B := by exact_mod_cast above
      linarith

theorem finite_congr {m' : Nat} {e' : Int} {pos : 0 < m} {pos' : 0 < m'} (hm : m = m')
    (he : e = e') : UnpackedFloat.finite sign m e pos = .finite sign m' e' pos' := by
  subst hm he
  rfl

/-- A quotient of 53 bits in front of the point is rounded to the number around it. -/
theorem rounded_of_near (hb : 0 < b) (near : Near m (e + s) (a / b * 2 ^ e)) :
    roundQuotient a (b * 2 ^ s) = m := by
  have hE := two_zpow_pos (e + s - 2)
  rw [quotient_quarters a b s e] at near
  refine roundQuotient_near (by positivity) ?_ (le_of_mul_le_mul_right near.upper hE)
    fun half => near.tie ?_
  · refine le_trans ?_ (le_of_mul_le_mul_right near.lower hE)
    split <;> linarith
  · exact half.imp (fun h => by rw [h]) fun h => by rw [h]

/-- Below a power of two the quotient has one more bit, and is rounded up to that power. -/
theorem rounded_of_near_power (hb : 0 < b) (lower : 2 ^ 52 ≤ m)
    (near : Near m (e + s + 1) (a / b * 2 ^ e))
    (below : (a : Rat) / b * 2 ^ e < 2 ^ ((53 + s : Int) + e)) :
    m = 2 ^ 52 ∧ roundQuotient a (b * 2 ^ s) = 2 ^ 53 := by
  have hE := two_zpow_pos (e + s - 2)
  have half : (2 : Rat) ^ (e + s + 1 - 2) = 2 * 2 ^ (e + s - 2) := by
    rw [show e + s + 1 - 2 = 1 + (e + s - 2) by ring, zpow_add₀ two_ne_zero, zpow_one]
  rw [quotient_quarters a b s e] at near below
  have quarters : (4 * a / (b * 2 ^ s : Nat) : Rat) < 2 ^ 55 := by
    rw [show 53 + s + e = 55 + (e + s - 2) by ring, zpow_add₀ two_ne_zero, zpow_ofNat] at below
    exact lt_of_mul_lt_mul_right below hE.le
  have nearly : (4 * m - if m = 2 ^ 52 then 1 else 2 : Rat) * 2 ≤ 4 * a / (b * 2 ^ s : Nat) := by
    have := near.lower
    rw [half, ← mul_assoc] at this
    exact le_of_mul_le_mul_right this hE
  have power : m = 2 ^ 52 := by
    by_contra other
    rw [if_neg other] at nearly
    have : (2 ^ 52 + 1 : Rat) ≤ m := by exact_mod_cast Nat.lt_of_le_of_ne lower (Ne.symm other)
    linarith
  rw [if_pos power, power] at nearly
  refine ⟨power, roundQuotient_near (by positivity) ?_ ?_ fun _ => rfl⟩
  · push_cast at nearly ⊢
    linarith
  · push_cast at quarters ⊢
    linarith

/-- A quotient is rounded to the double in whose rounding interval it lies. -/
theorem roundWithAccuracy_near {E : Int} (hb : 0 < b) (bits : 52 ≤ (a / b).log2)
    (lower : 2 ^ 52 ≤ m) (upper : m < 2 ^ 53) (low : -1074 < E)
    (near : Near m E (a / b * 2 ^ e)) (pos : 0 < m) :
    roundWithAccuracy Format.binary64 sign (a / b) e (accuracyOfFraction (a % b) b) =
      .finite sign m E pos := by
  obtain ⟨s, bits⟩ := Nat.exists_eq_add_of_le bits
  obtain ⟨above, below⟩ := bits_quotient (e := e) hb bits
  have one : (1 : Rat) < 2 := one_lt_two
  have notLess : 52 + s + e < 53 + E :=
    (zpow_lt_zpow_iff_right₀ one).1 (above.trans_lt (near.greatest upper))
  have notMore : 51 + E < 53 + s + e :=
    (zpow_lt_zpow_iff_right₀ one).1 ((near.least lower).trans below)
  obtain rfl | rfl : E = e + s ∨ E = e + s + 1 := by omega
  · have rounded := rounded_of_near hb near
    have log : (roundQuotient a (b * 2 ^ s)).log2 = 52 + 0 := by
      rw [rounded]
      exact (Nat.log2_eq_iff pos.ne').2 ⟨lower, upper⟩
    rw [roundWithAccuracy_quotient hb bits low.le log (by rwa [rounded, Nat.pow_zero, Nat.div_one])]
    exact finite_congr (by rw [rounded, Nat.pow_zero, Nat.div_one]) (by simp)
  · obtain ⟨power, rounded⟩ := rounded_of_near_power hb lower near below
    have log : (roundQuotient a (b * 2 ^ s)).log2 = 52 + 1 := by
      rw [rounded]
      exact Nat.log2_two_pow
    rw [roundWithAccuracy_quotient hb bits (by omega) log (by rw [rounded]; decide)]
    exact finite_congr (by rw [rounded, power]; rfl) rfl

end Round

end HeatingHub.Number

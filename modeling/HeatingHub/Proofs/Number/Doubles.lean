import HeatingHub.Json.Reading
import HeatingHub.Proofs.Number.Rounding

/-!
# Doubles of numbers

A double of 53 bits is known by its magnitude (`eq_pack_of_double`). Natural numbers below `2 ^ 53`
are doubles exactly, and a quotient of two doubles is the double in whose rounding interval the
exact quotient lies (`div_near`).
-/

namespace HeatingHub.Number

open Float.Model Float.Model.UnpackedFloat

/-! ## Bits -/

section Pack

variable {m : Nat} {e : Int} {pos : 0 < m}

theorem pack_eq (lower : 2 ^ 52 ≤ m) (upper : m < 2 ^ 53) (high : e ≤ 971) :
    UnpackedFloat.pack Format.binary64 (.finite .positive m e pos) =
      packComponents Format.binary64 .positive (BitVec.ofNat 11 (e + 1075).toNat)
        (BitVec.ofNat 52 m) := by
  have log : m.log2 = 52 := (Nat.log2_eq_iff pos.ne').2 ⟨lower, upper⟩
  have biased : e + Format.binary64.exponentBias + Format.binary64.mantissaBitsWithoutImplicit =
      e + 1075 := by
    simp [Format.exponentBias]
    omega
  unfold UnpackedFloat.pack
  dsimp only
  rw [biased, if_neg (by simp; omega), if_pos (by rw [log]; rfl)]

theorem toNat_packComponents (exponent : BitVec 11) (mantissa : BitVec 52) :
    (packComponents Format.binary64 .positive exponent mantissa).toNat =
      exponent.toNat * 2 ^ 52 + mantissa.toNat := by
  unfold packComponents
  rw [BitVec.toNat_append, ← Nat.shiftLeft_add_eq_or_of_lt mantissa.isLt, BitVec.toNat_append,
    Nat.shiftLeft_eq]
  simp [Sign.toBitVec]

theorem unpackSign_packComponents (exponent : BitVec 11) (mantissa : BitVec 52) :
    unpackSign (packComponents Format.binary64 .positive exponent mantissa) = 0#1 := by
  have small : (packComponents Format.binary64 .positive exponent mantissa).toNat < 2 ^ 63 := by
    rw [toNat_packComponents]
    omega
  apply BitVec.eq_of_toNat_eq
  simp [unpackSign, BitVec.extractLsb_toNat, Nat.shiftRight_eq_div_pow]
  omega

theorem unpack_pack (lower : 2 ^ 52 ≤ m) (upper : m < 2 ^ 53) (low : -1074 ≤ e) (high : e ≤ 971) :
    (Float.Model.pack (.finite .positive m e pos)).unpack = .finite .positive m e pos := by
  have exponent : (BitVec.ofNat 11 (e + 1075).toNat).toNat = (e + 1075).toNat := by
    rw [BitVec.toNat_ofNat, Nat.mod_eq_of_lt (by omega)]
  have finite : BitVec.ofNat 11 (e + 1075).toNat ≠ -1#11 := by
    intro same
    have := congrArg BitVec.toNat same
    rw [exponent] at this
    simp at this
    omega
  have normal : BitVec.ofNat 11 (e + 1075).toNat ≠ 0#11 := by
    intro same
    have := congrArg BitVec.toNat same
    rw [exponent] at this
    simp at this
    omega
  have mantissa : (1#1 ++ BitVec.ofNat 52 m).toNat = m := by
    rw [BitVec.toNat_append, ← Nat.shiftLeft_add_eq_or_of_lt (BitVec.isLt _), BitVec.toNat_ofNat]
    simp
    omega
  unfold Float.Model.unpack Float.Model.pack UnpackedFloat.unpack
  simp only [pack_eq lower upper high, unpackExponent_packComponents,
    unpackMantissa_packComponents, unpackSign_packComponents]
  rw [if_neg finite, if_neg normal]
  refine finite_congr mantissa ?_
  rw [exponent]
  simp [Format.exponentBias]
  omega

/-- What the bits of a normal double are. -/
theorem bits_of_double {x : Float} {l : Bool} (hx : Double.of x = .finite false ⟨m, e, l⟩)
    (lower : 2 ^ 52 ≤ m) :
    m < 2 ^ 53 ∧ -1074 ≤ e ∧ e ≤ 971 ∧ (l = true ↔ m = 2 ^ 52 ∧ -1074 < e) ∧
      x.toBits.toNat = (e + 1075).toNat * 2 ^ 52 + m % 2 ^ 52 := by
  have word := x.toBits.toNat_lt
  unfold Double.of at hx
  dsimp only at hx
  simp only [show twoTo 63 = 2 ^ 63 from rfl, show twoTo 52 = 2 ^ 52 from rfl,
    show twoTo 11 = 2 ^ 11 from rfl] at hx
  generalize x.toBits.toNat = bits at *
  split at hx
  · split at hx <;> cases hx
  · obtain ⟨sign, magnitude⟩ := Double.finite.inj hx
    have positive := of_decide_eq_false sign
    unfold Magnitude.ofFields at magnitude
    split at magnitude <;> obtain ⟨rfl, rfl, rfl⟩ := Magnitude.mk.inj magnitude
    · omega
    · simp only [show twoTo 52 = 2 ^ 52 from rfl] at *
      refine ⟨by omega, by omega, by omega, ?_, by omega⟩
      rw [decide_eq_true_iff]
      omega

theorem toNat_unpackExponent (b : BitVec Format.binary64.numBits) :
    (@unpackExponent Format.binary64 b).toNat = b.toNat / 2 ^ 52 % 2 ^ 11 := by
  simp [unpackExponent, BitVec.extractLsb_toNat, Nat.shiftRight_eq_div_pow]

/-- A finite double has a magnitude. -/
theorem finite_of_isFinite {x : Float} (finite : x.isFinite = true) :
    ∃ negative m, Double.of x = .finite negative m := by
  have small : x.toBits.toNat / twoTo 52 % twoTo 11 ≠ 2047 := by
    intro full
    have exponent : @unpackExponent Format.binary64 x.toBits.toBitVec = -1#11 :=
      BitVec.eq_of_toNat_eq ((toNat_unpackExponent _).trans full)
    change (UnpackedFloat.unpack Format.binary64 x.toBits.toBitVec).isFinite = true at finite
    unfold UnpackedFloat.unpack at finite
    dsimp only at finite
    rw [if_pos exponent] at finite
    split at finite <;> exact absurd finite Bool.false_ne_true
  unfold Double.of
  exact ⟨_, _, if_neg small⟩

theorem toNat_unpackMantissa (b : BitVec Format.binary64.numBits) :
    (@unpackMantissa Format.binary64 b).toNat = b.toNat % 2 ^ 52 := by
  simp [unpackMantissa, BitVec.extractLsb_toNat]

theorem toNat_unpackSign (b : BitVec Format.binary64.numBits) :
    (@unpackSign Format.binary64 b).toNat = b.toNat / 2 ^ 63 % 2 := by
  simp [unpackSign, BitVec.extractLsb_toNat, Nat.shiftRight_eq_div_pow]

/-- What is unpacked from the bits of a positive normal double. -/
theorem bits_of_unpack {x : Float} (unpacked : x.toModel.unpack = .finite .positive m e pos)
    (normal : -1074 < e) : x.toBits.toNat / 2 ^ 63 % 2 = 0 ∧
      x.toBits.toNat / 2 ^ 52 % 2 ^ 11 ≠ 2047 ∧
      (x.toBits.toNat / 2 ^ 52 % 2 ^ 11 : Nat) - 1075 = e ∧
      2 ^ 52 + x.toBits.toNat % 2 ^ 52 = m := by
  change UnpackedFloat.unpack Format.binary64 x.toBits.toBitVec = _ at unpacked
  have sign : (@unpackSign Format.binary64 x.toBits.toBitVec).toNat = _ := toNat_unpackSign _
  have exponent : (@unpackExponent Format.binary64 x.toBits.toBitVec).toNat = _ :=
    toNat_unpackExponent _
  have mantissa : (@unpackMantissa Format.binary64 x.toBits.toBitVec).toNat = _ :=
    toNat_unpackMantissa _
  rw [show x.toBits.toBitVec.toNat = x.toBits.toNat from rfl] at sign exponent mantissa
  have biased : ((Format.binary64.exponentBias : Nat) : Int) +
    (Format.binary64.mantissaBitsWithoutImplicit : Nat) = 1075 := rfl
  unfold UnpackedFloat.unpack at unpacked
  dsimp only at unpacked
  rw [biased] at unpacked
  split at unpacked
  case isTrue => split at unpacked <;> cases unpacked
  case isFalse finite =>
    split at unpacked
    case isTrue least =>
      split at unpacked
      · cases unpacked
      · obtain ⟨-, -, h⟩ := UnpackedFloat.finite.inj unpacked
        rw [least] at h
        simp at h
        omega
    case isFalse =>
      obtain ⟨hs, hm, he⟩ := UnpackedFloat.finite.inj unpacked
      refine ⟨?_, ?_, ?_, ?_⟩
      · rw [← sign]
        unfold Sign.ofBitVec at hs
        split at hs
        case isTrue zero => exact congrArg BitVec.toNat zero
        case isFalse => cases hs
      · rw [← exponent]
        exact fun full => finite (BitVec.eq_of_toNat_eq full)
      · rw [← exponent, he]
      · rw [← mantissa, ← hm, BitVec.toNat_append, ← Nat.shiftLeft_add_eq_or_of_lt (BitVec.isLt _)]
        rfl

/-- A positive normal double has the magnitude that is unpacked from it. -/
theorem double_of_unpack {x : Float} (unpacked : x.toModel.unpack = .finite .positive m e pos)
    (normal : -1074 < e) : 2 ^ 52 ≤ m ∧ ∃ l, Double.of x = .finite false ⟨m, e, l⟩ := by
  have word := x.toBits.toNat_lt
  obtain ⟨sign, small, exponent, mantissa⟩ := bits_of_unpack unpacked normal
  refine ⟨by omega, decide (x.toBits.toNat % 2 ^ 52 = 0 ∧ 1 < x.toBits.toNat / 2 ^ 52 % 2 ^ 11), ?_⟩
  unfold Double.of
  simp only [show twoTo 63 = 2 ^ 63 from rfl, show twoTo 52 = 2 ^ 52 from rfl,
    show twoTo 11 = 2 ^ 11 from rfl]
  rw [if_neg small, decide_eq_false (by omega)]
  unfold Magnitude.ofFields
  rw [if_neg (by omega), ← exponent, ← mantissa]
  rfl

/-- A normal double is known by its magnitude. -/
theorem eq_pack_of_double {x : Float} {l : Bool} (hx : Double.of x = .finite false ⟨m, e, l⟩)
    (lower : 2 ^ 52 ≤ m) (pos : 0 < m) : x = .ofModel (.pack (.finite .positive m e pos)) := by
  obtain ⟨upper, _, high, _, bits⟩ := bits_of_double hx lower
  obtain ⟨⟨word, valid⟩⟩ := x
  congr 1
  unfold Float.Model.pack
  congr 1
  apply UInt64.toNat_inj.1
  rw [pack_eq lower upper high]
  refine bits.trans (Eq.trans ?_ (toNat_packComponents _ _).symm)
  rw [BitVec.toNat_ofNat, BitVec.toNat_ofNat,
    Nat.mod_eq_of_lt (by omega : (e + 1075).toNat < 2 ^ 11)]

end Pack

/-! ## Doubles that are a number exactly -/

/-- The double is the number, has 53 bits and is none of the smallest doubles. -/
def Exactly (x : Float) (v : Rat) : Prop :=
  ∃ m e pos, x.toModel.unpack = .finite .positive m e pos ∧ 2 ^ 52 ≤ m ∧ m < 2 ^ 53 ∧
    -1074 < e ∧ e ≤ 971 ∧ (m : Rat) * 2 ^ e = v

theorem near_self {m : Nat} {e : Int} : Near m e (m * 2 ^ e) := by
  have scale : (2 : Rat) ^ e = 4 * 2 ^ (e - 2) := by
    rw [zpow_sub₀ two_ne_zero, zpow_ofNat]
    ring
  have he := two_zpow_pos (e - 2)
  rw [scale]
  refine ⟨?_, ?_, ?_⟩
  · split <;> nlinarith
  · nlinarith
  · rintro (same | same) <;> nlinarith

theorem roundWithAccuracy_exact {a m : Nat} {e E : Int} {sign : Sign} (bits : 52 ≤ a.log2)
    (lower : 2 ^ 52 ≤ m) (upper : m < 2 ^ 53) (low : -1074 < E)
    (same : (a : Rat) * 2 ^ e = m * 2 ^ E) (pos : 0 < m) :
    roundWithAccuracy Format.binary64 sign a e .exact = .finite sign m E pos := by
  have near : Near m E ((a : Rat) / (1 : Nat) * 2 ^ e) := by
    rw [Nat.cast_one, div_one, same]
    exact near_self
  have rounded :
      roundWithAccuracy Format.binary64 sign (a / 1) e (accuracyOfFraction (a % 1) 1) = _ :=
    roundWithAccuracy_near Nat.one_pos (by rwa [Nat.div_one]) lower upper low near pos
  rwa [Nat.div_one, Nat.mod_one] at rounded

theorem exactly_pack {m : Nat} {e : Int} {pos : 0 < m} (lower : 2 ^ 52 ≤ m) (upper : m < 2 ^ 53)
    (low : -1074 < e) (high : e ≤ 971) :
    Exactly (.ofModel (.pack (.finite .positive m e pos))) (m * 2 ^ e) :=
  ⟨m, e, pos, unpack_pack lower upper low.le high, lower, upper, low, high, rfl⟩

section Naturals

variable {c : Nat}

/-- A number of fewer bits is filled up with zeros. -/
theorem filled_bounds (pos : 0 < c) (small : c < 2 ^ 53) :
    2 ^ 52 ≤ c * 2 ^ (52 - c.log2) ∧ c * 2 ^ (52 - c.log2) < 2 ^ 53 := by
  have log : c.log2 < 53 := (Nat.log2_lt pos.ne').2 small
  obtain ⟨least, most⟩ := (Nat.log2_eq_iff pos.ne').1 rfl
  have filled : 2 ^ c.log2 * 2 ^ (52 - c.log2) = 2 ^ 52 := by
    rw [← Nat.pow_add, Nat.add_sub_cancel' (by omega)]
  constructor
  · exact filled ▸ Nat.mul_le_mul_right _ least
  · have := Nat.mul_lt_mul_of_pos_right most (Nat.two_pow_pos (52 - c.log2))
    rwa [Nat.pow_succ, Nat.mul_right_comm, filled] at this

theorem filled_value (small : c.log2 ≤ 52) :
    ((c * 2 ^ (52 - c.log2) : Nat) : Rat) * 2 ^ (c.log2 - 52 : Int) = c := by
  have unit : (2 : Rat) ^ (52 - c.log2) * 2 ^ (c.log2 - 52 : Int) = 1 := by
    rw [← zpow_natCast, ← zpow_add₀ two_ne_zero, Nat.cast_sub small]
    simp
  push_cast
  rw [mul_assoc, unit, mul_one]

theorem round_natural (pos : 0 < c) (small : c < 2 ^ 53) (filled : 0 < c * 2 ^ (52 - c.log2)) :
    UnpackedFloat.round Format.binary64 .positive c 0 =
      .finite .positive (c * 2 ^ (52 - c.log2)) (c.log2 - 52) filled := by
  have log : c.log2 < 53 := (Nat.log2_lt pos.ne').2 small
  obtain ⟨lower, upper⟩ := filled_bounds pos small
  have target : Format.binary64.targetExponent (totalExponent c 0) = c.log2 - 52 := by
    simp only [Format.targetExponent, totalExponent, Format.mantissaBits, Format.minExponent]
    omega
  unfold UnpackedFloat.round decreaseExponent
  dsimp only
  rw [target, show (0 - ((c.log2 : Int) - 52)).toNat = 52 - c.log2 by omega, Nat.shiftLeft_eq]
  refine roundWithAccuracy_exact ?_ lower upper (by omega) ?_ filled
  · exact (Nat.le_log2 filled.ne').2 lower
  · rw [show (0 : Int) - (52 - c.log2 : Nat) = c.log2 - 52 by omega]

theorem exactly_toFloat (pos : 0 < c) (small : c < 2 ^ 53) : Exactly c.toUInt64.toFloat c := by
  have log : c.log2 < 53 := (Nat.log2_lt pos.ne').2 small
  obtain ⟨lower, upper⟩ := filled_bounds pos small
  have filled : 0 < c * 2 ^ (52 - c.log2) := by omega
  have word : c.toUInt64.toNat = c := by
    simp
    omega
  have model : c.toUInt64.toFloat =
      .ofModel (.pack (.finite .positive (c * 2 ^ (52 - c.log2)) (c.log2 - 52) filled)) := by
    show Float.ofModel (.pack (UnpackedFloat.normalize _ (c.toUInt64.toNat : Int) 0 .positive)) = _
    unfold UnpackedFloat.normalize
    rw [word, Int.compare_eq_gt.2 (by omega)]
    dsimp only
    rw [Int.toNat_natCast, round_natural pos small filled]
  have exact : Exactly c.toUInt64.toFloat (_ * 2 ^ (c.log2 - 52 : Int)) :=
    model ▸ exactly_pack lower upper (by omega) (by omega)
  rwa [filled_value (by omega)] at exact

end Naturals

section Arithmetic

variable {x y : Float} {v w : Rat} {m : Nat} {E : Int}

theorem mul_exactly (hx : Exactly x v) (hy : Exactly y w) (lower : 2 ^ 52 ≤ m) (upper : m < 2 ^ 53)
    (low : -1074 < E) (same : v * w = m * 2 ^ E) (pos : 0 < m) :
    x * y = .ofModel (.pack (.finite .positive m E pos)) := by
  obtain ⟨m₁, e₁, pos₁, hx, lower₁, _, _, _, rfl⟩ := hx
  obtain ⟨m₂, e₂, pos₂, hy, lower₂, _, _, _, rfl⟩ := hy
  have bits : 52 ≤ (m₁ * m₂).log2 :=
    (Nat.le_log2 (Nat.mul_pos pos₁ pos₂).ne').2 (lower₁.trans (Nat.le_mul_of_pos_right m₁ pos₂))
  show Float.ofModel (.pack (UnpackedFloat.mul _ x.toModel.unpack y.toModel.unpack)) = _
  rw [hx, hy]
  unfold UnpackedFloat.mul
  dsimp only
  rw [roundWithAccuracy_exact bits lower upper low _ pos]
  · rfl
  · rw [← same, zpow_add₀ two_ne_zero]
    push_cast
    ring

/-- Both numbers have 53 bits, so 53 bits are added before the division. -/
theorem divCore_eq {m₁ m₂ : Nat} (e₁ e₂ : Int) (log₁ : m₁.log2 = 52) (log₂ : m₂.log2 = 52)
    (low : -1021 ≤ e₁ - e₂) : divCore Format.binary64 m₁ e₁ m₂ e₂ =
      (m₁ * 2 ^ 53 / m₂, e₁ - e₂ - 53, accuracyOfFraction (m₁ * 2 ^ 53 % m₂) m₂) := by
  have target : min (e₁ - e₂)
      (Format.binary64.targetExponent (totalExponent m₁ e₁ - totalExponent m₂ e₂)) =
        e₁ - e₂ - 53 := by
    simp only [Format.targetExponent, totalExponent, Format.mantissaBits, Format.minExponent,
      log₁, log₂]
    omega
  unfold divCore
  dsimp only
  rw [target, show (e₁ - e₂ - (e₁ - e₂ - 53)).toNat = 53 by omega, Nat.shiftLeft_eq]

theorem quotient_shifted (m₁ m₂ : Nat) (e₁ e₂ : Int) : (m₁ * 2 ^ e₁ / (m₂ * 2 ^ e₂) : Rat) =
    ((m₁ * 2 ^ 53 : Nat) : Rat) / m₂ * 2 ^ (e₁ - e₂ - 53) := by
  have scale : (2 : Rat) ^ (e₁ - e₂) = 2 ^ 53 * 2 ^ (e₁ - e₂ - 53) := by
    rw [zpow_sub₀ two_ne_zero _ 53, zpow_ofNat]
    ring
  push_cast
  rw [mul_div_mul_comm, ← zpow_sub₀ two_ne_zero, scale]
  ring

theorem div_near (hx : Exactly x v) (hy : Exactly y w) (lower : 2 ^ 52 ≤ m) (upper : m < 2 ^ 53)
    (low : -1022 ≤ E) (near : Near m E (v / w)) (pos : 0 < m) :
    x / y = .ofModel (.pack (.finite .positive m E pos)) := by
  obtain ⟨m₁, e₁, pos₁, hx, lower₁, upper₁, _, _, rfl⟩ := hx
  obtain ⟨m₂, e₂, pos₂, hy, lower₂, upper₂, _, _, rfl⟩ := hy
  show Float.ofModel (.pack (UnpackedFloat.div _ x.toModel.unpack y.toModel.unpack)) = _
  rw [hx, hy]
  have log₁ : m₁.log2 = 52 := (Nat.log2_eq_iff pos₁.ne').2 ⟨lower₁, upper₁⟩
  have log₂ : m₂.log2 = 52 := (Nat.log2_eq_iff pos₂.ne').2 ⟨lower₂, upper₂⟩
  have pos₂' : (0 : Rat) < m₂ := Nat.cast_pos.2 pos₂
  rw [quotient_shifted] at near
  -- both have 53 bits, so their quotient is below two
  have bound : (51 : Int) + E < 54 + (e₁ - e₂ - 53) := by
    refine (zpow_lt_zpow_iff_right₀ one_lt_two).1 ((near.least lower).trans ?_)
    rw [zpow_add₀ two_ne_zero, zpow_ofNat]
    refine mul_lt_mul_of_pos_right ?_ (two_zpow_pos _)
    rw [div_lt_iff₀ pos₂']
    have : m₁ * 2 ^ 53 < 2 ^ 54 * m₂ := by omega
    exact_mod_cast this
  have bits : 52 ≤ (m₁ * 2 ^ 53 / m₂).log2 := by
    have least : 2 ^ 52 ≤ m₁ * 2 ^ 53 / m₂ := by
      rw [Nat.le_div_iff_mul_le pos₂]
      omega
    exact (Nat.le_log2 (by omega)).2 least
  unfold UnpackedFloat.div
  dsimp only
  rw [divCore_eq e₁ e₂ log₁ log₂ (by omega)]
  dsimp only
  rw [roundWithAccuracy_near pos₂ bits lower upper (by omega) near pos]
  rfl

end Arithmetic

theorem ofNat_eq {c : Nat} (small : c < 2 ^ 53) :
    Float.ofNat c = c.toUInt64.toFloat * (1 : Nat).toUInt64.toFloat := by
  have one : Float.exactlyRepresentablePowersOfTen[0] = (1 : Nat).toUInt64.toFloat := by
    decide +kernel
  rw [← one]
  exact dif_pos ⟨small, Nat.zero_le 22⟩

theorem exactly_ofNat {c : Nat} (pos : 0 < c) (small : c < 2 ^ 53) : Exactly (Float.ofNat c) c := by
  obtain ⟨m, e, hm, unpacked, lower, upper, low, high, value⟩ := exactly_toFloat pos small
  have one := exactly_toFloat Nat.one_pos (by decide)
  have same : (c : Rat) * (1 : Nat) = m * 2 ^ e := by rw [value, Nat.cast_one, mul_one]
  rw [ofNat_eq small, mul_exactly (exactly_toFloat pos small) one lower upper low same hm, ← value]
  exact exactly_pack lower upper low high

theorem exactly_power {k : Nat} (small : k ≤ 15) : Exactly (Json.power k) (10 ^ k) := by
  have natural : ∀ k : Fin 16, Json.power k = (10 ^ k.val).toUInt64.toFloat := by decide +kernel
  have bound : 10 ^ k < 2 ^ 53 := (Nat.pow_le_pow_right (by decide) small).trans_lt (by decide)
  have exact := exactly_toFloat (Nat.pow_pos (by decide)) bound
  rw [← natural ⟨k, by omega⟩] at exact
  exact_mod_cast exact

end HeatingHub.Number

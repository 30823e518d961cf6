import HeatingHub.Proofs.Number.Doubles

/-!
# Shortest decimals read back

The shortest decimal of a double lies in its rounding interval (`near_shortest`). A decimal that is
a quotient of doubles is therefore read back exactly (`div_shortest`).
-/

namespace HeatingHub.Number

/-- The number that a decimal denotes. -/
def Decimal.value (d : Decimal) : Rat := d.coefficient * 10 ^ d.exponent

/-- No zeros are to be written for the exponent of zero. -/
def Decimal.Trimmed (d : Decimal) : Prop := d.coefficient = 0 → d.exponent = 0

namespace Magnitude

variable {x : Magnitude} {d : Decimal}

/-- A power with any exponent as a quotient of powers. -/
theorem zpow_eq_div {b : Rat} (hb : b ≠ 0) (e : Int) : b ^ e = b ^ e.toNat / b ^ (-e).toNat := by
  rw [eq_div_iff (pow_ne_zero _ hb), ← zpow_natCast, ← zpow_natCast, ← zpow_add₀ hb]
  congr 1
  omega

/-- What is compared, as one quotient with the common denominator. -/
theorem compareQuarters_spec (x : Magnitude) (d : Decimal) (n : Nat) :
    ∃ p q : Nat, x.compareQuarters d n = compare p q ∧ ∃ r : Rat, 0 < r ∧
      d.value = p / r ∧ n * 2 ^ (x.exponent - 2) = (q : Rat) / r := by
  refine ⟨_, _, rfl, 10 ^ (-d.exponent).toNat * 2 ^ (-(x.exponent - 2)).toNat, by positivity, ?_,
    ?_⟩
  · unfold Decimal.value
    rw [zpow_eq_div (by norm_num) d.exponent]
    simp only [tenTo, twoTo, Nat.pow_eq]
    push_cast
    field_simp
  · rw [zpow_eq_div two_ne_zero (x.exponent - 2)]
    simp only [tenTo, twoTo, Nat.pow_eq]
    push_cast
    field_simp

theorem compareQuarters_eq_lt {n : Nat} :
    x.compareQuarters d n = .lt ↔ d.value < n * 2 ^ (x.exponent - 2) := by
  obtain ⟨p, q, compared, r, hr, left, right⟩ := compareQuarters_spec x d n
  rw [compared, left, right, Nat.compare_eq_lt, div_lt_div_iff_of_pos_right hr, Nat.cast_lt]

theorem compareQuarters_eq_gt {n : Nat} :
    x.compareQuarters d n = .gt ↔ n * 2 ^ (x.exponent - 2) < d.value := by
  obtain ⟨p, q, compared, r, hr, left, right⟩ := compareQuarters_spec x d n
  rw [compared, left, right, Nat.compare_eq_gt, div_lt_div_iff_of_pos_right hr, Nat.cast_lt]

theorem compareQuarters_eq_eq {n : Nat} :
    x.compareQuarters d n = .eq ↔ d.value = n * 2 ^ (x.exponent - 2) := by
  obtain ⟨p, q, compared, r, hr, left, right⟩ := compareQuarters_spec x d n
  rw [compared, left, right, Nat.compare_eq_eq, div_left_inj' hr.ne', Nat.cast_inj]

/-- A decimal that rounds to a double lies in its rounding interval. -/
theorem near_of_admits (pos : 0 < x.mantissa)
    (lopsided : x.lopsided = true ↔ x.mantissa = 2 ^ 52) (admitted : x.admits d = true) :
    Near x.mantissa x.exponent d.value := by
  unfold admits at admitted
  simp only [Bool.and_eq_true, Bool.or_eq_true, beq_iff_eq, compareQuarters_eq_lt,
    compareQuarters_eq_gt, compareQuarters_eq_eq] at admitted
  obtain ⟨below, above⟩ := admitted
  have least : ((4 * x.mantissa - (if x.lopsided = true then 1 else 2) : Nat) : Rat) =
      4 * x.mantissa - if x.mantissa = 2 ^ 52 then 1 else 2 := by
    simp only [lopsided]
    split <;> rw [Nat.cast_sub (by omega)] <;> push_cast <;> rfl
  have most : ((4 * x.mantissa + 2 : Nat) : Rat) = 4 * x.mantissa + 2 := by
    push_cast
    rfl
  rw [least] at below
  rw [most] at above
  refine ⟨?_, ?_, ?_⟩
  · rcases below with less | ⟨_, same⟩
    · exact less.le
    · exact same.ge
  · rcases above with less | ⟨_, same⟩
    · exact less.le
    · exact same.le
  · rintro (same | same)
    · by_cases power : x.mantissa = 2 ^ 52
      · rw [power]
        rfl
      · rw [if_neg power] at below
        rcases below with less | ⟨even, _⟩
        · exact absurd same less.ne'
        · exact even
    · rcases above with less | ⟨even, _⟩
      · exact absurd same less.ne
      · exact even

theorem admits_of_withDigits? {n : Nat} (found : x.withDigits? n = some d) : x.admits d = true := by
  unfold withDigits? at found
  extract_lets e a low high at found
  by_cases lower : x.admits low = true
  · rw [if_pos lower] at found
    by_cases higher : (x.admits high && !x.nearerBelow a e) = true
    · rw [if_pos higher] at found
      exact Option.some.inj found ▸ (Bool.and_eq_true_iff.1 higher).1
    · rw [if_neg higher] at found
      exact Option.some.inj found ▸ lower
  · rw [if_neg lower] at found
    by_cases higher : x.admits high = true
    · rw [if_pos higher] at found
      exact Option.some.inj found ▸ higher
    · rw [if_neg higher] at found
      cases found

theorem value_exact (x : Magnitude) : x.exact.value = x.mantissa * 2 ^ x.exponent := by
  unfold exact Decimal.value num
  rw [zpow_eq_div two_ne_zero x.exponent]
  split
  case isTrue natural =>
    rw [show (-x.exponent).toNat = 0 by omega]
    simp [twoTo]
  case isFalse broken =>
    rw [zpow_eq_div (by norm_num) x.exponent, show x.exponent.toNat = 0 by omega,
      show (10 : Rat) = 2 * 5 by norm_num, Nat.pow_eq, pow_zero, mul_pow]
    push_cast
    field_simp

theorem value_pos_of_admits (pos : 0 < x.mantissa) (admitted : x.admits d = true) :
    0 < d.value := by
  unfold admits at admitted
  simp only [Bool.and_eq_true, Bool.or_eq_true, beq_iff_eq, compareQuarters_eq_gt,
    compareQuarters_eq_eq] at admitted
  have least : 0 < 4 * x.mantissa - if x.lopsided = true then 1 else 2 := by
    split <;> omega
  have quarters : (0 : Rat) < (4 * x.mantissa - if x.lopsided = true then 1 else 2 : Nat) *
      2 ^ (x.exponent - 2) := mul_pos (Nat.cast_pos.2 least) (two_zpow_pos _)
  rcases admitted.1 with less | ⟨_, same⟩
  · exact quarters.trans less
  · exact same ▸ quarters

/-- The shortest decimal denotes no zero unless the double is zero. -/
theorem value_pos_shortest (pos : 0 < x.mantissa) : 0 < x.shortest.value := by
  unfold shortest
  rw [if_neg pos.ne']
  cases found : (List.range' 1 17).findSome? x.withDigits? with
  | none =>
    rw [Option.getD_none, value_exact]
    exact mul_pos (Nat.cast_pos.2 pos) (two_zpow_pos _)
  | some d =>
    obtain ⟨n, _, hn⟩ := List.exists_of_findSome?_eq_some found
    exact value_pos_of_admits pos (admits_of_withDigits? hn)

theorem trimmed_shortest (x : Magnitude) : x.shortest.Trimmed := by
  intro zero
  rcases Nat.eq_zero_or_pos x.mantissa with none | pos
  · unfold shortest
    rw [if_pos none]
  · have value := value_pos_shortest pos
    unfold Decimal.value at value
    rw [zero, Nat.cast_zero, zero_mul] at value
    exact absurd value (lt_irrefl 0)

/-- The shortest decimal lies in the rounding interval of the double. -/
theorem near_shortest (pos : 0 < x.mantissa)
    (lopsided : x.lopsided = true ↔ x.mantissa = 2 ^ 52) :
    Near x.mantissa x.exponent x.shortest.value := by
  unfold shortest
  rw [if_neg pos.ne']
  cases found : (List.range' 1 17).findSome? x.withDigits? with
  | none =>
    rw [Option.getD_none, value_exact]
    exact near_self
  | some d =>
    obtain ⟨n, _, hn⟩ := List.exists_of_findSome?_eq_some found
    exact near_of_admits pos lopsided (admits_of_withDigits? hn)

end Magnitude

/-- A natural number divided by a power of ten is read back if it denotes the shortest decimal of a
double. -/
theorem div_shortest {x : Float} {m : Magnitude} {a k : Nat} (hx : Double.of x = .finite false m)
    (lower : 2 ^ 52 ≤ m.mantissa) (low : -1022 ≤ m.exponent) (pos : 0 < a) (small : a < 2 ^ 53)
    (places : k ≤ 15) (value : m.shortest.value = a / 10 ^ k) :
    Float.ofNat a / Json.power k = x := by
  obtain ⟨mantissa, exponent, l⟩ := m
  obtain ⟨upper, _, _, lopsided, _⟩ := bits_of_double hx lower
  have hm : 0 < mantissa := by
    simp only at lower
    omega
  have near := Magnitude.near_shortest (x := ⟨mantissa, exponent, l⟩) hm
    (lopsided.trans (and_iff_left (by simp only at low; omega)))
  rw [value] at near
  rw [div_near (exactly_ofNat pos small) (exactly_power places) lower upper low near hm]
  exact (eq_pack_of_double hx lower hm).symm

end HeatingHub.Number

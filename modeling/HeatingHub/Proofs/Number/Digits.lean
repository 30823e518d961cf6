import HeatingHub.Number.Numeral
import Mathlib.Algebra.Order.Ring.Nat
import Mathlib.Data.List.Basic

/-!
# Digits

A numeral without zeros before it has as many digits as its leading digit has places
(`digits_bounds`). Digits that something else follows are all taken, and nothing more
(`takeDigits_append`). A number without a minus is read exactly if its digits denote one that fits
(`unsigned?_eq_some_iff`).
-/

namespace HeatingHub.Number

/-- Digits, at least one. -/
def AreDigits (ds : List Char) : Prop := ds ≠ [] ∧ ∀ c ∈ ds, c.isDigit = true

theorem areDigits_digits (n : Nat) : AreDigits (digits n) :=
  ⟨Nat.toDigits_ne_nil, fun _ => Nat.isDigit_of_mem_toDigits (by decide) (by decide)⟩

theorem ne_minus_of_areDigits {c : Char} {ds : List Char} (digit : AreDigits (c :: ds)) :
    c ≠ '-' := by
  rintro rfl
  exact absurd (digit.2 '-' List.mem_cons_self) (by decide)

theorem ne_plus_of_areDigits {c : Char} {ds : List Char} (digit : AreDigits (c :: ds)) :
    c ≠ '+' := by
  rintro rfl
  exact absurd (digit.2 '+' List.mem_cons_self) (by decide)

theorem takeDigits_append {ds rest : List Char} (digit : ∀ c ∈ ds, c.isDigit = true)
    (stops : ∀ c ∈ rest.head?, c.isDigit = false) : takeDigits (ds ++ rest) = (ds, rest) := by
  have none : rest.takeWhile Char.isDigit = [] ∧ rest.dropWhile Char.isDigit = rest := by
    cases rest with
    | nil => exact ⟨rfl, rfl⟩
    | cons c s =>
      have other := stops c rfl
      exact ⟨List.takeWhile_cons_of_neg (by simp [other]),
        List.dropWhile_cons_of_neg (by simp [other])⟩
  unfold takeDigits
  rw [List.takeWhile_append_of_pos digit, List.dropWhile_append_of_pos digit, none.1, none.2,
    List.append_nil]

theorem head?_digits {n : Nat} (pos : n ≠ 0) : (digits n).head? ≠ some '0' := by
  unfold digits
  induction n using Nat.strongRecOn with
  | _ n ih =>
    rcases Nat.lt_or_ge n 10 with less | more
    · rw [Nat.toDigits_of_lt_base less]
      have leading : ∀ n : Fin 10, n.val ≠ 0 → n.val.digitChar ≠ '0' := by decide
      exact fun same => leading ⟨n, less⟩ pos (Option.some.inj same)
    · rw [Nat.toDigits_of_base_le (by decide) more,
        List.head?_append_of_ne_nil _ Nat.toDigits_ne_nil]
      exact ih (n / 10) (by omega) (by omega)

theorem foldl_pushDigit_ge (s : List Char) (n : Nat) : n * 10 ^ s.length ≤ s.foldl pushDigit n := by
  induction s generalizing n with
  | nil => simp
  | cons c s ih =>
    refine le_trans ?_ (ih (pushDigit n c))
    rw [List.length_cons, Nat.pow_succ', ← Nat.mul_assoc]
    refine Nat.mul_le_mul_right _ ?_
    unfold pushDigit
    omega

/-- Digits appended to a numeral move it to higher places. -/
theorem valueOf_append_ge (s t : List Char) : valueOf s * 10 ^ t.length ≤ valueOf (s ++ t) := by
  unfold valueOf
  rw [List.foldl_append]
  exact foldl_pushDigit_ge t _

theorem valueOf_append_zeros (s : List Char) (k : Nat) :
    valueOf (s ++ List.replicate k '0') = valueOf s * 10 ^ k := by
  induction k with
  | zero => simp
  | succ k ih =>
    rw [List.replicate_succ', ← List.append_assoc]
    unfold valueOf at ih ⊢
    rw [List.foldl_append, ih, Nat.pow_succ, ← Nat.mul_assoc]
    simp [pushDigit, Nat.mul_comm]

/-- The first digit of a number has the place that their count says. -/
theorem digits_bounds {n : Nat} (pos : n ≠ 0) :
    10 ^ ((digits n).length - 1) ≤ n ∧ n < 10 ^ (digits n).length := by
  have some : 0 < (digits n).length := Nat.length_toDigits_pos
  refine ⟨?_, (Nat.length_toDigits_le_iff (by decide) some).1 le_rfl⟩
  rcases Nat.lt_or_ge 1 (digits n).length with more | one
  · by_contra less
    have := (Nat.length_toDigits_le_iff (b := 10) (by decide) (by omega)).2 (not_le.1 less)
    unfold digits at more this
    omega
  · rw [show (digits n).length - 1 = 0 by omega]
    exact Nat.one_le_iff_ne_zero.2 pos

/-! ## Numbers without a minus -/

/-- The text is made of decimal digits that denote the number, behind a `+` or not. -/
def Denotes (s : List Char) (n : Nat) : Prop :=
  ∃ ds, AreDigits ds ∧ (s = ds ∨ s = '+' :: ds) ∧ Nat.ofDigitChars 10 ds 0 = n

theorem natural?_eq_some_iff {s : List Char} {n : Nat} :
    natural? s = some n ↔ AreDigits s ∧ Nat.ofDigitChars 10 s 0 = n := by
  have value : Nat.ofDigitChars 10 s 0 = valueOf s := Nat.ofDigitChars_eq_foldl
  have digits : (!s.isEmpty && s.all Char.isDigit) = true ↔ AreDigits s := by
    simp [AreDigits]
  rw [value, natural?, ← digits]
  split
  case isTrue h => simp [h]
  case isFalse h => simp [h]

theorem unsigned?_eq_some_iff {limit n : Nat} {s : List Char} :
    unsigned? limit s = some n ↔ Denotes s n ∧ n < limit := by
  unfold unsigned? Denotes
  rw [Option.filter_eq_some_iff, decide_eq_true_iff]
  refine and_congr_left' ?_
  split
  case h_1 ds =>
    rw [natural?_eq_some_iff]
    constructor
    · rintro ⟨digits, value⟩
      exact ⟨ds, digits, .inr rfl, value⟩
    · rintro ⟨ds', digits, rfl | same, value⟩
      · exact absurd rfl (ne_plus_of_areDigits digits)
      · cases same
        exact ⟨digits, value⟩
  case h_2 unsigned =>
    rw [natural?_eq_some_iff]
    constructor
    · rintro ⟨digits, value⟩
      exact ⟨s, digits, .inl rfl, value⟩
    · rintro ⟨ds, digits, rfl | rfl, value⟩
      · exact ⟨digits, value⟩
      · exact absurd rfl (unsigned ds)

/-- A text denotes one number at most. -/
theorem Denotes.unique {s : List Char} {n m : Nat} (hn : Denotes s n) (hm : Denotes s m) :
    n = m := by
  have large (k : Nat) (hk : Denotes s k) (less : k < n + m + 1) :
      unsigned? (n + m + 1) s = some k := unsigned?_eq_some_iff.2 ⟨hk, less⟩
  exact Option.some.inj ((large n hn (by omega)).symm.trans (large m hm (by omega)))

end HeatingHub.Number

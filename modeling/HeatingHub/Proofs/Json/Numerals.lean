import HeatingHub.Json.Reading
import HeatingHub.Proofs.Calendar.DateText
import HeatingHub.Proofs.Number.Digits
import HeatingHub.Proofs.Number.Shortest

/-!
# Numerals read back

The text of a number is that of a numeral (`text_eq_spelling`), and where no more of a numeral can
follow, reading takes the numeral and nothing else (`read?_spelling`).
-/

namespace HeatingHub

namespace Json

open HeatingHub.Number (AreDigits Decimal Magnitude digits pushDigit takeDigits valueOf)

/-! ## Spelling -/

/-- The exponent as it is written. -/
def exponentSpelling : Option (Bool × List Char) → List Char
  | none => []
  | some (negative, ds) => 'e' :: (if negative then ['-'] else []) ++ ds

def fractionSpelling : Option (List Char) → List Char
  | none => []
  | some ds => '.' :: ds

/-- The numeral as it is written. -/
def Numeral.spelling (m : Numeral) : List Char :=
  (if m.negative then ['-'] else []) ++
    (m.whole ++ (fractionSpelling m.fraction ++ exponentSpelling m.exponent))

/-- A numeral that can be written. -/
structure Numeral.Proper (m : Numeral) : Prop where
  whole : AreDigits m.whole
  /-- No zero stands before another digit. -/
  noZero : m.whole.head? = some '0' → m.whole = ['0']
  fraction : ∀ ds ∈ m.fraction, AreDigits ds
  exponent : ∀ e ∈ m.exponent, AreDigits e.2

/-- What follows is not taken for more of a numeral. -/
def Stops (rest : List Char) : Prop :=
  ∀ c ∈ rest.head?, c.isDigit = false ∧ c ≠ '.' ∧ c ≠ 'e' ∧ c ≠ 'E'

section Spelling

variable {ds rest : List Char}

theorem readWhole?_append (digit : AreDigits ds) (noZero : ds.head? = some '0' → ds = ['0'])
    (stops : ∀ c ∈ rest.head?, c.isDigit = false) : readWhole? (ds ++ rest) = some (ds, rest) := by
  unfold readWhole?
  rw [Number.takeDigits_append digit.2 stops]
  split
  case h_1 empty => exact absurd (Prod.mk.inj empty).1 digit.1
  case h_2 zero =>
    obtain ⟨rfl, _⟩ := Prod.mk.inj zero
    cases noZero rfl
  case h_3 same =>
    obtain ⟨rfl, rfl⟩ := Prod.mk.inj same
    rfl

theorem readFraction?_append (digit : AreDigits ds) (stops : ∀ c ∈ rest.head?, c.isDigit = false) :
    readFraction? ('.' :: ds ++ rest) = some (some ds, rest) := by
  rw [List.cons_append, readFraction?, Number.takeDigits_append digit.2 stops]
  exact if_neg (by simpa using digit.1)

theorem readFraction?_none (stops : ∀ c ∈ rest.head?, c ≠ '.') :
    readFraction? rest = some (none, rest) := by
  unfold readFraction?
  split
  · exact absurd rfl (stops '.' rfl)
  · rfl

theorem readExponent?_append (negative : Bool) (digit : AreDigits ds)
    (stops : ∀ c ∈ rest.head?, c.isDigit = false) :
    readExponent? ('e' :: (if negative then ['-'] else []) ++ ds ++ rest) =
      some (some (negative, ds), rest) := by
  have taken := Number.takeDigits_append digit.2 stops
  have some : ds.isEmpty = false := by simpa using digit.1
  unfold readExponent?
  cases negative with
  | true =>
    simp only [if_true, List.cons_append, List.nil_append, true_or, taken, some]
    rfl
  | false =>
    obtain ⟨c, ds, rfl⟩ := List.exists_cons_of_ne_nil digit.1
    have minus : c ≠ '-' := Number.ne_minus_of_areDigits digit
    have plus : c ≠ '+' := Number.ne_plus_of_areDigits digit
    simp only [List.cons_append, Bool.false_eq_true, if_false, List.nil_append, true_or,
      if_true] at taken ⊢
    split
    case h_1 same => exact absurd (List.cons.inj same).1 minus
    case h_2 same => exact absurd (List.cons.inj same).1 plus
    case h_3 =>
      simp only [taken, some]
      rfl

theorem readExponent?_none (stops : ∀ c ∈ rest.head?, c ≠ 'e' ∧ c ≠ 'E') :
    readExponent? rest = some (none, rest) := by
  unfold readExponent?
  split
  · rfl
  · rw [if_neg]
    have other := stops _ rfl
    exact fun same => same.elim other.1 other.2

theorem readExponent?_spelling {exponent : Option (Bool × List Char)}
    (digit : ∀ e ∈ exponent, AreDigits e.2) (stops : Stops rest) :
    readExponent? (exponentSpelling exponent ++ rest) = some (exponent, rest) := by
  cases exponent with
  | none => exact readExponent?_none fun c hc => (stops c hc).2.2
  | some e => exact readExponent?_append e.1 (digit e rfl) fun c hc => (stops c hc).1

theorem head?_exponentSpelling (exponent : Option (Bool × List Char)) (stops : Stops rest) :
    ∀ c ∈ (exponentSpelling exponent ++ rest).head?, c.isDigit = false ∧ c ≠ '.' := by
  cases exponent with
  | none => exact fun c hc => ⟨(stops c hc).1, (stops c hc).2.1⟩
  | some e =>
    intro c hc
    obtain rfl := Option.some.inj hc
    decide

theorem readFraction?_spelling {fraction : Option (List Char)}
    (digit : ∀ ds ∈ fraction, AreDigits ds)
    (stops : ∀ c ∈ rest.head?, c.isDigit = false ∧ c ≠ '.') :
    readFraction? (fractionSpelling fraction ++ rest) = some (fraction, rest) := by
  cases fraction with
  | none => exact readFraction?_none fun c hc => (stops c hc).2
  | some ds => exact readFraction?_append (digit ds rfl) fun c hc => (stops c hc).1

theorem head?_fractionSpelling (fraction : Option (List Char))
    (stops : ∀ c ∈ rest.head?, c.isDigit = false ∧ c ≠ '.') :
    ∀ c ∈ (fractionSpelling fraction ++ rest).head?, c.isDigit = false := by
  cases fraction with
  | none => exact fun c hc => (stops c hc).1
  | some ds =>
    intro c hc
    obtain rfl := Option.some.inj hc
    decide

/-- Where no more of it can follow, a numeral is read as it was written. -/
theorem Numeral.read?_spelling {m : Numeral} (proper : m.Proper) (stops : Stops rest) :
    Numeral.read? (m.spelling ++ rest) = some (m, rest) := by
  obtain ⟨negative, whole, fraction, exponent⟩ := m
  obtain ⟨digit, noZero, digitF, digitE⟩ := proper
  dsimp only at digit noZero digitF digitE
  have stopsE := head?_exponentSpelling exponent stops
  have stopsF := head?_fractionSpelling fraction stopsE
  have readE := readExponent?_spelling digitE stops
  have readF := readFraction?_spelling digitF stopsE
  have readW := readWhole?_append digit noZero stopsF
  unfold Numeral.read? Numeral.spelling
  cases negative with
  | true =>
    simp only [if_true, List.append_assoc, List.cons_append, List.nil_append]
    rw [readW]
    simp only [Option.bind_eq_bind, Option.bind_some, readF, readE]
    rfl
  | false =>
    obtain ⟨c, ds, rfl⟩ := List.exists_cons_of_ne_nil digit.1
    have minus : c ≠ '-' := Number.ne_minus_of_areDigits digit
    simp only [Bool.false_eq_true, if_false, List.append_assoc, List.cons_append,
      List.nil_append] at readW ⊢
    split
    case h_1 same => exact absurd (List.cons.inj same).1 minus
    case h_2 =>
      rw [readW]
      simp only [Option.bind_eq_bind, Option.bind_some, readF, readE]
      rfl

end Spelling

/-! ## Texts of numbers -/

section Texts

variable {d : Decimal} {negative : Bool}

def positionalNumeral (negative : Bool) (d : Decimal) : Numeral :=
  let ds := digits d.coefficient
  let places := (-d.exponent).toNat
  if 0 ≤ d.exponent then
    ⟨negative, ds ++ List.replicate d.exponent.toNat '0', some ['0'], none⟩
  else if places < ds.length then
    ⟨negative, ds.take (ds.length - places), some (ds.drop (ds.length - places)), none⟩
  else ⟨negative, ['0'], some (List.replicate (places - ds.length) '0' ++ ds), none⟩

def scientificNumeral (negative : Bool) (d : Decimal) : Numeral :=
  let ds := digits d.coefficient
  ⟨negative, ds.take 1, if ds.tail = [] then none else some ds.tail,
    some (decide (d.order < 0), digits d.order.natAbs)⟩

theorem spelling_positional (negative : Bool) (d : Decimal) :
    (positionalNumeral negative d).spelling =
      (if negative then ['-'] else []) ++ d.positional ['.', '0'] := by
  unfold positionalNumeral Decimal.positional
  dsimp only
  split
  · simp [Numeral.spelling, fractionSpelling, exponentSpelling]
  · split <;> simp [Numeral.spelling, fractionSpelling, exponentSpelling]

theorem isDigit_of_mem_zeros {k : Nat} {c : Char} (h : c ∈ List.replicate k '0') :
    c.isDigit = true := by
  rw [List.eq_of_mem_replicate h]
  rfl

/-- The digits of a natural number with zeros for its exponent, and a zero behind the point. -/
theorem proper_natural (negative : Bool) (trimmed : d.Trimmed) :
    (Numeral.mk negative (digits d.coefficient ++ List.replicate d.exponent.toNat '0')
      (some ['0']) none).Proper := by
  have digit := Number.areDigits_digits d.coefficient
  refine ⟨⟨by simp [digit.1], ?_⟩, ?_, ?_, nofun⟩
  · intro c hc
    exact (List.mem_append.1 hc).elim (digit.2 c) isDigit_of_mem_zeros
  · intro leading
    dsimp only at leading ⊢
    rw [List.head?_append_of_ne_nil _ digit.1] at leading
    have zero : d.coefficient = 0 := by
      by_contra pos
      exact Number.head?_digits pos leading
    rw [zero, trimmed zero]
    rfl
  · rintro _ ⟨⟩
    exact ⟨by simp, by simp⟩

/-- Digits with a point among them. -/
theorem proper_broken (negative : Bool) (pos : d.coefficient ≠ 0) {n : Nat} (some : 0 < n)
    (less : n < (digits d.coefficient).length) :
    (Numeral.mk negative ((digits d.coefficient).take n) ((digits d.coefficient).drop n)
      none).Proper := by
  have digit := Number.areDigits_digits d.coefficient
  have first : (digits d.coefficient).take n ≠ [] := by
    simp [digit.1]
    omega
  refine ⟨⟨first, fun c hc => digit.2 c (List.mem_of_mem_take hc)⟩, ?_, ?_, nofun⟩
  · intro leading
    dsimp only at leading
    rw [List.head?_take, if_neg (by omega)] at leading
    exact absurd leading (Number.head?_digits pos)
  · rintro _ ⟨⟩
    refine ⟨?_, fun c hc => digit.2 c (List.mem_of_mem_drop hc)⟩
    simp
    omega

theorem proper_positional (negative : Bool) (trimmed : d.Trimmed) :
    (positionalNumeral negative d).Proper := by
  unfold positionalNumeral
  dsimp only
  split
  case isTrue whole => exact proper_natural negative trimmed
  case isFalse broken =>
    have pos : d.coefficient ≠ 0 := fun zero => broken (Int.le_of_eq (trimmed zero).symm)
    have digit := Number.areDigits_digits d.coefficient
    split
    case isTrue short => exact proper_broken negative pos (by omega) (by omega)
    case isFalse long =>
      refine ⟨⟨by simp, by simp⟩, fun _ => rfl, ?_, nofun⟩
      rintro _ ⟨⟩
      refine ⟨by simp [digit.1], ?_⟩
      intro c hc
      exact (List.mem_append.1 hc).elim isDigit_of_mem_zeros (digit.2 c)

theorem spelling_scientific (negative : Bool) (d : Decimal) :
    (scientificNumeral negative d).spelling =
      (if negative then ['-'] else []) ++ d.scientific := by
  obtain ⟨c, r, split⟩ := List.exists_cons_of_ne_nil (Number.areDigits_digits d.coefficient).1
  have order : Number.integer d.order =
      (if d.order < 0 then ['-'] else []) ++ digits d.order.natAbs := by
    unfold Number.integer
    split <;> rfl
  unfold scientificNumeral Decimal.scientific Numeral.spelling
  dsimp only
  rw [split, order]
  cases r <;> simp [fractionSpelling, exponentSpelling]

theorem proper_scientific (pos : d.coefficient ≠ 0) : (scientificNumeral negative d).Proper := by
  have digit := Number.areDigits_digits d.coefficient
  have leading := Number.head?_digits pos
  unfold scientificNumeral
  dsimp only
  refine ⟨⟨by simp [digit.1], fun c hc => digit.2 c (List.mem_of_mem_take hc)⟩, ?_, ?_, ?_⟩
  · intro zero
    dsimp only at zero
    rw [List.head?_take, if_neg (by decide)] at zero
    exact absurd zero leading
  · intro ds hds
    dsimp only at hds
    split at hds
    · cases hds
    · obtain rfl := Option.some.inj hds
      exact ⟨‹_›, fun c hc => digit.2 c (List.mem_of_mem_tail hc)⟩
  · rintro _ ⟨⟩
    exact Number.areDigits_digits _

/-- The numeral that a double is written as. -/
theorem literal_eq_spelling (negative : Bool) (trimmed : d.Trimmed) : ∃ m : Numeral, m.Proper ∧
    (if negative then ['-'] else []) ++ d.literal = m.spelling := by
  unfold Decimal.literal
  by_cases plain : d.coefficient = 0 ∨ (-4 ≤ d.order ∧ d.order < 16)
  · rw [if_pos plain]
    exact ⟨_, proper_positional negative trimmed, (spelling_positional negative d).symm⟩
  · rw [if_neg plain]
    have pos : d.coefficient ≠ 0 := fun zero => plain (.inl zero)
    exact ⟨_, proper_scientific pos, (spelling_scientific negative d).symm⟩

/-- The number can be written. -/
def Number.Finite : Number → Prop
  | .int _ => True
  | .real x => x.isFinite = true

/-- A number is written as a numeral. -/
theorem Number.text_eq_spelling {n : Number} (finite : n.Finite) :
    ∃ m : Numeral, m.Proper ∧ n.text.toList = m.spelling := by
  cases n with
  | int n =>
    have digit := Number.areDigits_digits n.natAbs
    refine ⟨⟨decide (n < 0), digits n.natAbs, none, none⟩, ⟨digit, ?_, nofun, nofun⟩, ?_⟩
    · intro leading
      have zero : n.natAbs = 0 := by
        by_contra pos
        exact Number.head?_digits pos leading
      dsimp only
      rw [zero]
      rfl
    · simp [Number.text, HeatingHub.Number.integer, Numeral.spelling, fractionSpelling,
        exponentSpelling]
      split <;> rfl
  | real x =>
    obtain ⟨negative, m, hx⟩ := Number.finite_of_isFinite finite
    obtain ⟨numeral, proper, spelled⟩ := literal_eq_spelling negative m.trimmed_shortest
    refine ⟨numeral, proper, ?_⟩
    rw [← spelled]
    simp [Number.text, HeatingHub.Number.literal, hx, Number.Double.text]

end Texts

/-! ## Values of numerals -/

section Values

variable {whole fraction : List Char} {n : Nat}

theorem collect_eq {ds : List Char} (fits : ds.foldl pushDigit n < wordLimit) :
    collect n ds = (ds.foldl pushDigit n, 0) := by
  induction ds generalizing n with
  | nil => rfl
  | cons c ds ih =>
    have small : pushDigit n c < wordLimit := by
      refine lt_of_le_of_lt ?_ fits
      refine le_trans ?_ (Number.foldl_pushDigit_ge ds (pushDigit n c))
      exact Nat.le_mul_of_pos_right _ (Nat.pow_pos (by decide))
    unfold collect
    rw [if_pos small]
    exact ih fits

theorem snd_collect_le (n : Nat) (ds : List Char) : (collect n ds).2 ≤ ds.length := by
  induction ds generalizing n with
  | nil => exact le_rfl
  | cons c ds ih =>
    unfold collect
    split
    · exact (ih _).trans (Nat.le_succ _)
    · exact le_rfl

theorem parts_of_fraction (fits : valueOf whole < wordLimit) :
    (Numeral.mk false whole (some fraction) none).parts =
      ((collect (valueOf whole) fraction).1,
        -((fraction.length - (collect (valueOf whole) fraction).2 : Nat) : Int)) := by
  unfold Numeral.parts
  rw [show collect 0 whole = (valueOf whole, 0) from collect_eq fits]
  dsimp only [Option.getD_some]
  rw [show (Numeral.mk false whole (some fraction) none).shift = 0 from rfl, zero_sub]

/-- A numeral whose digits fit is read as these digits before a point. -/
theorem parts_eq (fits : valueOf (whole ++ fraction) < wordLimit) :
    (Numeral.mk false whole (some fraction) none).parts =
      (valueOf (whole ++ fraction), -(fraction.length : Int)) := by
  have appended : valueOf (whole ++ fraction) = fraction.foldl pushDigit (valueOf whole) :=
    List.foldl_append
  have first : valueOf whole < wordLimit := by
    refine lt_of_le_of_lt ?_ fits
    refine le_trans ?_ (Number.valueOf_append_ge whole fraction)
    exact Nat.le_mul_of_pos_right _ (Nat.pow_pos (by decide))
  rw [appended] at fits ⊢
  rw [parts_of_fraction first, collect_eq fits, Nat.sub_zero]

theorem scaled?_neg (a k : Nat) (pos : 0 < k) (small : k ≤ 308) :
    scaled? a (-k) = some (Float.ofNat a / power k) := by
  unfold scaled?
  dsimp only
  rw [if_pos (by omega), Int.natAbs_neg, Int.natAbs_natCast]
  unfold scaleDown
  rw [dif_pos small]

/-- A numeral with a point that begins with a small number is read as a double. -/
theorem number?_of_fraction (small : valueOf whole < 2 ^ 60) (digit : AreDigits fraction) :
    ∃ y, (Numeral.mk false whole (some fraction) none).number? = some (.real y) := by
  obtain ⟨c, ds, rfl⟩ := List.exists_cons_of_ne_nil digit.1
  have limit : wordLimit = 2 ^ 64 := rfl
  have next : pushDigit (valueOf whole) c < wordLimit := by
    have nine : c.toNat ≤ 57 := (Char.isDigit_iff_toNat.1 (digit.2 c List.mem_cons_self)).2
    have zero : '0'.toNat = 48 := rfl
    unfold pushDigit
    omega
  have used : (collect (valueOf whole) (c :: ds)).2 ≤ ds.length := by
    unfold collect
    rw [if_pos next]
    exact snd_collect_le _ ds
  have real : ∃ y, (Numeral.mk false whole (some (c :: ds)) none).real? = some y := by
    unfold Numeral.real?
    rw [parts_of_fraction (by omega)]
    dsimp only
    unfold scaled?
    dsimp only
    rw [if_pos (by rw [List.length_cons]; omega)]
    exact ⟨_, rfl⟩
  obtain ⟨y, hy⟩ := real
  refine ⟨y, ?_⟩
  show ((Numeral.mk false whole (some (c :: ds)) none).real?.map Number.real) = _
  rw [hy]
  rfl

end Values

/-! ## Doubles read back -/

section Doubles

variable {x : Float} {m : Magnitude}

/-- The leading digit of a number between 2 and 32 is the first or the second before the point. -/
theorem order_bounds {d : Decimal} (least : 2 < d.value) (most : d.value < 32) :
    0 ≤ d.order ∧ d.order ≤ 1 := by
  have pos : d.coefficient ≠ 0 := by
    intro zero
    unfold Decimal.value at least
    rw [zero, Nat.cast_zero, zero_mul] at least
    linarith
  obtain ⟨lower, upper⟩ := Number.digits_bounds pos
  have some : 0 < (digits d.coefficient).length := Nat.length_toDigits_pos
  have ten : (1 : Rat) < 10 := by norm_num
  have scale := zpow_pos (by norm_num : (0 : Rat) < 10) d.exponent
  have below : (10 : Rat) ^ d.order ≤ d.value := by
    have place : d.order = ((digits d.coefficient).length - 1 : Nat) + d.exponent := by
      unfold Decimal.order
      omega
    rw [place, zpow_add₀ (by norm_num), zpow_natCast]
    refine mul_le_mul_of_nonneg_right ?_ scale.le
    exact_mod_cast lower
  have above : d.value < (10 : Rat) ^ (d.order + 1) := by
    have place : d.order + 1 = (digits d.coefficient).length + d.exponent := by
      unfold Decimal.order
      omega
    rw [place, zpow_add₀ (by norm_num), zpow_natCast]
    refine mul_lt_mul_of_pos_right ?_ scale
    exact_mod_cast upper
  constructor
  · have : (10 : Rat) ^ (0 : Int) < 10 ^ (d.order + 1) := by
      rw [zpow_zero]
      linarith
    have := (zpow_lt_zpow_iff_right₀ ten).1 this
    omega
  · have : (10 : Rat) ^ d.order < 10 ^ (2 : Int) := by
      rw [zpow_ofNat]
      linarith
    have := (zpow_lt_zpow_iff_right₀ ten).1 this
    omega

/-- The digits of a decimal below 32, before and behind the point. -/
structure Splits (d : Decimal) (whole fraction : List Char) : Prop where
  positional : positionalNumeral false d = ⟨false, whole, some fraction, none⟩
  small : valueOf whole < 32
  value : d.value = (valueOf (whole ++ fraction) : Rat) / 10 ^ fraction.length
  places : fraction.length + 1 ≤ max 2 (digits d.coefficient).length
  bound : valueOf (whole ++ fraction) ≤ max 320 d.coefficient

/-- A natural number has a zero behind the point. -/
theorem splits_of_natural {d : Decimal} (natural : 0 ≤ d.exponent) (most : d.value < 32) :
    Splits d (digits d.coefficient ++ List.replicate d.exponent.toNat '0') ['0'] := by
  have value : d.value = (d.coefficient * 10 ^ d.exponent.toNat : Nat) := by
    unfold Decimal.value
    rw [Number.Magnitude.zpow_eq_div (by norm_num), show (-d.exponent).toNat = 0 by omega]
    push_cast
    ring
  have small : d.coefficient * 10 ^ d.exponent.toNat < 32 := by
    rw [value] at most
    exact_mod_cast most
  have whole := Number.valueOf_append_zeros (digits d.coefficient) d.exponent.toNat
  rw [Number.valueOf_digits] at whole
  have all : valueOf (digits d.coefficient ++ List.replicate d.exponent.toNat '0' ++ ['0']) =
      10 * (d.coefficient * 10 ^ d.exponent.toNat) := by
    rw [← whole]
    unfold valueOf
    rw [List.foldl_append]
    rfl
  refine ⟨if_pos natural, by omega, ?_, by simp, by omega⟩
  rw [all, value]
  push_cast
  simp

/-- Any other decimal has its last digits behind the point. -/
theorem splits_of_broken {d : Decimal} (broken : ¬ 0 ≤ d.exponent) (order : 0 ≤ d.order)
    (most : d.value < 32) :
    Splits d ((digits d.coefficient).take ((digits d.coefficient).length - (-d.exponent).toNat))
      ((digits d.coefficient).drop ((digits d.coefficient).length - (-d.exponent).toNat)) := by
  unfold Decimal.order at order
  have joined := List.take_append_drop
    ((digits d.coefficient).length - (-d.exponent).toNat) (digits d.coefficient)
  have places : ((digits d.coefficient).drop
      ((digits d.coefficient).length - (-d.exponent).toNat)).length = (-d.exponent).toNat := by
    rw [List.length_drop]
    omega
  have value : d.value = (d.coefficient : Rat) / 10 ^ (-d.exponent).toNat := by
    unfold Decimal.value
    rw [Number.Magnitude.zpow_eq_div (by norm_num), show d.exponent.toNat = 0 by omega]
    ring
  have whole := Number.valueOf_append_ge
    ((digits d.coefficient).take ((digits d.coefficient).length - (-d.exponent).toNat))
    ((digits d.coefficient).drop ((digits d.coefficient).length - (-d.exponent).toNat))
  rw [joined, places, Number.valueOf_digits] at whole
  refine ⟨?_, ?_, ?_, ?_, ?_⟩
  · unfold positionalNumeral
    dsimp only
    rw [if_neg broken, if_pos (by omega)]
  · have bound : (d.coefficient : Rat) < 32 * 10 ^ (-d.exponent).toNat := by
      rw [value, div_lt_iff₀ (by positivity)] at most
      exact most
    have bound : d.coefficient < 32 * 10 ^ (-d.exponent).toNat := by exact_mod_cast bound
    exact Nat.lt_of_mul_lt_mul_right (whole.trans_lt bound)
  · rw [joined, places, Number.valueOf_digits, value]
  · rw [places]
    omega
  · rw [joined, Number.valueOf_digits]
    omega

theorem exists_splits {d : Decimal} (least : 2 < d.value) (most : d.value < 32) :
    ∃ whole fraction, Splits d whole fraction := by
  by_cases natural : 0 ≤ d.exponent
  · exact ⟨_, _, splits_of_natural natural most⟩
  · exact ⟨_, _, splits_of_broken natural (order_bounds least most).1 most⟩

/-- The digits lie in the rounding interval of the double, so between the powers of two around it. -/
theorem shortest_bounds (hx : Number.Double.of x = .finite false m) (lower : 2 ^ 52 ≤ m.mantissa)
    (low : -50 ≤ m.exponent) (high : m.exponent ≤ -48) :
    2 < m.shortest.value ∧ m.shortest.value < 32 := by
  obtain ⟨upper, _, _, lopsided, _⟩ := Number.bits_of_double hx lower
  have near := m.near_shortest (by omega) (lopsided.trans (and_iff_left (by omega)))
  have two : (1 : Rat) < 2 := one_lt_two
  constructor
  · refine lt_of_le_of_lt ?_ (near.least lower)
    exact (zpow_one (2 : Rat)).symm.le.trans (zpow_le_zpow_right₀ two.le (by omega))
  · refine lt_of_lt_of_le (near.greatest upper) ?_
    have : (2 : Rat) ^ (53 + m.exponent) ≤ 2 ^ (5 : Int) := zpow_le_zpow_right₀ two.le (by omega)
    rw [zpow_ofNat] at this
    linarith

/-- Digits of a number below `2 ^ 53` are divided by their power of ten, and only the quotient is
rounded. -/
theorem real?_of_splits {whole fraction : List Char} (hx : Number.Double.of x = .finite false m)
    (lower : 2 ^ 52 ≤ m.mantissa) (low : -50 ≤ m.exponent) (least : 2 < m.shortest.value)
    (short : m.shortest.coefficient < 2 ^ 53) (nonempty : fraction ≠ [])
    (splits : Splits m.shortest whole fraction) :
    (Numeral.mk false whole (some fraction) none).real? = some x := by
  have places := splits.places
  have bound := splits.bound
  have fits : valueOf (whole ++ fraction) < 2 ^ 53 := by omega
  have count : (digits m.shortest.coefficient).length ≤ 16 :=
    (Nat.length_toDigits_le_iff (by decide) (by decide)).2 (short.trans (by decide))
  have pos : 0 < valueOf (whole ++ fraction) := by
    rw [Nat.pos_iff_ne_zero]
    intro zero
    rw [splits.value, zero, Nat.cast_zero, zero_div] at least
    linarith
  unfold Numeral.real?
  rw [parts_eq (fits.trans (by decide))]
  dsimp only
  rw [scaled?_neg _ _ (List.length_pos_iff.2 nonempty) (by omega),
    Number.div_shortest hx lower (by omega) pos fits (by omega) splits.value]
  rfl

/-- The text of a double between 2 and 32 has a point in it, and if its digits are those of a number
below `2 ^ 53` they are read back as the double. -/
theorem literal_read_back (hx : Number.Double.of x = .finite false m) (lower : 2 ^ 52 ≤ m.mantissa)
    (low : -50 ≤ m.exponent) (high : m.exponent ≤ -48) : ∃ numeral : Numeral, ∃ y, numeral.Proper ∧
      (HeatingHub.Number.literal x).toList = numeral.spelling ∧
      numeral.number? = some (.real y) ∧ (m.shortest.coefficient < 2 ^ 53 → y = x) := by
  obtain ⟨least, most⟩ := shortest_bounds hx lower low high
  have order := order_bounds least most
  have proper := proper_positional false m.trimmed_shortest
  obtain ⟨whole, fraction, splits⟩ := exists_splits least most
  have digit : AreDigits fraction := by
    rw [splits.positional] at proper
    exact proper.fraction fraction rfl
  obtain ⟨y, read⟩ := number?_of_fraction (splits.small.trans (by decide)) digit
  refine ⟨positionalNumeral false m.shortest, y, proper, ?_, splits.positional ▸ read, ?_⟩
  · have plain : m.shortest.literal = m.shortest.positional ['.', '0'] :=
      if_pos (.inr ⟨by omega, by omega⟩)
    rw [spelling_positional, ← plain]
    simp [HeatingHub.Number.literal, hx, Number.Double.text]
  · intro short
    have real := real?_of_splits hx lower low least short digit.1 splits
    change ((Numeral.mk false whole (some fraction) none).real?.map Number.real) = _ at read
    rw [real] at read
    exact (Number.real.inj (Option.some.inj read)).symm

end Doubles

end Json

end HeatingHub

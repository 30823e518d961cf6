import HeatingHub.Calendar.Date
import Mathlib.Algebra.Ring.Nat
import Mathlib.Data.List.Basic

/-!
# Dates told by their texts

The civil day of a date says which date it is, and so does its text: month and day of the month
always have two digits, so that the year is what stands before them.
-/

namespace HeatingHub

/-! ## Numerals -/

namespace Number

theorem valueOf_digits (n : Nat) : valueOf (digits n) = n :=
  Nat.ofDigitChars_toDigits (by decide) (by decide)

theorem valueOf_padded (width n : Nat) : valueOf (padded width n) = n := by
  have zeros (k : Nat) : valueOf (List.replicate k '0') = 0 := by
    induction k with
    | zero => rfl
    | succ k ih => exact ih
  unfold padded valueOf
  rw [List.foldl_append]
  exact (congrArg (List.foldl pushDigit · _) (zeros _)).trans (valueOf_digits n)

theorem padded_injective {width n m : Nat} (h : padded width n = padded width m) : n = m := by
  have values := congrArg valueOf h
  rwa [valueOf_padded, valueOf_padded] at values

theorem length_padded {width n : Nat} (pos : 0 < width) (h : n < 10 ^ width) :
    (padded width n).length = width := by
  have short : (digits n).length ≤ width := (Nat.length_toDigits_le_iff (by decide) pos).2 h
  unfold padded
  rw [List.length_append, List.length_replicate]
  omega

theorem isDigit_of_mem_padded {width n : Nat} {c : Char} (h : c ∈ padded width n) :
    c.isDigit := by
  rcases List.mem_append.1 h with h | h
  · rw [List.eq_of_mem_replicate h]
    rfl
  · exact Nat.isDigit_of_mem_toDigits (by decide) (by decide) h

end Number

namespace Calendar

/-! ## Years -/

theorem daysBefore_cycle (cycle : Int) {centuries fours years : Nat} (hc : centuries ≤ 3)
    (hf : fours ≤ 24) (hy : years ≤ 3) :
    daysBefore (400 * cycle + (100 * centuries + 4 * fours + years : Nat) + 1) =
      146097 * cycle + 36524 * centuries + 1461 * fours + 365 * years := by
  unfold daysBefore
  dsimp only
  omega

/-- The last year of four is a leap year, but for that of a century that is not the last of its
cycle. -/
theorem isLeap_cycle (cycle : Int) {centuries fours years : Nat} (hc : centuries ≤ 3)
    (hf : fours ≤ 24) (hy : years ≤ 3) :
    isLeap (400 * cycle + (100 * centuries + 4 * fours + years : Nat) + 1) = true ↔
      years = 3 ∧ (fours = 24 → centuries = 3) := by
  simp only [isLeap, Bool.and_eq_true, Bool.or_eq_true, beq_iff_eq, bne_iff_ne]
  omega

theorem total_monthLengths (year : Int) :
    total (monthLengths year) = if isLeap year then 366 else 365 := by
  unfold monthLengths
  split <;> rfl

/-- The day of the year is one that the year has, and gives the date together with the year. -/
theorem yearAndDay_spec (d : Date) : d.day = daysBefore d.yearAndDay.1 + d.yearAndDay.2 ∧
    d.yearAndDay.2 < total (monthLengths d.yearAndDay.1) := by
  unfold Date.yearAndDay
  dsimp only
  generalize hcycle : d.day / 146097 = cycle
  generalize hn : (d.day % 146097).toNat = n
  generalize hcenturies : min (n / 36524) 3 = centuries
  generalize hfours : (n - 36524 * centuries) / 1461 = fours
  generalize hrest : (n - 36524 * centuries) % 1461 = rest
  generalize hyears : min (rest / 365) 3 = years
  have hc : centuries ≤ 3 := by omega
  have hf : fours ≤ 24 := by omega
  have hy : years ≤ 3 := by omega
  have leap := isLeap_cycle cycle hc hf hy
  rw [daysBefore_cycle cycle hc hf hy, total_monthLengths]
  constructor
  · omega
  · split
    · omega
    · -- the day beyond the 365th would be in the last year of four
      have common : ¬(years = 3 ∧ (fours = 24 → centuries = 3)) := mt leap.2 ‹_›
      omega

/-! ## Months -/

/-- The month that a day of the year is in, and its place in the month. -/
theorem splitMonths_spec {lengths : List Nat} {n : Nat} (month : Nat) (h : n < total lengths) :
    ∃ i length, lengths[i]? = some length ∧ total (lengths.take i) ≤ n ∧
      n < total (lengths.take i) + length ∧
      splitMonths month lengths n = (month + i, n - total (lengths.take i) + 1) := by
  induction lengths generalizing month n with
  | nil => exact absurd h (Nat.not_lt_zero n)
  | cons first rest ih =>
    unfold splitMonths
    by_cases inFirst : n < first
    · exact ⟨0, first, rfl, Nat.zero_le n, by simpa [total] using inFirst, by simp [inFirst, total]⟩
    · have later : n - first < total rest := by
        simp only [total] at h
        omega
      obtain ⟨i, length, found, lower, upper, split⟩ := ih (month + 1) later
      refine ⟨i + 1, length, found, ?_, ?_, ?_⟩
      · simp only [List.take_succ_cons, total]
        omega
      · simp only [List.take_succ_cons, total]
        omega
      · rw [if_neg inFirst, split]
        simp only [List.take_succ_cons, total, Prod.mk.injEq]
        omega

theorem monthLength_le {year : Int} {i length : Nat} (h : (monthLengths year)[i]? = some length) :
    i < 12 ∧ length ≤ 31 := by
  obtain ⟨hi, rfl⟩ := List.getElem?_eq_some_iff.1 h
  refine ⟨hi, ?_⟩
  have all : ∀ l ∈ monthLengths year, l ≤ 31 := by
    unfold monthLengths
    split <;> decide
  exact all _ (List.getElem_mem hi)

/-! ## Civil days -/

/-- The civil day is one that there is, and it is that of the date. -/
theorem civil_spec (d : Date) : ∃ i length, (monthLengths d.civil.year)[i]? = some length ∧
    d.civil.month = i + 1 ∧ 1 ≤ d.civil.day ∧ d.civil.day ≤ length ∧
    d.day = daysBefore d.civil.year + total ((monthLengths d.civil.year).take i) +
      (d.civil.day - 1) := by
  obtain ⟨day, inYear⟩ := yearAndDay_spec d
  obtain ⟨i, length, found, lower, upper, split⟩ := splitMonths_spec 1 inYear
  have civil : d.civil = ⟨d.yearAndDay.1, 1 + i,
      d.yearAndDay.2 - total ((monthLengths d.yearAndDay.1).take i) + 1⟩ := by
    unfold Date.civil
    dsimp only
    rw [split]
  rw [civil]
  refine ⟨i, length, found, Nat.add_comm .., ?_, ?_, ?_⟩
  · dsimp only
    omega
  · dsimp only
    omega
  · dsimp only
    omega

theorem civil_injective {d e : Date} (h : d.civil = e.civil) : d = e := by
  obtain ⟨i, _, _, month, _, _, day⟩ := civil_spec d
  obtain ⟨j, _, _, month', _, _, day'⟩ := civil_spec e
  rw [h] at month day
  obtain rfl : i = j := by omega
  rw [Date.eq_iff, day, day']

/-! ## Texts -/

theorem padded_ne_sign {width n : Nat} {sign : Char} {s : List Char} (h : sign.isDigit = false) :
    Number.padded width n ≠ sign :: s := by
  intro same
  have digit : sign.isDigit := Number.isDigit_of_mem_padded (same ▸ List.mem_cons_self)
  rw [h] at digit
  exact Bool.false_ne_true digit

theorem yearText_injective {year year' : Int} (h : yearText year = yearText year') :
    year = year' := by
  have sign (y : Int) : Char.isDigit (if y < 0 then '-' else '+') = false := by
    split <;> rfl
  unfold yearText at h
  by_cases plain : 0 ≤ year ∧ year ≤ 9999 <;> by_cases plain' : 0 ≤ year' ∧ year' ≤ 9999
  · rw [if_pos plain, if_pos plain'] at h
    have := Number.padded_injective h
    omega
  · rw [if_pos plain, if_neg plain'] at h
    exact absurd h (padded_ne_sign (sign year'))
  · rw [if_neg plain, if_pos plain'] at h
    exact absurd h.symm (padded_ne_sign (sign year))
  · rw [if_neg plain, if_neg plain'] at h
    obtain ⟨signs, digits⟩ := List.cons_eq_cons.1 h
    have := Number.padded_injective digits
    by_cases before : year < 0 <;> by_cases before' : year' < 0 <;>
      simp [before, before'] at signs <;> omega

/-- Month and day of the month have two digits. -/
theorem length_padded_civil (d : Date) : (Number.padded 2 d.civil.month).length = 2 ∧
    (Number.padded 2 d.civil.day).length = 2 := by
  obtain ⟨i, length, found, month, _, day, _⟩ := civil_spec d
  have limits := monthLength_le found
  exact ⟨Number.length_padded (by decide) (by omega), Number.length_padded (by decide) (by omega)⟩

theorem text_injective {d e : Date} (h : d.text = e.text) : d = e := by
  have texts : d.civil.text = e.civil.text := String.ofList_injective h
  have lengths := length_padded_civil d
  have lengths' := length_padded_civil e
  unfold Civil.text at texts
  obtain ⟨front, days⟩ := List.append_inj' texts (by simp [lengths, lengths'])
  obtain ⟨years, months⟩ := List.append_inj' front (by simp [lengths, lengths'])
  apply civil_injective
  have year := yearText_injective years
  have month := Number.padded_injective (List.cons_eq_cons.1 months).2
  have day := Number.padded_injective (List.cons_eq_cons.1 days).2
  show Civil.mk d.civil.year d.civil.month d.civil.day = e.civil
  rw [year, month, day]

end Calendar

end HeatingHub

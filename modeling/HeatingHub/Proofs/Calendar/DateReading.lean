import HeatingHub.Calendar.Reading
import HeatingHub.Proofs.Calendar.DateText
import HeatingHub.Proofs.Number.Digits

/-!
# Dates read back

The text of a date of the calendar's range is read as that date (`readLoose?_text`). The dash before
the month stops a year however many digits it has, and a sign lets it have more than four.
-/

namespace HeatingHub.Calendar

open Number (AreDigits padded valueOf valueOf_padded)

/-! ## Numbers -/

/-- What begins with no digit goes on no number. -/
theorem stops_cons {c : Char} (h : c.isDigit = false) (s : List Char) :
    ∀ d ∈ (c :: s).head?, d.isDigit = false := by
  intro d hd
  obtain rfl := Option.some.inj hd
  exact h

theorem takeDigitsUpTo_append {limit : Nat} {ds rest : List Char}
    (digit : ∀ c ∈ ds, c.isDigit = true) (fits : ds.length ≤ limit)
    (stops : ∀ c ∈ rest.head?, c.isDigit = false) :
    takeDigitsUpTo limit (ds ++ rest) = (ds, rest) := by
  induction ds generalizing limit with
  | nil =>
    cases rest with
    | nil => cases limit <;> rfl
    | cons c rest =>
      cases limit with
      | zero => rfl
      | succ limit => simp [takeDigitsUpTo, stops c rfl]
  | cons c ds ih =>
    obtain ⟨limit, rfl⟩ := Nat.exists_eq_add_of_le' (Nat.one_le_of_lt (Nat.lt_of_succ_le fits))
    have others := ih (fun d hd => digit d (List.mem_cons_of_mem c hd))
      (Nat.le_of_succ_le_succ fits)
    rw [List.cons_append, takeDigitsUpTo, if_pos (digit c List.mem_cons_self), others]

theorem areDigits_padded (width n : Nat) : AreDigits (padded width n) :=
  ⟨List.append_ne_nil_of_right_ne_nil _ (Number.areDigits_digits n).1,
    fun _ => Number.isDigit_of_mem_padded⟩

theorem readUpTo?_padded {limit width n : Nat} {rest : List Char}
    (fits : (padded width n).length ≤ limit) (stops : ∀ c ∈ rest.head?, c.isDigit = false) :
    readUpTo? limit (padded width n ++ rest) = some (n, rest) := by
  obtain ⟨nonempty, digit⟩ := areDigits_padded width n
  unfold readUpTo?
  rw [takeDigitsUpTo_append digit fits stops]
  simp [nonempty, valueOf_padded]

theorem isBlank_of_isDigit {c : Char} (h : c.isDigit = true) : Text.isBlank c = false := by
  have none : ∀ b : Fin 10, Text.isBlank (Char.ofNat ('0'.toNat + b)) = false := by decide
  simp only [Char.isDigit, Bool.and_eq_true, decide_eq_true_eq, ge_iff_le,
    UInt32.le_iff_toNat_le] at h
  have low : 48 ≤ c.toNat := h.1
  have high : c.toNat ≤ 57 := h.2
  have place : '0'.toNat + (c.toNat - 48) = c.toNat := Nat.add_sub_cancel' low
  have digit := none ⟨c.toNat - 48, by omega⟩
  rwa [place, Char.ofNat_toNat] at digit

theorem trimStart_padded (width n : Nat) (rest : List Char) :
    Text.trimStart (padded width n ++ rest) = padded width n ++ rest := by
  obtain ⟨nonempty, digit⟩ := areDigits_padded width n
  obtain ⟨c, ds, head⟩ := List.exists_cons_of_ne_nil nonempty
  rw [head, List.cons_append]
  exact Text.trimStart_cons_of_not_blank (isBlank_of_isDigit (digit c (head ▸ List.mem_cons_self)))

theorem readPair?_padded {n : Nat} {rest : List Char} (fits : (padded 2 n).length ≤ 2)
    (stops : ∀ c ∈ rest.head?, c.isDigit = false) :
    readPair? (padded 2 n ++ rest) = some (n, rest) := by
  unfold readPair?
  rw [trimStart_padded, readUpTo?_padded fits stops]

/-! ## Years -/

section Years

variable {rest : List Char} (stops : ∀ c ∈ rest.head?, c.isDigit = false)

include stops

theorem readYear?_padded {n : Nat} (fits : (padded 4 n).length ≤ 4) :
    readYear? (padded 4 n ++ rest) = some ((n : Int), rest) := by
  obtain ⟨nonempty, digit⟩ := areDigits_padded 4 n
  obtain ⟨c, ds, head⟩ := List.exists_cons_of_ne_nil nonempty
  have read := readUpTo?_padded fits stops
  unfold readYear?
  rw [trimStart_padded]
  rw [head] at digit read ⊢
  split
  case h_1 same => exact absurd (List.cons.inj same).1 (Number.ne_minus_of_areDigits ⟨nofun, digit⟩)
  case h_2 same => exact absurd (List.cons.inj same).1 (Number.ne_plus_of_areDigits ⟨nofun, digit⟩)
  case h_3 =>
    rw [read]
    rfl

/-- A year with a sign has as many digits as there are. -/
theorem readUpTo?_signed (n : Nat) :
    readUpTo? (padded 4 n ++ rest).length (padded 4 n ++ rest) = some (n, rest) :=
  readUpTo?_padded (by simp) stops

theorem readYear?_minus (n : Nat) :
    readYear? ('-' :: (padded 4 n ++ rest)) = some (-(n : Int), rest) := by
  unfold readYear?
  rw [Text.trimStart_cons_of_not_blank (by decide)]
  show (readUpTo? (padded 4 n ++ rest).length (padded 4 n ++ rest)).map _ = _
  rw [readUpTo?_signed stops]
  rfl

theorem readYear?_plus (n : Nat) :
    readYear? ('+' :: (padded 4 n ++ rest)) = some ((n : Int), rest) := by
  unfold readYear?
  rw [Text.trimStart_cons_of_not_blank (by decide)]
  show (readUpTo? (padded 4 n ++ rest).length (padded 4 n ++ rest)).map _ = _
  rw [readUpTo?_signed stops]
  rfl

theorem readYear?_yearText (year : Int) :
    readYear? (yearText year ++ rest) = some (year, rest) := by
  unfold yearText
  by_cases plain : 0 ≤ year ∧ year ≤ 9999
  · have fits : (padded 4 year.natAbs).length ≤ 4 :=
      (Number.length_padded (by decide) (by omega)).le
    rw [if_pos plain, readYear?_padded stops fits, Int.natAbs_of_nonneg plain.1]
  · rw [if_neg plain, List.cons_append]
    by_cases before : year < 0
    · rw [if_pos before, readYear?_minus stops, Int.ofNat_natAbs_of_nonpos before.le, Int.neg_neg]
    · rw [if_neg before, readYear?_plus stops, Int.natAbs_of_nonneg (not_lt.1 before)]

end Years

/-! ## Dates -/

/-- What is skipped before a dash makes no difference where nothing stands there. -/
theorem readCivil?_text {skip : List Char → List Char} (dash : ∀ s, skip ('-' :: s) = '-' :: s)
    (d : Date) {rest : List Char} (stops : ∀ c ∈ rest.head?, c.isDigit = false) :
    readCivil? skip (d.civil.text ++ rest) = some (d.civil, rest) := by
  obtain ⟨month, day⟩ := length_padded_civil d
  have stop (s : List Char) : ∀ c ∈ ('-' :: s).head?, c.isDigit = false := stops_cons rfl s
  unfold readCivil? Civil.text
  simp only [List.append_assoc, List.cons_append, readYear?_yearText (stop _),
    readPair?_padded month.le (stop _), readPair?_padded day.le stops, dash, expect?,
    Option.bind_eq_bind, Option.bind_some, if_true]
  rfl

theorem ofCivil?_civil {d : Date} (h : d.inRange = true) : Date.ofCivil? d.civil = some d := by
  obtain ⟨i, length, found, month, low, high, day⟩ := civil_spec d
  have range : yearInRange d.civil.year = true := h
  have index : d.civil.month - 1 = i := by omega
  unfold Date.ofCivil?
  rw [index, found]
  dsimp only
  rw [if_pos ⟨range, by omega, low, high⟩, ← day]

theorem readLoose?_text {d : Date} (h : d.inRange = true) : Date.readLoose? d.text = some d := by
  unfold Date.readLoose? Date.text
  have dash (s : List Char) : Text.trimStart ('-' :: s) = '-' :: s :=
    Text.trimStart_cons_of_not_blank (by decide)
  have alone : readCivil? Text.trimStart (d.civil.text ++ []) = _ := readCivil?_text dash d nofun
  rw [List.append_nil] at alone
  rw [String.toList_ofList, alone]
  exact ofCivil?_civil h

end HeatingHub.Calendar

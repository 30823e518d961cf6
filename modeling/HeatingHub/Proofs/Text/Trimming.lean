import HeatingHub.Text.Blank
import Mathlib.Data.List.TakeWhile

/-!
# Trimmed texts

Blanks at the end of a text make no difference to what is left of it when it is trimmed, and what
stands between two characters that are not blank is kept.
-/

namespace HeatingHub.Text

/-- Nothing but blanks. -/
def AllBlank (s : List Char) : Prop := ∀ c ∈ s, isBlank c = true

instance (s : List Char) : Decidable (AllBlank s) := List.decidableBAll (isBlank · = true) s

variable {s t : List Char} {c : Char}

theorem trimStart_append (h : AllBlank s) : trimStart (s ++ t) = trimStart t :=
  List.dropWhile_append_of_pos h

theorem trimStart_eq_nil (h : AllBlank s) : trimStart s = [] := List.dropWhile_eq_nil_iff.2 h

theorem AllBlank.reverse (h : AllBlank s) : AllBlank s.reverse :=
  fun c hc => h c (List.mem_reverse.1 hc)

theorem trimEnd_append (h : AllBlank t) : trimEnd (s ++ t) = trimEnd s := by
  unfold trimEnd
  rw [List.reverse_append, List.dropWhile_append_of_pos h.reverse]

theorem trimEnd_append_cons (h : isBlank c = false) : trimEnd (s ++ c :: t) = s ++ c :: trimEnd t := by
  unfold trimEnd
  rw [List.reverse_append, List.reverse_cons, List.append_assoc, List.dropWhile_append]
  split
  case isTrue blank => simp [List.isEmpty_iff.1 blank, h]
  case isFalse => simp

theorem exists_blanks_behind_trimEnd (s : List Char) : ∃ t, AllBlank t ∧ s = trimEnd s ++ t := by
  refine ⟨(s.reverse.takeWhile isBlank).reverse, ?_, ?_⟩
  · intro c hc
    exact List.mem_takeWhile_imp (List.mem_reverse.1 hc)
  · rw [trimEnd, ← List.reverse_append, List.takeWhile_append_dropWhile, List.reverse_reverse]

theorem trim_append (h : AllBlank t) : trim (s ++ t) = trim s := by
  unfold trim trimStart
  rw [List.dropWhile_append]
  split
  case isTrue blank => rw [List.isEmpty_iff.1 blank, List.dropWhile_eq_nil_iff.2 h]
  case isFalse => exact trimEnd_append h

theorem trim_trimEnd (s : List Char) : trim (trimEnd s) = trim s := by
  obtain ⟨t, blank, split⟩ := exists_blanks_behind_trimEnd s
  calc
    trim (trimEnd s) = trim (trimEnd s ++ t) := (trim_append blank).symm
    _ = trim s := congrArg trim split.symm

/-- Blanks in front of a text that begins with another character are all that is taken away
there. -/
theorem trim_append_cons (hs : AllBlank s) (hc : isBlank c = false) :
    trim (s ++ c :: t) = c :: trimEnd t := by
  unfold trim
  rw [trimStart_append hs, trimStart_cons_of_not_blank hc]
  exact trimEnd_append_cons (s := []) hc

theorem trim_eq_self (h : ∀ c ∈ s, isBlank c = false) : trim s = s := by
  have start : trimStart s = s := by
    cases s with
    | nil => rfl
    | cons c s => exact trimStart_cons_of_not_blank (h c List.mem_cons_self)
  obtain ⟨t, blank, split⟩ := exists_blanks_behind_trimEnd s
  cases t with
  | nil => rw [trim, start, ← List.append_nil (trimEnd s), ← split]
  | cons c t =>
    have solid : isBlank c = false := h c (split ▸ List.mem_append_right _ List.mem_cons_self)
    exact absurd (blank c List.mem_cons_self) (Bool.eq_false_iff.1 solid)

end HeatingHub.Text

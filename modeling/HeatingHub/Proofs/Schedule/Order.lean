import HeatingHub.Schedule
import Mathlib.Data.List.Basic

/-!
# The slots of a day in order

Arranging a day sorts its slots stably, so the last slot of an arranged day is known from the day
as it was: it is the last one of those that start last. The same holds among the slots that meet
a condition.
-/

namespace HeatingHub

open Calendar (ClockTime Weekday)

theorem filter_place (s : Slot) (slots : List Slot) (start : ClockTime) :
    (place s slots).filter (·.start = start) = (s :: slots).filter (·.start = start) := by
  induction slots with
  | nil => rfl
  | cons t rest ih =>
    unfold place
    split
    case isTrue => rfl
    case isFalse later =>
      rw [List.filter_cons]
      by_cases hs : s.start = start
      · -- `t` starts earlier than `s`, and so is not among the slots that count
        have ht : t.start ≠ start := by
          rintro rfl
          exact later (ClockTime.le_iff.2 (Nat.le_of_eq (congrArg _ hs)))
        simpa [ht, hs] using ih
      · have tail : (place s rest).filter (·.start = start) = rest.filter (·.start = start) := by
          simpa [hs] using ih
        rw [tail]
        simp [hs, List.filter_cons]

/-- Slots with the same start stay in the order they had. -/
theorem filter_arrange (slots : List Slot) (start : ClockTime) :
    (arrange slots).filter (·.start = start) = slots.filter (·.start = start) := by
  induction slots with
  | nil => rfl
  | cons s rest ih =>
    show (place s (arrange rest)).filter (·.start = start) = _
    rw [filter_place, List.filter_cons, List.filter_cons, ih]

theorem day_ofDays (days : Vector (List Slot) 7) (w : Weekday) :
    (TimeProgram.ofDays days).day w = arrange (days.get w) := by
  show (days.map arrange)[w.val] = arrange days[w.val]
  rw [Vector.getElem_map]

theorem arrange_eq_nil {slots : List Slot} : arrange slots = [] ↔ slots = [] := by
  constructor
  · intro h
    exact List.nil_perm.1 (h ▸ arrange_perm slots)
  · rintro rfl
    rfl

theorem place_eq_cons {s : Slot} {slots : List Slot} (h : InOrder (s :: slots)) :
    place s slots = s :: slots := by
  cases slots with
  | nil => rfl
  | cons t rest => exact if_pos (List.rel_of_pairwise_cons h List.mem_cons_self)

/-- What is in order stays as it is. -/
theorem arrange_eq_self {slots : List Slot} (h : InOrder slots) : arrange slots = slots := by
  induction slots with
  | nil => rfl
  | cons s rest ih =>
    show place s (arrange rest) = _
    rw [ih h.of_cons, place_eq_cons h]

/-- Every program is one that is given day by day. -/
theorem ofDays_days (p : TimeProgram) : TimeProgram.ofDays p.days = p := by
  obtain ⟨days, inOrder⟩ := p
  unfold TimeProgram.ofDays
  congr 1
  ext w hw : 1
  rw [Vector.getElem_map]
  exact arrange_eq_self (inOrder ⟨w, hw⟩)

/-! ## The last slot -/

section

variable {slots : List Slot} {p : Slot → Bool} {s : Slot}

/-- The slot at the end starts no earlier than the others. -/
theorem start_le_of_getLast? (h : ((arrange slots).filter p).getLast? = some s) {t : Slot}
    (mem : t ∈ slots) (ht : p t) : t.start ≤ s.start := by
  obtain ⟨front, split⟩ := List.getLast?_eq_some_iff.1 h
  have sorted : InOrder (front ++ [s]) := split ▸ (inOrder_arrange slots).filter p
  have mem : t ∈ front ++ [s] :=
    split ▸ List.mem_filter.2 ⟨(arrange_perm slots).mem_iff.2 mem, ht⟩
  rcases List.mem_append.1 mem with mem | mem
  · exact (List.pairwise_append.1 sorted).2.2 t mem s List.mem_cons_self
  · rw [List.mem_singleton.1 mem]
    exact Nat.le_refl _

/-- Of the slots that start together with the one at the end, that one was the last before. -/
theorem getLast?_ties (h : ((arrange slots).filter p).getLast? = some s) :
    ((slots.filter (·.start = s.start)).filter p).getLast? = some s := by
  obtain ⟨front, split⟩ := List.getLast?_eq_some_iff.1 h
  have commuted : ((arrange slots).filter (·.start = s.start)).filter p =
      ((arrange slots).filter p).filter (·.start = s.start) := by
    simp only [List.filter_filter, Bool.and_comm]
  rw [← filter_arrange, commuted, split]
  simp

theorem exists_split_of_getLast? {as : List Slot} (h : (as.filter p).getLast? = some s) :
    ∃ before after, as = before ++ s :: after ∧ p s ∧ ∀ t ∈ after, p t = false := by
  obtain ⟨front, split⟩ := List.getLast?_eq_some_iff.1 h
  obtain ⟨as₁, as₂, rfl, -, last⟩ := List.filter_eq_append_iff.1 split
  obtain ⟨before, after, rfl, -, hs, none⟩ := List.filter_eq_cons_iff.1 last
  refine ⟨as₁ ++ before, after, (List.append_assoc ..).symm, hs, fun t ht => ?_⟩
  simpa using List.filter_eq_nil_iff.1 none t ht

theorem getElem_mem_of_split {α : Type} {before after : List α} {a : α} {k : Nat}
    (hk : k < (before ++ a :: after).length) (later : before.length < k) :
    (before ++ a :: after)[k] ∈ after := by
  obtain ⟨n, rfl⟩ := Nat.exists_eq_add_of_lt later
  have behind : before.length + n + 1 - before.length = n + 1 := by omega
  rw [List.getElem_append_right (by omega)]
  simp only [behind, List.getElem_cons_succ]
  exact List.getElem_mem _

/-- Of the slots that meet a condition, the one that an arranged day has at the end starts last;
and where several start last, it is the last of these in the day as it was. -/
theorem exists_place_of_getLast? (h : ((arrange slots).filter p).getLast? = some s) :
    ∃ i : Fin slots.length, slots[i] = s ∧ p s ∧ ∀ j : Fin slots.length, p slots[j] →
      slots[j].start < s.start ∨ slots[j].start = s.start ∧ j.val ≤ i.val := by
  have ties := getLast?_ties h
  rw [List.filter_filter] at ties
  obtain ⟨before, after, rfl, hs, others⟩ := exists_split_of_getLast? ties
  refine ⟨⟨before.length, by simp⟩, by simp, (Bool.and_eq_true_iff.1 hs).1, fun j hj => ?_⟩
  rcases Nat.lt_or_eq_of_le (start_le_of_getLast? h (List.getElem_mem j.isLt) hj) with lt | eq
  · exact .inl lt
  · have eq : (before ++ s :: after)[j].start = s.start := ClockTime.rank_injective eq
    refine .inr ⟨eq, Nat.le_of_not_lt fun later => ?_⟩
    -- a slot behind `s` would both meet the condition and start with it
    have none := others _ (getElem_mem_of_split j.isLt later)
    rw [← Fin.getElem_fin, hj, decide_eq_true eq] at none
    cases none

end

/-! ## The first slot -/

section

variable {slots : List Slot} {p : Slot → Bool} {s : Slot}

/-- The slot that is found first starts no later than the others. -/
theorem start_le_of_find? (h : (arrange slots).find? p = some s) {t : Slot} (mem : t ∈ slots)
    (ht : p t) : s.start ≤ t.start := by
  obtain ⟨-, before, after, split, skipped⟩ := List.find?_eq_some_iff_append.1 h
  have sorted : InOrder (before ++ s :: after) := split ▸ inOrder_arrange slots
  have mem : t ∈ before ++ s :: after := split ▸ (arrange_perm slots).mem_iff.2 mem
  rcases List.mem_append.1 mem with mem | mem
  · have skipped := skipped t mem
    simp [ht] at skipped
  · rcases List.mem_cons.1 mem with rfl | mem
    · exact Nat.le_refl _
    · exact List.rel_of_pairwise_cons (List.pairwise_append.1 sorted).2.1 mem

/-- Of the slots that start together with the one that is found, that one was the first before. -/
theorem find?_ties (h : (arrange slots).find? p = some s) :
    (slots.filter (·.start = s.start)).find? p = some s := by
  obtain ⟨hs, before, after, split, skipped⟩ := List.find?_eq_some_iff_append.1 h
  rw [← filter_arrange, List.find?_filter, List.find?_eq_some_iff_append]
  refine ⟨by simp [hs], before, after, split, fun t mem => ?_⟩
  have skipped := skipped t mem
  simp_all

/-- Of the slots that meet a condition, the one that is found in an arranged day starts first; and
where several start first, it is the first of these in the day as it was. -/
theorem exists_place_of_find? (h : (arrange slots).find? p = some s) :
    ∃ i : Fin slots.length, slots[i] = s ∧ p s ∧ ∀ j : Fin slots.length, p slots[j] →
      s.start < slots[j].start ∨ s.start = slots[j].start ∧ i.val ≤ j.val := by
  have ties := find?_ties h
  rw [List.find?_filter] at ties
  obtain ⟨hs, i, hi, rfl, skipped⟩ := List.find?_eq_some_iff_getElem.1 ties
  refine ⟨⟨i, hi⟩, rfl, (of_decide_eq_true hs).2, fun j hj => ?_⟩
  rcases Nat.lt_or_eq_of_le (start_le_of_find? h (List.getElem_mem j.isLt) hj) with lt | eq
  · exact .inl lt
  · have eq : slots[i].start = slots[j].start := ClockTime.rank_injective eq
    refine .inr ⟨eq, Nat.le_of_not_lt fun earlier => ?_⟩
    -- a slot in front of the one found would both meet the condition and start with it
    have skipped := skipped j earlier
    rw [← Fin.getElem_fin, ← eq, hj] at skipped
    simp at skipped

end

end HeatingHub

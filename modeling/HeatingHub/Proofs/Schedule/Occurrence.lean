import HeatingHub.Proofs.Schedule.Order
import Mathlib.Order.Bounds.Basic

/-!
# The slot in force

A weekly program repeats without an end, also into the past: each slot of a weekday begins on
every date that falls on that day. The slot in force is that of the latest beginning so far.
-/

namespace HeatingHub

open Calendar (ClockTime Date Moment Weekday)

/-! ## Occurrences -/

/-- A slot of a program, given day by day, on a date that falls on the slot's day. -/
structure Occurrence (days : Vector (List Slot) 7) where
  date : Date
  place : Fin (days.get date.weekday).length

namespace Occurrence

variable {days : Vector (List Slot) 7}

def slot (o : Occurrence days) : Slot := (days.get o.date.weekday)[o.place]

def begins (o : Occurrence days) : Moment := ⟨o.date, o.slot.start⟩

/-- Occurrences are ordered by their beginnings, those that begin together as they are listed. -/
instance : LE (Occurrence days) where
  le a b := a.begins < b.begins ∨ a.begins = b.begins ∧ a.place.val ≤ b.place.val

theorem le_iff {a b : Occurrence days} :
    a ≤ b ↔ a.begins < b.begins ∨ a.begins = b.begins ∧ a.place.val ≤ b.place.val := Iff.rfl

theorem le_antisymm {a b : Occurrence days} (hab : a ≤ b) (hba : b ≤ a) : a = b := by
  rw [le_iff, Moment.lt_iff] at hab hba
  obtain ⟨date, place⟩ := a
  obtain ⟨date', place'⟩ := b
  have together : date = date' ∧ place.val = place'.val := by
    rcases hab with earlier | ⟨together, hab⟩
    · rcases hba with later | ⟨together, -⟩
      · omega
      · rw [together] at earlier
        omega
    · rcases hba with later | ⟨-, hba⟩
      · rw [together] at later
        omega
      · exact ⟨congrArg Moment.date together, Nat.le_antisymm hab hba⟩
  obtain ⟨rfl, places⟩ := together
  rw [Fin.ext places]

theorem begins_le_iff {o : Occurrence days} {now : Moment} :
    o.begins ≤ now ↔ o.date < now.date ∨ o.date = now.date ∧ o.slot.start ≤ now.time :=
  Moment.le_iff_date_time

/-- Of two occurrences on different dates the one of the earlier date comes first. -/
theorem le_of_date_lt {a b : Occurrence days} (h : a.date < b.date) : a ≤ b :=
  .inl (Moment.lt_iff_date_time.2 (.inl h))

theorem mem_slot (o : Occurrence days) : o.slot ∈ days.get o.date.weekday :=
  List.getElem_mem _

theorem day_ne_nil (o : Occurrence days) : days.get o.date.weekday ≠ [] :=
  List.ne_nil_of_mem o.mem_slot

/-- The slot that an arranged day has at the end, of those that meet a condition, comes after the
other such occurrences on a date of that day. -/
theorem exists_last_of_getLast? {date : Date} {p : Slot → Bool} {s : Slot}
    (h : ((arrange (days.get date.weekday)).filter p).getLast? = some s) :
    ∃ o : Occurrence days, o.date = date ∧ o.slot = s ∧ p s ∧
      ∀ o' : Occurrence days, o'.date = date → p o'.slot → o' ≤ o := by
  obtain ⟨i, rfl, hp, last⟩ := exists_place_of_getLast? h
  refine ⟨⟨date, i⟩, rfl, rfl, hp, ?_⟩
  rintro ⟨_, j⟩ rfl hj
  rcases last j hj with earlier | ⟨together, listed⟩
  · exact .inl (Moment.lt_iff_date_time.2 (.inr ⟨rfl, earlier⟩))
  · exact .inr ⟨congrArg (Moment.mk _) together, listed⟩

end Occurrence

/-! ## The search through the week -/

theorem findSome?_range'_eq_some {β : Type} {f : Nat → Option β} {b : β} {first n : Nat}
    (h : (List.range' first n).findSome? f = some b) :
    ∃ k, first ≤ k ∧ k < first + n ∧ f k = some b ∧ ∀ j, first ≤ j → j < k → f j = none := by
  obtain ⟨before, k, after, split, found, earlier⟩ := List.findSome?_eq_some_iff.1 h
  obtain ⟨m, hm, rfl, rest⟩ := List.range'_eq_append_iff.1 split
  obtain ⟨rfl, hk, -⟩ := List.range'_eq_cons_iff.1 rest.symm
  refine ⟨_, by omega, by omega, found, fun j hj hlt => earlier j ?_⟩
  rw [List.mem_range'_1]
  omega

/-- Each weekday is that of one of the seven dates before a date. -/
theorem exists_weekday_before (date : Date) (w : Weekday) :
    ∃ back ∈ List.range' 1 7, (date.addDays (-(back : Int))).weekday = w := by
  refine ⟨((date.day - w.val - 1) % 7).toNat + 1, ?_, ?_⟩
  · rw [List.mem_range'_1]
    omega
  · apply Fin.ext
    simp only [Date.weekday, Date.addDays]
    omega

namespace TimeProgram

variable {days : Vector (List Slot) 7} {now : Moment}

/-- If nothing has begun today and the days before have no slots, what has begun did so earlier. -/
theorem date_le_of_empty {back : Nat}
    (today : ((arrange (days.get now.date.weekday)).filter (·.start ≤ now.time)).getLast? = none)
    (empty : ∀ j : Nat, 1 ≤ j → j < back →
      (arrange (days.get (now.date.addDays (-(j : Int))).weekday)).getLast? = none)
    {o : Occurrence days} (begun : o.begins ≤ now) : o.date ≤ now.date.addDays (-(back : Int)) := by
  by_contra later
  rw [Date.le_iff, Date.addDays_day] at later
  rcases Occurrence.begins_le_iff.1 begun with earlier | ⟨same, begun⟩
  · rw [Date.lt_iff] at earlier
    have date : now.date.addDays (-((now.date.day - o.date.day).toNat : Int)) = o.date := by
      rw [Date.eq_iff, Date.addDays_day]
      omega
    have none := empty (now.date.day - o.date.day).toNat (by omega) (by omega)
    rw [date] at none
    exact o.day_ne_nil (arrange_eq_nil.1 (List.getLast?_eq_none_iff.1 none))
  · rw [← same] at today
    have mem : o.slot ∈ (arrange _).filter (·.start ≤ now.time) :=
      List.mem_filter.2 ⟨(arrange_perm _).mem_iff.2 o.mem_slot, decide_eq_true begun⟩
    exact List.ne_nil_of_mem mem (List.getLast?_eq_none_iff.1 today)

theorem exists_latest_of_settingAt {s : Slot} (h : (ofDays days).settingAt now = some s) :
    ∃ o : Occurrence days, IsGreatest {o | o.begins ≤ now} o ∧ o.slot = s := by
  unfold settingAt at h
  simp only [day_ofDays] at h
  split at h
  case h_1 today =>
    obtain rfl := Option.some.inj h
    obtain ⟨o, date, rfl, begun, last⟩ := Occurrence.exists_last_of_getLast? today
    have begun := of_decide_eq_true begun
    refine ⟨o, ⟨Occurrence.begins_le_iff.2 (.inr ⟨date, begun⟩), fun o' ho' => ?_⟩, rfl⟩
    rcases Occurrence.begins_le_iff.1 ho' with earlier | ⟨same, begun'⟩
    · exact Occurrence.le_of_date_lt (date ▸ earlier)
    · exact last o' same (decide_eq_true begun')
  case h_2 today =>
    obtain ⟨back, hback, -, found, empty⟩ := findSome?_range'_eq_some h
    rw [← List.filter_true (arrange _)] at found
    obtain ⟨o, date, rfl, -, last⟩ := Occurrence.exists_last_of_getLast? found
    refine ⟨o, ⟨Occurrence.begins_le_iff.2 (.inl ?_), fun o' ho' => ?_⟩, rfl⟩
    · rw [date, Date.lt_iff, Date.addDays_day]
      omega
    · rcases Int.lt_or_eq_of_le (date_le_of_empty today empty ho') with earlier | same
      · exact Occurrence.le_of_date_lt (date ▸ earlier)
      · exact last o' (Date.eq_iff.2 same) rfl

theorem settingAt_eq_none_iff :
    (ofDays days).settingAt now = none ↔ ∀ w, days.get w = [] := by
  constructor
  · intro h w
    obtain ⟨back, mem, rfl⟩ := exists_weekday_before now.date w
    unfold settingAt at h
    simp only [day_ofDays] at h
    split at h
    · cases h
    · have empty := List.findSome?_eq_none_iff.1 h back mem
      exact arrange_eq_nil.1 (List.getLast?_eq_none_iff.1 empty)
  · intro h
    cases found : (ofDays days).settingAt now with
    | none => rfl
    | some s =>
      obtain ⟨o, -, -⟩ := exists_latest_of_settingAt found
      exact absurd (h _) o.day_ne_nil

/-- The slot in force is that of the latest occurrence so far, and there is none only when the
program has no slots at all. -/
theorem settingAt_latest (days : Vector (List Slot) 7) (now : Moment) :
    (∀ s, (ofDays days).settingAt now = some s ↔
      ∃ o : Occurrence days, IsGreatest {o | o.begins ≤ now} o ∧ o.slot = s) ∧
    ((ofDays days).settingAt now = none ↔ ∀ w, days.get w = []) := by
  refine ⟨fun s => ⟨exists_latest_of_settingAt, ?_⟩, settingAt_eq_none_iff⟩
  rintro ⟨o, latest, rfl⟩
  cases found : (ofDays days).settingAt now with
  | none => exact absurd (settingAt_eq_none_iff.1 found _) o.day_ne_nil
  | some s =>
    obtain ⟨o', latest', rfl⟩ := exists_latest_of_settingAt found
    rw [Occurrence.le_antisymm (latest.2 latest'.1) (latest'.2 latest.1)]

/-- Of two slots at noon on Tuesdays, the second is in force on Monday morning. -/
example :
    let first : Slot := ⟨⟨43200, 0, by omega, by omega⟩, none, some .on⟩
    let second : Slot := ⟨⟨43200, 0, by omega, by omega⟩, none, some .off⟩
    (ofDays #v[[], [first, second], [], [], [], [], []]).settingAt
      ⟨⟨0⟩, ⟨28800, 0, by omega, by omega⟩⟩ = some second := by
  decide +kernel

end TimeProgram

end HeatingHub

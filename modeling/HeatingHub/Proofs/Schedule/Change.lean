import HeatingHub.Proofs.Schedule.Occurrence

/-!
# The next change

The next slot of a weekly program is that of the first occurrence after a moment, and until it
begins the slot in force stays the same. Of slots that begin together the first is announced as
the next one, while the last of them comes into force.
-/

namespace HeatingHub

open Calendar (ClockTime Date Moment Weekday)

/-! ## Occurrences to come -/

namespace Occurrence

variable {days : Vector (List Slot) 7}

theorem lt_begins_iff {o : Occurrence days} {now : Moment} :
    now < o.begins ↔ now.date < o.date ∨ now.date = o.date ∧ now.time < o.slot.start :=
  Moment.lt_iff_date_time

/-- The slot that is found in an arranged day, of those that meet a condition, comes before the
other such occurrences on a date of that day. -/
theorem exists_first_of_find? {date : Date} {p : Slot → Bool} {s : Slot}
    (h : (arrange (days.get date.weekday)).find? p = some s) :
    ∃ o : Occurrence days, o.date = date ∧ o.slot = s ∧ p s ∧
      ∀ o' : Occurrence days, o'.date = date → p o'.slot → o ≤ o' := by
  obtain ⟨i, rfl, hp, first⟩ := exists_place_of_find? h
  refine ⟨⟨date, i⟩, rfl, rfl, hp, ?_⟩
  rintro ⟨_, j⟩ rfl hj
  rcases first j hj with later | ⟨together, listed⟩
  · exact .inl (Moment.lt_iff_date_time.2 (.inr ⟨rfl, later⟩))
  · exact .inr ⟨congrArg (Moment.mk _) together, listed⟩

end Occurrence

/-- Each weekday is that of one of the seven dates after a date. -/
theorem exists_weekday_after (date : Date) (w : Weekday) :
    ∃ ahead ∈ List.range' 1 7, (date.addDays (ahead : Nat)).weekday = w := by
  refine ⟨((w.val - date.day - 1) % 7).toNat + 1, ?_, ?_⟩
  · rw [List.mem_range'_1]
    omega
  · apply Fin.ext
    simp only [Date.weekday, Date.addDays]
    omega

namespace TimeProgram

variable {days : Vector (List Slot) 7} {now t : Moment} {s : Slot}

/-- If nothing is still to begin today and the days after have no slots, what is to come begins
later. -/
theorem le_date_of_empty {ahead : Nat}
    (today : (arrange (days.get now.date.weekday)).find? (now.time < ·.start) = none)
    (empty : ∀ j : Nat, 1 ≤ j → j < ahead →
      (arrange (days.get (now.date.addDays j).weekday)).head? = none)
    {o : Occurrence days} (later : now < o.begins) : now.date.addDays ahead ≤ o.date := by
  by_contra earlier
  rw [Date.le_iff, Date.addDays_day] at earlier
  rcases Occurrence.lt_begins_iff.1 later with later | ⟨same, later⟩
  · rw [Date.lt_iff] at later
    have date : now.date.addDays (o.date.day - now.date.day).toNat = o.date := by
      rw [Date.eq_iff, Date.addDays_day]
      omega
    have none := empty (o.date.day - now.date.day).toNat (by omega) (by omega)
    rw [date, List.head?_eq_none_iff, arrange_eq_nil] at none
    exact o.day_ne_nil none
  · rw [same, List.find?_eq_none] at today
    exact today o.slot ((arrange_perm _).mem_iff.2 o.mem_slot) (decide_eq_true later)

theorem exists_first_of_nextSetting (h : (ofDays days).nextSetting now = some (t, s)) :
    ∃ o : Occurrence days, IsLeast {o | now < o.begins} o ∧ o.begins = t ∧ o.slot = s ∧
      o.date ≤ now.date.addDays 7 := by
  unfold nextSetting at h
  simp only [day_ofDays] at h
  split at h
  case h_1 today =>
    cases h
    obtain ⟨o, date, rfl, later, first⟩ := Occurrence.exists_first_of_find? today
    have later := of_decide_eq_true later
    refine ⟨o, ⟨Occurrence.lt_begins_iff.2 (.inr ⟨date.symm, later⟩), fun o' ho' => ?_⟩,
      congrArg (Moment.mk · _) date, rfl, ?_⟩
    · rcases Occurrence.lt_begins_iff.1 ho' with later' | ⟨same, later'⟩
      · exact Occurrence.le_of_date_lt (date ▸ later')
      · exact first o' same.symm (decide_eq_true later')
    · rw [date, Date.le_iff, Date.addDays_day]
      omega
  case h_2 today =>
    obtain ⟨ahead, _, _, found, empty⟩ := findSome?_range'_eq_some h
    obtain ⟨_, head, pair⟩ := Option.map_eq_some_iff.1 found
    cases pair
    rw [← List.filter_true (arrange _), List.head?_filter] at head
    obtain ⟨o, date, rfl, -, first⟩ := Occurrence.exists_first_of_find? head
    have empty (j : Nat) (one : 1 ≤ j) (before : j < ahead) :
        (arrange (days.get (now.date.addDays j).weekday)).head? = none :=
      Option.map_eq_none_iff.1 (empty j one before)
    refine ⟨o, ⟨Occurrence.lt_begins_iff.2 (.inl ?_), fun o' ho' => ?_⟩,
      congrArg (Moment.mk · _) date, rfl, ?_⟩
    · rw [date, Date.lt_iff, Date.addDays_day]
      omega
    · rcases Int.lt_or_eq_of_le (le_date_of_empty today empty ho') with later | same
      · exact Occurrence.le_of_date_lt (date ▸ later)
      · exact first o' (Date.eq_iff.2 same.symm) rfl
    · rw [date, Date.le_iff, Date.addDays_day, Date.addDays_day]
      omega

theorem nextSetting_eq_none_iff :
    (ofDays days).nextSetting now = none ↔ ∀ w, days.get w = [] := by
  constructor
  · intro h w
    obtain ⟨ahead, mem, rfl⟩ := exists_weekday_after now.date w
    unfold nextSetting at h
    simp only [day_ofDays] at h
    split at h
    · cases h
    · have empty := Option.map_eq_none_iff.1 (List.findSome?_eq_none_iff.1 h ahead mem)
      exact arrange_eq_nil.1 (List.head?_eq_none_iff.1 empty)
  · intro h
    cases found : (ofDays days).nextSetting now with
    | none => rfl
    | some next =>
      obtain ⟨o, -⟩ := exists_first_of_nextSetting found
      exact absurd (h _) o.day_ne_nil

/-! ## The slot in force until then -/

theorem settingAt_of_isGreatest {o : Occurrence days}
    (latest : IsGreatest {o | o.begins ≤ now} o) : (ofDays days).settingAt now = some o.slot := by
  cases found : (ofDays days).settingAt now with
  | none => exact absurd (settingAt_eq_none_iff.1 found _) o.day_ne_nil
  | some s =>
    obtain ⟨o', latest', rfl⟩ := exists_latest_of_settingAt found
    rw [Occurrence.le_antisymm (latest.2 latest'.1) (latest'.2 latest.1)]

/-- Where the same has begun, the same slot is in force. -/
theorem settingAt_congr {u : Moment}
    (same : ∀ o : Occurrence days, o.begins ≤ u ↔ o.begins ≤ now) :
    (ofDays days).settingAt u = (ofDays days).settingAt now := by
  cases found : (ofDays days).settingAt now with
  | none => exact settingAt_eq_none_iff.2 (settingAt_eq_none_iff.1 found)
  | some s =>
    obtain ⟨o, latest, rfl⟩ := exists_latest_of_settingAt found
    apply settingAt_of_isGreatest
    have begun : {o : Occurrence days | o.begins ≤ u} = {o | o.begins ≤ now} := Set.ext same
    rw [begun]
    exact latest

/-- At the moment and with the slot comes the next change of a program, given day by day. -/
structure NextChange (days : Vector (List Slot) 7) (now t : Moment) (s : Slot) : Prop where
  later : now < t
  soon : t.date ≤ now.date.addDays 7
  listed : s ∈ days.get t.date.weekday
  starts : s.start = t.time
  /-- No slot begins between. -/
  first : ∀ o : Occurrence days, now < o.begins → t ≤ o.begins
  unchanged : ∀ u, now ≤ u → u < t → (ofDays days).settingAt u = (ofDays days).settingAt now

theorem nextChange_of_isLeast {o : Occurrence days} (least : IsLeast {o | now < o.begins} o)
    (soon : o.date ≤ now.date.addDays 7) : NextChange days now o.begins o.slot := by
  have first (o' : Occurrence days) (later : now < o'.begins) : o.begins ≤ o'.begins := by
    rcases least.2 later with before | ⟨together, -⟩
    · exact Int.le_of_lt before
    · exact Int.le_of_eq (congrArg Moment.rank together)
  refine ⟨least.1, soon, o.mem_slot, rfl, first, fun u since before => settingAt_congr fun o' => ?_⟩
  have first := first o'
  simp only [Moment.le_iff, Moment.lt_iff] at *
  omega

/-- There is a next slot unless the program has none at all, and with it comes the next change. -/
theorem nextSetting_first_change (days : Vector (List Slot) 7) (now : Moment) :
    ((ofDays days).nextSetting now = none ↔ ∀ w, days.get w = []) ∧
    ∀ t s, (ofDays days).nextSetting now = some (t, s) → NextChange days now t s := by
  refine ⟨nextSetting_eq_none_iff, fun t s h => ?_⟩
  obtain ⟨o, least, rfl, rfl, soon⟩ := exists_first_of_nextSetting h
  exact nextChange_of_isLeast least soon

/-- The only slot of a week, at six on Mondays, is the next one from the moment it begins. -/
example :
    let slot : Slot := ⟨⟨21600, 0, by decide, by decide⟩, none, some .on⟩
    (ofDays #v[[slot], [], [], [], [], [], []]).nextSetting ⟨⟨0⟩, slot.start⟩ =
      some (⟨⟨7⟩, slot.start⟩, slot) := by
  decide +kernel

/-! ## Slots that begin together -/

/-- The slots that begin at the moment, as they are listed. -/
def startingAt (days : Vector (List Slot) 7) (t : Moment) : List Slot :=
  (days.get t.date.weekday).filter (·.start = t.time)

theorem head?_startingAt {o : Occurrence days} (least : IsLeast {o | now < o.begins} o) :
    (startingAt days o.begins).head? = some o.slot := by
  unfold startingAt
  rw [List.head?_filter, List.find?_eq_some_iff_getElem]
  refine ⟨decide_eq_true rfl, o.place, o.place.isLt, rfl, fun j earlier => ?_⟩
  by_contra starts
  have starts := of_decide_eq_true (Bool.not_not_eq.1 starts)
  have together : Occurrence.begins ⟨o.date, ⟨j, earlier.trans o.place.isLt⟩⟩ = o.begins :=
    congrArg (Moment.mk _) starts
  have later : now < o.begins := least.1
  rcases least.2 (together ▸ later) with before | ⟨-, listed⟩
  · rw [together, Moment.lt_iff] at before
    omega
  · exact absurd earlier (Nat.not_lt.2 listed)

/-- Where slots begin, the last of them is in force. -/
theorem settingAt_of_mem_startingAt {first : Slot} (mem : first ∈ startingAt days t) :
    (ofDays days).settingAt t = (startingAt days t).getLast? := by
  obtain ⟨mem, starts⟩ := List.mem_filter.1 mem
  have starts := of_decide_eq_true starts
  have begun : first.start ≤ t.time := Nat.le_of_eq (congrArg _ starts)
  unfold settingAt
  simp only [day_ofDays]
  cases today : ((arrange (days.get t.date.weekday)).filter (·.start ≤ t.time)).getLast? with
  | none =>
    have mem : first ∈ (arrange _).filter (·.start ≤ t.time) :=
      List.mem_filter.2 ⟨(arrange_perm _).mem_iff.2 mem, decide_eq_true begun⟩
    exact absurd (List.getLast?_eq_none_iff.1 today) (List.ne_nil_of_mem mem)
  | some s =>
    have upper := of_decide_eq_true (List.mem_filter.1 (List.mem_of_getLast? today)).2
    have lower := start_le_of_getLast? today mem (decide_eq_true begun)
    rw [starts] at lower
    have ties := getLast?_ties today
    rw [ClockTime.rank_injective (Nat.le_antisymm upper lower)] at ties
    have all : (startingAt days t).filter (·.start ≤ t.time) = startingAt days t := by
      apply List.filter_eq_self.2
      intro u hu
      exact decide_eq_true (Nat.le_of_eq (congrArg _ (of_decide_eq_true (List.mem_filter.1 hu).2)))
    rw [← all]
    exact ties.symm

/-- Of the slots that begin together the first is announced and the last comes into force, so that
it is the same slot only where the list of them begins and ends with the same one. -/
theorem announced_in_force_iff (h : (ofDays days).nextSetting now = some (t, s)) :
    (startingAt days t).head? = some s ∧
    (ofDays days).settingAt t = (startingAt days t).getLast? ∧
    ((ofDays days).settingAt t = some s ↔
      (startingAt days t).getLast? = (startingAt days t).head?) := by
  obtain ⟨o, least, rfl, rfl, -⟩ := exists_first_of_nextSetting h
  have announced := head?_startingAt least
  have inForce := settingAt_of_mem_startingAt (List.mem_of_head? announced)
  refine ⟨announced, inForce, ?_⟩
  rw [inForce, announced]

/-- At six on a Monday begin a slot for the night and one for the day. The first is announced
before, the second is in force then. -/
theorem announced_but_not_in_force :
    let night : Slot := ⟨⟨21600, 0, by decide, by decide⟩, none, some .night⟩
    let day : Slot := ⟨⟨21600, 0, by decide, by decide⟩, none, some .day⟩
    let program := ofDays #v[[night, day], [], [], [], [], [], []]
    let monday : Date := ⟨738899⟩
    program.nextSetting ⟨monday, ⟨18000, 0, by decide, by decide⟩⟩ =
        some (⟨monday, night.start⟩, night) ∧
      program.settingAt ⟨monday, night.start⟩ = some day ∧ night ≠ day := by
  decide +kernel

/-- From the only slot of a Monday on, the first of two that begin on Tuesday at six is announced. -/
theorem announced_in_force_iff_of_tuesday :
    let alone : Slot := ⟨⟨25200, 0, by decide, by decide⟩, none, some .off⟩
    let night : Slot := ⟨⟨21600, 0, by decide, by decide⟩, none, some .night⟩
    let day : Slot := ⟨⟨21600, 0, by decide, by decide⟩, none, some .day⟩
    let days : Vector (List Slot) 7 := #v[[alone], [alone, night, day], [], [], [], [], []]
    let now : Moment := ⟨⟨738899⟩, alone.start⟩
    let t : Moment := ⟨⟨738900⟩, night.start⟩
    (ofDays days).nextSetting now = some (t, night) ∧ (startingAt days t).head? = some night ∧
      (ofDays days).settingAt t = (startingAt days t).getLast? ∧
      ((ofDays days).settingAt t = some night ↔
        (startingAt days t).getLast? = (startingAt days t).head?) := by
  intro alone night day days now t
  have next : (ofDays days).nextSetting now = some (t, night) := by decide +kernel
  exact ⟨next, announced_in_force_iff next⟩

end TimeProgram

end HeatingHub

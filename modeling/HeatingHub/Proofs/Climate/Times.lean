import HeatingHub.Climate
import HeatingHub.Proofs.Calendar.Minutes
import HeatingHub.Proofs.Calendar.MomentReading
import HeatingHub.Proofs.Schedule.Change

/-!
# Times that a thermostat announces

A thermostat announces the end of a quick veto while the veto is in force and has minutes left, and
the next change of the weekly program while the program is in force. What is announced is still to
come (`times_announced`), and its text can be read as the moment that is meant.
-/

namespace HeatingHub

open Calendar (Moment)

/-! ## Next slots -/

namespace TimeProgram

variable {p : TimeProgram} {now t : Moment} {s : Slot}

theorem exists_nextSetting_iff :
    (∃ next, p.nextSetting now = some next) ↔ ∃ w, p.day w ≠ [] := by
  have nothing := @nextSetting_eq_none_iff p.days now
  rw [ofDays_days] at nothing
  rw [← Option.ne_none_iff_exists', Ne, nothing]
  push Not
  rfl

theorem later_of_nextSetting (h : p.nextSetting now = some (t, s)) :
    now < t ∧ t.date ≤ now.date.addDays 7 := by
  rw [← ofDays_days p] at h
  obtain ⟨o, least, rfl, -, soon⟩ := exists_first_of_nextSetting h
  exact ⟨least.1, soon⟩

end TimeProgram

/-! ## Attributes -/

namespace Attributes

variable {a : Attributes} {text : String}

/-- Each attribute has one value. -/
theorem nodup_entries (a : Attributes) : (a.entries.map (·.1)).Nodup := by
  obtain ⟨mode, vetoEnd, next, setting⟩ := a
  cases vetoEnd <;> cases next <;> cases setting <;> simp [entries]

theorem mem_entries_vetoEnd :
    ("quick_veto_end", text) ∈ a.entries ↔ ∃ t, a.vetoEnd = some t ∧ t.text = text := by
  simp [entries]

theorem mem_entries_nextSetting :
    ("next_setting", text) ∈ a.entries ↔ ∃ t s, a.next = some (t, s) ∧ s.text = text := by
  simp [entries]

theorem mem_entries_settingEnd :
    ("setting_end", text) ∈ a.entries ↔ ∃ t s, a.next = some (t, s) ∧ t.text = text := by
  simp [entries]

end Attributes

section Announced

variable {e : Effective} {veto : Option QuickVeto} {program : TimeProgram} {now t : Moment} {s : Slot}

theorem Effective.isOperating_iff {m : OperatingMode} :
    e.isOperating m = true ↔ e.mode = .operating m := beq_iff_eq

theorem vetoEnd_attributes : (attributes e veto program now).vetoEnd = some t ↔
    e.mode = .operating .quickVeto ∧ ∃ v m, veto = some v ∧ v.duration = some m ∧ 0 < m ∧
      (now.addMinutes m).truncateToMinute = t := by
  unfold attributes
  dsimp only
  rw [← Effective.isOperating_iff]
  split
  case isTrue governs =>
    rw [and_iff_right governs, Option.map_eq_some_iff]
    constructor
    · rintro ⟨m, left, rfl⟩
      obtain ⟨left, pos⟩ := Option.filter_eq_some_iff.1 left
      obtain ⟨v, hv, hm⟩ := Option.bind_eq_some_iff.1 left
      exact ⟨v, m, hv, hm, of_decide_eq_true pos, rfl⟩
    · rintro ⟨v, m, rfl, hm, pos, rfl⟩
      exact ⟨m, by simp [hm, pos], rfl⟩
  case isFalse other => simp [other]

theorem next_attributes : (attributes e veto program now).next = some (t, s) ↔
    e.mode = .operating .auto ∧ program.nextSetting now = some (t, s) := by
  unfold attributes
  dsimp only
  rw [← Effective.isOperating_iff]
  split
  case isTrue governs => simp [governs]
  case isFalse other => simp [other]

/-- What a thermostat announces of times to come, by the mode in force, the veto and the program of
its zone or room. -/
structure Announces (e : Effective) (veto : Option QuickVeto) (program : TimeProgram) (now : Moment)
    (entries : List (String × String)) : Prop where
  /-- Each attribute has one value. -/
  nodup : (entries.map (·.1)).Nodup
  vetoEnd_iff : (∃ text, ("quick_veto_end", text) ∈ entries) ↔
    e.mode = .operating .quickVeto ∧ ∃ v m, veto = some v ∧ v.duration = some m ∧ 0 < m
  vetoEnd : ∀ text, ("quick_veto_end", text) ∈ entries →
    ∃ v m, veto = some v ∧ v.duration = some m ∧ ∃ t : Moment, t.text = text ∧ t.IsMinute ∧
      t.minute = now.minute + m ∧ now < t ∧ t ≤ now.addMinutes m ∧
      (m < 2 ^ 32 → t.date.inRange = true ∧ Moment.read? text = some t)
  settingEnd_iff : (∃ text, ("setting_end", text) ∈ entries) ↔
    e.mode = .operating .auto ∧ ∃ w, program.day w ≠ []
  together : (∃ text, ("next_setting", text) ∈ entries) ↔ ∃ text, ("setting_end", text) ∈ entries
  nextSetting : ∀ text, ("next_setting", text) ∈ entries →
    ∃ t s, program.nextSetting now = some (t, s) ∧ s.text = text
  settingEnd : ∀ text, ("setting_end", text) ∈ entries →
    ∃ t s, program.nextSetting now = some (t, s) ∧ t.text = text ∧ now < t ∧
      t.date.inRange = true ∧ (t.time.nano = 0 → Moment.read? text = some t)
  apart : ¬((∃ text, ("quick_veto_end", text) ∈ entries) ∧ ∃ text, ("setting_end", text) ∈ entries)

/-- The veto ends at the beginning of the minute that is so many minutes after the present one. -/
theorem vetoEnd_bounds {m : Nat} (pos : 0 < m) :
    now < (now.addMinutes m).truncateToMinute ∧
      (now.addMinutes m).truncateToMinute.minute = now.minute + m := by
  have minute : (now.addMinutes m).truncateToMinute.minute = now.minute + m := by
    rw [Moment.minute_truncateToMinute, Moment.minute_addMinutes]
  exact ⟨Moment.lt_of_minute_lt (by omega), minute⟩

theorem inRange_addMinutes (range : now.date.inRange = true) (year : now.date.civil.year ≤ 9999)
    {m : Nat} (short : m < 2 ^ 32) : (now.addMinutes m).date.inRange = true := by
  obtain ⟨later, soon⟩ := Moment.day_addMinutes_le now m
  refine Calendar.inRange_of_le range year later ?_
  rw [Calendar.Date.le_iff, Calendar.Date.addDays_day] at soon ⊢
  omega

theorem inRange_of_later (range : now.date.inRange = true) (year : now.date.civil.year ≤ 9999)
    (later : now < t) (soon : t.date ≤ now.date.addDays 7) : t.date.inRange = true := by
  have notBefore : now.date ≤ t.date := by
    rw [Calendar.Date.le_iff]
    rcases Moment.lt_iff_date_time.1 later with before | ⟨same, -⟩
    · exact Int.le_of_lt before
    · exact Int.le_of_eq (congrArg _ same)
  refine Calendar.inRange_of_le range year notBefore ?_
  rw [Calendar.Date.le_iff, Calendar.Date.addDays_day] at soon ⊢
  omega

theorem announces_attributes (range : now.date.inRange = true)
    (year : now.date.civil.year ≤ 9999) (e : Effective) (veto : Option QuickVeto)
    (program : TimeProgram) :
    Announces e veto program now (attributes e veto program now).entries where
  nodup := Attributes.nodup_entries _
  vetoEnd_iff := by
    simp only [Attributes.mem_entries_vetoEnd, vetoEnd_attributes]
    constructor
    · rintro ⟨_, _, ⟨governs, v, m, hv, hm, pos, -⟩, -⟩
      exact ⟨governs, v, m, hv, hm, pos⟩
    · rintro ⟨governs, v, m, hv, hm, pos⟩
      exact ⟨_, _, ⟨governs, v, m, hv, hm, pos, rfl⟩, rfl⟩
  vetoEnd := by
    intro text mem
    obtain ⟨t, ends, rfl⟩ := Attributes.mem_entries_vetoEnd.1 mem
    obtain ⟨-, v, m, hv, hm, pos, rfl⟩ := vetoEnd_attributes.1 ends
    obtain ⟨later, minute⟩ := vetoEnd_bounds pos
    have whole := Moment.isMinute_truncateToMinute (now.addMinutes m)
    refine ⟨v, m, hv, hm, _, rfl, whole, minute, later, Moment.truncateToMinute_le _, fun short => ?_⟩
    have range := inRange_addMinutes range year short
    exact ⟨range, Moment.read?_text range whole.2⟩
  settingEnd_iff := by
    simp only [Attributes.mem_entries_settingEnd, next_attributes,
      ← @TimeProgram.exists_nextSetting_iff program now]
    constructor
    · rintro ⟨_, t, s, ⟨governs, next⟩, -⟩
      exact ⟨governs, _, next⟩
    · rintro ⟨governs, ⟨t, s⟩, next⟩
      exact ⟨_, t, s, ⟨governs, next⟩, rfl⟩
  together := by
    simp only [Attributes.mem_entries_nextSetting, Attributes.mem_entries_settingEnd]
    constructor
    · rintro ⟨_, t, s, next, -⟩
      exact ⟨_, t, s, next, rfl⟩
    · rintro ⟨_, t, s, next, -⟩
      exact ⟨_, t, s, next, rfl⟩
  nextSetting := by
    intro text mem
    obtain ⟨t, s, next, shown⟩ := Attributes.mem_entries_nextSetting.1 mem
    exact ⟨t, s, (next_attributes.1 next).2, shown⟩
  settingEnd := by
    intro text mem
    obtain ⟨t, s, next, rfl⟩ := Attributes.mem_entries_settingEnd.1 mem
    obtain ⟨-, next⟩ := next_attributes.1 next
    obtain ⟨later, soon⟩ := TimeProgram.later_of_nextSetting next
    have range := inRange_of_later range year later soon
    exact ⟨t, s, next, rfl, later, range, Moment.read?_text range⟩
  apart := by
    simp only [Attributes.mem_entries_vetoEnd, Attributes.mem_entries_settingEnd]
    rintro ⟨⟨_, _, ends, -⟩, _, _, _, next, -⟩
    have vetoed := (vetoEnd_attributes.1 ends).1
    rw [(next_attributes.1 next).1] at vetoed
    cases vetoed

end Announced

/-! ## Views -/

/-- The thermostats of all zones and rooms announce when a veto ends and the program changes: each of
the two times just when it means something, never both, and always one that is still to come. The
end of a veto is the beginning of a minute, so many minutes after the present one as are left, and no
number of minutes of 32 bits leads beyond the calendar. -/
theorem times_announced (i : Installation) (now : Moment) (range : now.date.inRange = true)
    (year : now.date.civil.year ≤ 9999) :
    (∀ id z, i.zone? id = some z → ∃ view, i.climateView? (.zone id) now = some view ∧
      Announces (i.effectiveZone z now) z.veto z.program now view.attributes.entries) ∧
    ∀ id r, i.room? id = some r → ∃ view, i.climateView? (.room id) now = some view ∧
      Announces (i.effectiveRoom r now) r.veto r.program now view.attributes.entries := by
  constructor
  · intro id z found
    exact ⟨i.zoneView z now, congrArg (Option.map (i.zoneView · now)) found,
      announces_attributes range year (i.effectiveZone z now) z.veto z.program⟩
  · intro id r found
    exact ⟨i.roomView r now, congrArg (Option.map (i.roomView · now)) found,
      announces_attributes range year (i.effectiveRoom r now) r.veto r.program⟩

/-- In a leap second at the end of the year 9999 the longest veto ends some eight thousand years
later, and the program goes on in the year 10000. -/
theorem times_announced_of_leap_second :
    let now : Moment := ⟨⟨3652058⟩, ⟨86399, 1500000000, by decide, by decide⟩⟩
    let slot : Slot := ⟨⟨86340, 0, by decide, by decide⟩, some 20, none⟩
    let zone : Zone := ⟨"1", "Ground", .empty, some 12, 21, 18, .auto, some ⟨25, some 4294967295⟩,
      none, false⟩
    let room : Room := ⟨"1", "Kitchen", .uniform [slot], some 19, 20, .auto, none, false, false, []⟩
    let i : Installation := { Installation.empty with zones := [zone], rooms := [room] }
    now.date.inRange = true ∧ now.date.civil.year ≤ 9999 ∧
      (∃ view text t, i.climateView? (.zone "1") now = some view ∧
        ("quick_veto_end", text) ∈ view.attributes.entries ∧ Moment.read? text = some t ∧
        t.IsMinute ∧ now < t ∧ t ≤ now.addMinutes 4294967295) ∧
      ∃ view text t s, i.climateView? (.room "1") now = some view ∧
        ("setting_end", text) ∈ view.attributes.entries ∧
        room.program.nextSetting now = some (t, s) ∧ t.text = text ∧ now < t := by
  intro now slot zone room i
  have range : now.date.inRange = true := by decide
  have year : now.date.civil.year ≤ 9999 := by decide
  obtain ⟨zones, rooms⟩ := times_announced i now range year
  refine ⟨range, year, ?_, ?_⟩
  · obtain ⟨view, hv, announces⟩ := zones "1" zone rfl
    obtain ⟨text, mem⟩ := announces.vetoEnd_iff.2 ⟨rfl, _, _, rfl, rfl, by decide⟩
    obtain ⟨v, m, hveto, hm, t, -, whole, -, later, soon, read⟩ := announces.vetoEnd text mem
    obtain rfl := Option.some.inj hveto
    obtain rfl := Option.some.inj hm
    exact ⟨view, text, t, hv, mem, (read (by decide)).2, whole, later, soon⟩
  · obtain ⟨view, hv, announces⟩ := rooms "1" room rfl
    obtain ⟨text, mem⟩ := announces.settingEnd_iff.2 ⟨rfl, 0, by decide +kernel⟩
    obtain ⟨t, s, next, shown, later, -⟩ := announces.settingEnd text mem
    exact ⟨view, text, t, s, hv, mem, next, shown, later⟩

end HeatingHub

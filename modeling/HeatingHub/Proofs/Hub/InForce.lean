import HeatingHub.Proofs.Hub.Orderly

/-!
# What is in force

Two questions are asked of the overrides: which of them to remove before a component is changed
(`Installation.conflict`), and which mode governs the component (`Installation.effectiveZone` and
its like). The answers agree: where neither override governs a kind of component its own mode is in
force, and otherwise the mode is that of the override which would be removed.
-/

namespace HeatingHub

open Calendar (Date Moment)

def Component.kind : Component → Kind
  | zone _ => .zone
  | room _ => .room
  | hotWater _ => .hotWater
  | circulation _ => .circulation

namespace Installation

variable {i j : Installation} {kind : Kind} {today : Date} {now : Moment} {q : QuickMode}

/-! ## Overrides that govern -/

theorem away_congr (h : j.holiday = i.holiday) : j.Away today ↔ i.Away today := by
  unfold Away appliedHoliday
  rw [h]

theorem boosted_congr (h : j.quickMode = i.quickMode) : j.Boosted kind ↔ i.Boosted kind := by
  unfold Boosted
  rw [h]

theorem not_away_of_inactive (h : i.holiday = some .inactive) : ¬i.Away today := by
  unfold Away appliedHoliday
  rw [h]
  exact Bool.false_ne_true

theorem not_boosted_of_none (h : i.quickMode = none) : ¬i.Boosted kind := by
  rintro ⟨q, hq, _⟩
  rw [h] at hq
  cases hq

/-- A quick mode that does not govern a kind does not apply to it. -/
theorem appliesTo_of_not_boosted (h : ¬i.Boosted kind) (hq : i.quickMode = some q) :
    q.appliesTo kind = false := by
  cases applies : q.appliesTo kind with
  | false => rfl
  | true => exact absurd ⟨q, hq, applies⟩ h

theorem appliedHoliday_of_not_away (h : ¬i.Away today) : i.appliedHoliday today = none :=
  Option.not_isSome_iff_eq_none.1 h

/-! ## Modes in force -/

theorem effectiveZone_of_free (ha : ¬i.Away now.date) (hq : ¬i.Boosted .zone) (z : Zone) :
    i.effectiveZone z now = z.own now := by
  unfold effectiveZone
  rw [appliedHoliday_of_not_away ha]
  cases hs : i.quickMode with
  | none => rfl
  | some q =>
    have spared : q.appliesTo .zone = false := appliesTo_of_not_boosted hq hs
    cases q <;> first | rfl | cases spared

theorem effectiveRoom_of_free (ha : ¬i.Away now.date) (hq : ¬i.Boosted .room) (r : Room) :
    i.effectiveRoom r now = r.own now := by
  unfold effectiveRoom
  rw [appliedHoliday_of_not_away ha]
  cases hs : i.quickMode with
  | none => rfl
  | some q =>
    have spared : q.appliesTo .room = false := appliesTo_of_not_boosted hq hs
    cases q <;> first | rfl | cases spared

theorem effectiveHotWater_of_free (ha : ¬i.Away now.date) (hq : ¬i.Boosted .hotWater)
    (w : HotWater) : i.effectiveHotWater w now = w.own now := by
  unfold effectiveHotWater
  rw [appliedHoliday_of_not_away ha]
  cases hs : i.quickMode with
  | none => rfl
  | some q =>
    have spared : q.appliesTo .hotWater = false := appliesTo_of_not_boosted hq hs
    cases q <;> first | rfl | cases spared

theorem mode_followProgram (z : Zone) (now : Moment) (mode : Mode) :
    (z.followProgram now mode).mode = mode := by
  unfold Zone.followProgram
  split <;> rfl

theorem mode_own_zone (z : Zone) (now : Moment) :
    (z.own now).mode = .operating (if z.veto.isSome then .quickVeto else z.mode) := by
  unfold Zone.own
  cases z.veto with
  | some veto => rfl
  | none =>
    cases z.mode with
    | auto => exact mode_followProgram z now _
    | manual | day | night | off | on | quickVeto => rfl

theorem mode_own_room (r : Room) (now : Moment) :
    (r.own now).mode = .operating (if r.veto.isSome then .quickVeto else r.mode) := by
  unfold Room.own
  cases r.veto with
  | some veto => rfl
  | none => cases r.mode <;> rfl

theorem mode_own_hotWater (w : HotWater) (now : Moment) :
    (w.own now).mode = .operating w.mode := by
  unfold HotWater.own
  cases w.mode with
  | auto => by_cases on : w.program.scheduled now = some .on <;> simp [on]
  | manual | day | night | off | on | quickVeto => rfl

theorem mode_own_circulation (c : Circulation) (now : Moment) :
    (c.own now).mode = .operating c.mode := by
  unfold Circulation.own
  cases c.mode <;> rfl

theorem mode_effectiveZone_of_boosted (ha : ¬i.Away now.date) (hq : i.quickMode = some q)
    (applies : q.appliesTo .zone = true) (z : Zone) : (i.effectiveZone z now).mode = .quick q := by
  unfold effectiveZone
  rw [appliedHoliday_of_not_away ha, hq]
  cases q with
  | hotWaterBoost => cases applies
  | oneDayAtHome => exact mode_followProgram z now _
  | party | ventilationBoost | oneDayAway | systemOff => rfl

theorem mode_effectiveRoom_of_boosted (ha : ¬i.Away now.date) (hq : i.quickMode = some q)
    (applies : q.appliesTo .room = true) (r : Room) : (i.effectiveRoom r now).mode = .quick q := by
  unfold effectiveRoom
  rw [appliedHoliday_of_not_away ha, hq]
  cases q <;> first | rfl | cases applies

theorem mode_effectiveHotWater_of_boosted (ha : ¬i.Away now.date) (hq : i.quickMode = some q)
    (applies : q.appliesTo .hotWater = true) (w : HotWater) :
    (i.effectiveHotWater w now).mode = .quick q := by
  unfold effectiveHotWater
  rw [appliedHoliday_of_not_away ha, hq]
  cases q <;> first | rfl | cases applies

/-- Where no override governs, the mode of a component is its own. Circulation is left out: no
quick mode counts as one for it, but it follows those for hot water. -/
theorem effective_of_free {c : Component} (hc : c.kind ≠ .circulation) (ha : ¬i.Away now.date)
    (hq : ¬i.Boosted c.kind) : c.effective i now = c.own now := by
  cases c with
  | zone z => exact effectiveZone_of_free ha hq z
  | room r => exact effectiveRoom_of_free ha hq r
  | hotWater w => exact effectiveHotWater_of_free ha hq w
  | circulation _ => exact absurd rfl hc

theorem mode_effective_of_boosted {c : Component} (ha : ¬i.Away now.date)
    (hq : i.quickMode = some q) (applies : q.appliesTo c.kind = true) :
    (c.effective i now).mode = .quick q := by
  cases c with
  | zone z => exact mode_effectiveZone_of_boosted ha hq applies z
  | room r => exact mode_effectiveRoom_of_boosted ha hq applies r
  | hotWater w => exact mode_effectiveHotWater_of_boosted ha hq applies w
  | circulation _ => cases q <;> cases applies

/-! ## After an override was removed -/

theorem following_conflict_of_away (ha : i.Away today) :
    i.following (i.conflict kind today).toList = { i with holiday := some .inactive } := by
  rw [conflict_of_away ha]
  rfl

/-- One removal is enough unless both overrides govern the kind. -/
theorem not_away_following_conflict (i : Installation) (kind : Kind) (today : Date) :
    ¬(i.following (i.conflict kind today).toList).Away today := by
  rcases i.conflict_cases kind today with ⟨_, hc⟩ | ⟨ha, _, hc⟩ | ⟨ha, _, hc⟩ <;> rw [hc]
  · exact not_away_of_inactive rfl
  · exact ha
  · exact ha

theorem not_boosted_following_conflict (h : ¬(i.Away today ∧ i.Boosted kind)) :
    ¬(i.following (i.conflict kind today).toList).Boosted kind := by
  rcases i.conflict_cases kind today with ⟨ha, hc⟩ | ⟨_, _, hc⟩ | ⟨_, hq, hc⟩ <;> rw [hc]
  · intro hq
    exact h ⟨ha, hq⟩
  · exact not_boosted_of_none rfl
  · exact hq

/-- Calls for components leave the overrides alone. -/
theorem following_overrides {calls : List Call}
    (h : calls.any (·.isSystemWide) = false) (i : Installation) :
    (i.following calls).holiday = i.holiday ∧ (i.following calls).quickMode = i.quickMode := by
  have own : ∀ call ∈ calls, call.isSystemWide = false := by
    simpa only [List.any_eq_false, Bool.not_eq_true] using h
  constructor
  · exact find_following (·.holiday) (fun call hc i => (overrides_effect (own call hc) i).1) i
  · exact find_following (·.quickMode) (fun call hc i => (overrides_effect (own call hc) i).2) i

end Installation

end HeatingHub

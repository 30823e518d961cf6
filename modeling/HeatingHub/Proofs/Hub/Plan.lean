import HeatingHub.Hub.Request
import HeatingHub.Proofs.Hub.Admissible
import HeatingHub.Proofs.Outcome

/-!
# What requests come to

`Planned` lists every way in which a request can be met, with the component that was found and the
checks that were passed. `planned_of_plan` inverts planning; what holds of planned calls is shown by
cases of `Planned` from there on, the first time in `Planned.orderly`: a plan is orderly.
-/

namespace HeatingHub

open Calendar (Date Moment)

/-! ## Ways to meet a request -/

/-- The calls that meet a request, for a hub whose snapshot holds `i`. -/
inductive Planned (h : Hub) (now : Moment) (i : Installation) : Request → List Call → Prop where
  | zoneTarget {entity : String} {z : Zone} {target : Float}
      (found : h.componentOf entity = .ok (.zone z.id)) (held : i.zone? z.id = some z)
      (fits : heatingRange.contains target = true) :
      Planned h now i (.setTarget entity target) (z.targetCalls i target now)
  | roomTarget {entity : String} {r : Room} {target : Float}
      (found : h.componentOf entity = .ok (.room r.id)) (held : i.room? r.id = some r)
      (fits : heatingRange.contains target = true) :
      Planned h now i (.setTarget entity target) (r.targetCalls i target h.vetoMinutes now)
  | waterTarget {entity : String} {w : HotWater} {target : Float}
      (found : h.componentOf entity = .ok (.hotWater w.id)) (held : i.hotWater? w.id = some w)
      (fits : hotWaterRange.contains target = true) :
      Planned h now i (.setTarget entity target) (w.targetCalls i target now)
  | zoneMode {entity : String} {z : Zone} {mode : OperatingMode}
      (found : h.componentOf entity = .ok (.zone z.id)) (held : i.zone? z.id = some z)
      (valid : mode.isValidFor .zone = true) :
      Planned h now i (.setMode entity mode) (z.modeCalls i mode now)
  | roomMode {entity : String} {r : Room} {mode : OperatingMode}
      (found : h.componentOf entity = .ok (.room r.id)) (held : i.room? r.id = some r)
      (valid : mode.isValidFor .room = true) :
      Planned h now i (.setMode entity mode) (r.modeCalls i mode now)
  | waterMode {entity : String} {w : HotWater} {mode : OperatingMode}
      (found : h.componentOf entity = .ok (.hotWater w.id)) (held : i.hotWater? w.id = some w)
      (valid : mode.isValidFor .hotWater = true) :
      Planned h now i (.setMode entity mode) (w.modeCalls i mode now)
  | zoneVeto {entity : String} {z : Zone} {target : Float} {duration : Option Nat}
      (found : h.componentOf entity = .ok (.zone z.id)) (held : i.zone? z.id = some z)
      (fits : heatingRange.contains target = true) :
      Planned h now i (.setVeto entity target duration)
        (z.vetoRemoval ++ [.setZoneVeto z.id ⟨target, some (duration.getD h.vetoMinutes)⟩])
  | roomVeto {entity : String} {r : Room} {target : Float} {duration : Option Nat}
      (found : h.componentOf entity = .ok (.room r.id)) (held : i.room? r.id = some r)
      (fits : heatingRange.contains target = true) :
      Planned h now i (.setVeto entity target duration)
        (r.vetoRemoval ++ [.setRoomVeto r.id ⟨target, some (duration.getD h.vetoMinutes)⟩])
  | zoneVetoRemoval {entity : String} {z : Zone}
      (found : h.componentOf entity = .ok (.zone z.id)) (held : i.zone? z.id = some z) :
      Planned h now i (.removeVeto entity) z.vetoRemoval
  | roomVetoRemoval {entity : String} {r : Room}
      (found : h.componentOf entity = .ok (.room r.id)) (held : i.room? r.id = some r) :
      Planned h now i (.removeVeto entity) r.vetoRemoval
  | quickMode {mode : QuickMode} (unset : i.quickMode = none) :
      Planned h now i (.setQuickMode mode) [.setQuickMode mode]
  | quickModeReplaced {mode q : QuickMode} (set : i.quickMode = some q) :
      Planned h now i (.setQuickMode mode) [.removeQuickMode, .setQuickMode mode]
  | noQuickMode {entity : Option String} (unset : i.quickMode = none) :
      Planned h now i (.removeQuickMode entity) []
  | quickModeRemoval {q : QuickMode} (set : i.quickMode = some q) :
      Planned h now i (.removeQuickMode none) [.removeQuickMode]
  | quickModeRemovalFor {entity : String} {q : QuickMode} {id : ComponentId}
      (set : i.quickMode = some q) (found : h.componentOf entity = .ok id)
      (applies : q.appliesTo id.kind = true) :
      Planned h now i (.removeQuickMode (some entity)) [.removeQuickMode]
  | quickModeKept {entity : String} {q : QuickMode} {id : ComponentId}
      (set : i.quickMode = some q) (found : h.componentOf entity = .ok id)
      (applies : q.appliesTo id.kind = false) :
      Planned h now i (.removeQuickMode (some entity)) []
  | holiday {start finish : Date} {target : Float} (ordered : ¬finish < start)
      (fits : heatingRange.contains target = true) :
      Planned h now i (.setHoliday start finish target) [.setHoliday start finish target]
  | holidayRemoval {holiday : Holiday} (set : i.holiday = some holiday)
      (active : holiday.active = true) :
      Planned h now i .removeHoliday [.removeHoliday]
  | noHoliday (inactive : ∀ holiday, i.holiday = some holiday → holiday.active = false) :
      Planned h now i .removeHoliday []
  | temperature {entity : String} {target : Float} {calls : List Call}
      (asks : Planned h now i (.setTarget entity target) calls) :
      Planned h now i (.setTemperature entity target) calls
  | temperatureKept {entity : String} {z : Zone} {target t : Float}
      (found : h.componentOf entity = .ok (.zone z.id)) (held : i.zone? z.id = some z)
      (aims : (i.effectiveZone z now).target = some t) (same : t.beq target = true) :
      Planned h now i (.setTemperature entity target) []
  | hvac {entity : String} {hvac : HvacMode} {id : ComponentId} {mode : OperatingMode}
      {calls : List Call} (found : h.componentOf entity = .ok id)
      (means : operatingModeFor id.kind hvac = some mode)
      (asks : Planned h now i (.setMode entity mode) calls) :
      Planned h now i (.setHvac entity hvac) calls

/-! ## Inversion -/

section Inversion

variable {h : Hub} {now : Moment} {i : Installation} {entity : String} {target : Float}
  {calls : List Call}

theorem installation_eq_ok : h.installation = .ok i ↔ h.snapshot.installation = some i := by
  unfold Hub.installation
  cases h.snapshot.installation <;> simp

theorem check_eq_ok {r : Range} {u : Unit} : r.check target = .ok u ↔ r.contains target = true := by
  unfold Range.check
  cases r.contains target <;> simp

theorem component_eq_ok {id : ComponentId} {c : Component} :
    h.component id = .ok (i, c) ↔
      h.snapshot.installation = some i ∧ i.component? id = some c := by
  unfold Hub.component
  rw [bind_eq_ok]
  constructor
  · rintro ⟨j, hj, hc⟩
    cases hjc : j.component? id with
    | none => simp [hjc] at hc
    | some d =>
      simp only [hjc, Except.ok.injEq, Prod.mk.injEq] at hc
      obtain ⟨rfl, rfl⟩ := hc
      exact ⟨installation_eq_ok.1 hj, hjc⟩
  · rintro ⟨hi, hc⟩
    exact ⟨i, installation_eq_ok.2 hi, by simp [hc]⟩

theorem component_zone {id : String} {c : Component} (hc : h.component (.zone id) = .ok (i, c)) :
    h.snapshot.installation = some i ∧ ∃ z, c = .zone z ∧ id = z.id ∧ i.zone? z.id = some z := by
  obtain ⟨hi, hc⟩ := component_eq_ok.1 hc
  obtain ⟨z, hz, rfl⟩ := Option.map_eq_some_iff.1 hc
  obtain rfl := Installation.zone_id hz
  exact ⟨hi, z, rfl, rfl, hz⟩

theorem component_room {id : String} {c : Component} (hc : h.component (.room id) = .ok (i, c)) :
    h.snapshot.installation = some i ∧ ∃ r, c = .room r ∧ id = r.id ∧ i.room? r.id = some r := by
  obtain ⟨hi, hc⟩ := component_eq_ok.1 hc
  obtain ⟨r, hr, rfl⟩ := Option.map_eq_some_iff.1 hc
  obtain rfl := Installation.room_id hr
  exact ⟨hi, r, rfl, rfl, hr⟩

theorem component_hotWater {id : String} {c : Component}
    (hc : h.component (.hotWater id) = .ok (i, c)) :
    h.snapshot.installation = some i ∧
      ∃ w, c = .hotWater w ∧ id = w.id ∧ i.hotWater? w.id = some w := by
  obtain ⟨hi, hc⟩ := component_eq_ok.1 hc
  obtain ⟨w, hw, rfl⟩ := Option.map_eq_some_iff.1 hc
  obtain rfl := Installation.hotWater_id hw
  exact ⟨hi, w, rfl, rfl, hw⟩

theorem guard_eq_ok {α : Type} {p : Prop} [Decidable p] {e : HubError}
    {rest : Unit → Except HubError α} {a : α} :
    (if p then Except.error e >>= rest else rest ()) = .ok a ↔ ¬p ∧ rest () = .ok a := by
  by_cases hp : p
  · rw [if_pos hp]
    constructor
    · intro h
      cases h
    · intro h
      exact absurd hp h.1
  · rw [if_neg hp]
    constructor
    · intro h
      exact ⟨hp, h⟩
    · intro h
      exact h.2

theorem planned_of_planTarget (hp : h.planTarget now entity target = .ok calls) :
    ∃ i, h.snapshot.installation = some i ∧ Planned h now i (.setTarget entity target) calls := by
  unfold Hub.planTarget at hp
  obtain ⟨id, found, hp⟩ := bind_eq_ok.1 hp
  cases id with
  | zone id =>
    obtain ⟨_, fits, hp⟩ := bind_eq_ok.1 hp
    obtain ⟨⟨i, c⟩, hc, hp⟩ := bind_eq_ok.1 hp
    obtain ⟨hi, z, rfl, hid, hz⟩ := component_zone hc
    cases hp
    exact ⟨i, hi, .zoneTarget (hid ▸ found) hz (check_eq_ok.1 fits)⟩
  | room id =>
    obtain ⟨_, fits, hp⟩ := bind_eq_ok.1 hp
    obtain ⟨⟨i, c⟩, hc, hp⟩ := bind_eq_ok.1 hp
    obtain ⟨hi, r, rfl, hid, hr⟩ := component_room hc
    cases hp
    exact ⟨i, hi, .roomTarget (hid ▸ found) hr (check_eq_ok.1 fits)⟩
  | hotWater id =>
    obtain ⟨_, fits, hp⟩ := bind_eq_ok.1 hp
    obtain ⟨⟨i, c⟩, hc, hp⟩ := bind_eq_ok.1 hp
    obtain ⟨hi, w, rfl, hid, hw⟩ := component_hotWater hc
    cases hp
    exact ⟨i, hi, .waterTarget (hid ▸ found) hw (check_eq_ok.1 fits)⟩
  | circulation _ => cases hp

theorem planned_of_planMode {mode : OperatingMode}
    (hp : h.planMode now entity mode = .ok calls) :
    ∃ i, h.snapshot.installation = some i ∧ Planned h now i (.setMode entity mode) calls := by
  unfold Hub.planMode at hp
  obtain ⟨id, found, hp⟩ := bind_eq_ok.1 hp
  obtain ⟨hk, hp⟩ := guard_eq_ok.1 hp
  obtain ⟨hv, hp⟩ := guard_eq_ok.1 hp
  obtain ⟨⟨i, c⟩, hc, hp⟩ := bind_eq_ok.1 hp
  have valid : mode.isValidFor id.kind = true := by simpa using hv
  cases id with
  | zone id =>
    obtain ⟨hi, z, rfl, hid, hz⟩ := component_zone hc
    cases hp
    exact ⟨i, hi, .zoneMode (hid ▸ found) hz valid⟩
  | room id =>
    obtain ⟨hi, r, rfl, hid, hr⟩ := component_room hc
    cases hp
    exact ⟨i, hi, .roomMode (hid ▸ found) hr valid⟩
  | hotWater id =>
    obtain ⟨hi, w, rfl, hid, hw⟩ := component_hotWater hc
    cases hp
    exact ⟨i, hi, .waterMode (hid ▸ found) hw valid⟩
  | circulation _ => exact absurd rfl hk

theorem planned_of_planVeto {duration : Option Nat}
    (hp : h.planVeto entity target duration = .ok calls) :
    ∃ i, h.snapshot.installation = some i ∧
      Planned h now i (.setVeto entity target duration) calls := by
  unfold Hub.planVeto at hp
  obtain ⟨id, found, hp⟩ := bind_eq_ok.1 hp
  cases id with
  | zone id =>
    obtain ⟨_, fits, hp⟩ := bind_eq_ok.1 hp
    obtain ⟨⟨i, c⟩, hc, hp⟩ := bind_eq_ok.1 hp
    obtain ⟨hi, z, rfl, hid, hz⟩ := component_zone hc
    cases hp
    exact ⟨i, hi, .zoneVeto (hid ▸ found) hz (check_eq_ok.1 fits)⟩
  | room id =>
    obtain ⟨_, fits, hp⟩ := bind_eq_ok.1 hp
    obtain ⟨⟨i, c⟩, hc, hp⟩ := bind_eq_ok.1 hp
    obtain ⟨hi, r, rfl, hid, hr⟩ := component_room hc
    cases hp
    exact ⟨i, hi, .roomVeto (hid ▸ found) hr (check_eq_ok.1 fits)⟩
  | hotWater _ => cases hp
  | circulation _ => cases hp

theorem planned_of_planVetoRemoval (hp : h.planVetoRemoval entity = .ok calls) :
    ∃ i, h.snapshot.installation = some i ∧ Planned h now i (.removeVeto entity) calls := by
  unfold Hub.planVetoRemoval at hp
  obtain ⟨id, found, hp⟩ := bind_eq_ok.1 hp
  cases id with
  | zone id =>
    obtain ⟨_, _, hp⟩ := bind_eq_ok.1 hp
    obtain ⟨⟨i, c⟩, hc, hp⟩ := bind_eq_ok.1 hp
    obtain ⟨hi, z, rfl, hid, hz⟩ := component_zone hc
    cases hp
    exact ⟨i, hi, .zoneVetoRemoval (hid ▸ found) hz⟩
  | room id =>
    obtain ⟨_, _, hp⟩ := bind_eq_ok.1 hp
    obtain ⟨⟨i, c⟩, hc, hp⟩ := bind_eq_ok.1 hp
    obtain ⟨hi, r, rfl, hid, hr⟩ := component_room hc
    cases hp
    exact ⟨i, hi, .roomVetoRemoval (hid ▸ found) hr⟩
  | hotWater _ => cases hp
  | circulation _ => cases hp

theorem planned_of_planQuickMode {mode : QuickMode} (hp : h.planQuickMode mode = .ok calls) :
    ∃ i, h.snapshot.installation = some i ∧ Planned h now i (.setQuickMode mode) calls := by
  unfold Hub.planQuickMode at hp
  obtain ⟨i, hi, hp⟩ := bind_eq_ok.1 hp
  refine ⟨i, installation_eq_ok.1 hi, ?_⟩
  cases hq : i.quickMode with
  | none =>
    simp only [hq, Except.ok.injEq] at hp
    subst hp
    exact .quickMode hq
  | some q =>
    simp only [hq, Except.ok.injEq] at hp
    subst hp
    exact .quickModeReplaced hq

theorem planned_of_planQuickModeRemoval {of : Option String}
    (hp : h.planQuickModeRemoval of = .ok calls) :
    ∃ i, h.snapshot.installation = some i ∧ Planned h now i (.removeQuickMode of) calls := by
  unfold Hub.planQuickModeRemoval at hp
  obtain ⟨i, hi, hp⟩ := bind_eq_ok.1 hp
  refine ⟨i, installation_eq_ok.1 hi, ?_⟩
  cases hq : i.quickMode with
  | none =>
    simp only [hq, Except.ok.injEq] at hp
    subst hp
    exact .noQuickMode hq
  | some q =>
    cases of with
    | none =>
      simp only [hq, Except.ok.injEq] at hp
      subst hp
      exact .quickModeRemoval hq
    | some entity =>
      simp only [hq] at hp
      obtain ⟨id, found, hp⟩ := bind_eq_ok.1 hp
      cases ha : q.appliesTo id.kind with
      | true =>
        simp only [ha, if_true, Except.ok.injEq] at hp
        subst hp
        exact .quickModeRemovalFor hq found ha
      | false =>
        simp only [ha, Bool.false_eq_true, if_false, Except.ok.injEq] at hp
        subst hp
        exact .quickModeKept hq found ha

theorem planned_of_planHoliday {start finish : Date}
    (hp : h.planHoliday start finish target = .ok calls) :
    ∃ i, h.snapshot.installation = some i ∧
      Planned h now i (.setHoliday start finish target) calls := by
  unfold Hub.planHoliday at hp
  obtain ⟨ordered, hp⟩ := guard_eq_ok.1 hp
  obtain ⟨_, fits, hp⟩ := bind_eq_ok.1 hp
  obtain ⟨i, hi, hp⟩ := bind_eq_ok.1 hp
  cases hp
  exact ⟨i, installation_eq_ok.1 hi, .holiday ordered (check_eq_ok.1 fits)⟩

theorem planned_of_planHolidayRemoval (hp : h.planHolidayRemoval = .ok calls) :
    ∃ i, h.snapshot.installation = some i ∧ Planned h now i .removeHoliday calls := by
  unfold Hub.planHolidayRemoval at hp
  obtain ⟨i, hi, hp⟩ := bind_eq_ok.1 hp
  refine ⟨i, installation_eq_ok.1 hi, ?_⟩
  cases hh : i.holiday with
  | none =>
    simp only [hh, Except.ok.injEq] at hp
    subst hp
    refine .noHoliday ?_
    intro holiday hs
    rw [hh] at hs
    cases hs
  | some holiday =>
    cases ha : holiday.active with
    | true =>
      simp only [hh, ha, if_true, Except.ok.injEq] at hp
      subst hp
      exact .holidayRemoval hh ha
    | false =>
      simp only [hh, ha, Bool.false_eq_true, if_false, Except.ok.injEq] at hp
      subst hp
      refine .noHoliday ?_
      intro holiday hs
      rw [hh] at hs
      cases hs
      exact ha

theorem planned_of_planTemperature (hp : h.planTemperature now entity target = .ok calls) :
    ∃ i, h.snapshot.installation = some i ∧
      Planned h now i (.setTemperature entity target) calls := by
  have asked : h.planTarget now entity target = .ok calls → ∃ i,
      h.snapshot.installation = some i ∧ Planned h now i (.setTemperature entity target) calls := by
    intro ht
    obtain ⟨i, hi, hc⟩ := planned_of_planTarget ht
    exact ⟨i, hi, .temperature hc⟩
  unfold Hub.planTemperature at hp
  obtain ⟨id, found, hp⟩ := bind_eq_ok.1 hp
  cases id with
  | zone id =>
    obtain ⟨⟨i, c⟩, hc, hp⟩ := bind_eq_ok.1 hp
    obtain ⟨hi, z, rfl, hid, hz⟩ := component_zone hc
    cases ht : (i.effectiveZone z now).target with
    | none =>
      simp only [ht] at hp
      exact asked hp
    | some t =>
      cases hb : t.beq target with
      | true =>
        simp only [ht, hb, if_true, Except.ok.injEq] at hp
        subst hp
        exact ⟨i, hi, .temperatureKept (hid ▸ found) hz ht hb⟩
      | false =>
        simp only [ht, hb, Bool.false_eq_true, if_false] at hp
        exact asked hp
  | room _ => exact asked hp
  | hotWater _ => exact asked hp
  | circulation _ => exact asked hp

theorem planned_of_planHvac {hvac : HvacMode} (hp : h.planHvac now entity hvac = .ok calls) :
    ∃ i, h.snapshot.installation = some i ∧ Planned h now i (.setHvac entity hvac) calls := by
  unfold Hub.planHvac at hp
  obtain ⟨id, found, hp⟩ := bind_eq_ok.1 hp
  cases hm : operatingModeFor id.kind hvac with
  | none => simp [hm] at hp
  | some mode =>
    simp only [hm] at hp
    obtain ⟨i, hi, hc⟩ := planned_of_planMode hp
    exact ⟨i, hi, .hvac found hm hc⟩

/-- A request that can be met is met in one of the ways listed. -/
theorem planned_of_plan {request : Request} (hp : h.plan now request = .ok calls) :
    ∃ i, h.snapshot.installation = some i ∧ Planned h now i request calls := by
  cases request with
  | setTarget _ _ => exact planned_of_planTarget hp
  | setMode _ _ => exact planned_of_planMode hp
  | setVeto _ _ _ => exact planned_of_planVeto hp
  | removeVeto _ => exact planned_of_planVetoRemoval hp
  | setQuickMode _ => exact planned_of_planQuickMode hp
  | removeQuickMode _ => exact planned_of_planQuickModeRemoval hp
  | setHoliday _ _ _ => exact planned_of_planHoliday hp
  | removeHoliday => exact planned_of_planHolidayRemoval hp
  | setTemperature _ _ => exact planned_of_planTemperature hp
  | setHvac _ _ => exact planned_of_planHvac hp

end Inversion

end HeatingHub

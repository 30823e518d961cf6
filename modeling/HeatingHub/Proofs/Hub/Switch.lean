import HeatingHub.Climate
import HeatingHub.Proofs.Hub.Target

/-!
# A mode that was set takes effect

A request for an operating mode ends the quick veto and removes the first override that is in the
way, so what counts afterwards is the mode, unless a quick mode was hidden by a holiday. Thermostats
show the HVAC mode that was asked for, whatever the temperatures are: each mode that a request can
come to is shown as itself.
-/

namespace HeatingHub

open Calendar (Moment)

/-- The component is set to a mode of its own, and no veto replaces it. -/
def Component.IsSetTo (c : Component) (mode : OperatingMode) : Prop :=
  match c with
  | .zone z => z.mode = mode ∧ z.veto = none
  | .room r => r.mode = mode ∧ r.veto = none
  | .hotWater w => w.mode = mode
  | .circulation _ => False

namespace Installation

variable {i : Installation} {now : Moment} {mode : OperatingMode}

theorem kind_of_component? {id : ComponentId} {c : Component} (h : i.component? id = some c) :
    c.kind = id.kind := by
  cases id <;> obtain ⟨_, _, rfl⟩ := Option.map_eq_some_iff.1 h <;> rfl

theorem mode_own_of_isSetTo {c : Component} (h : c.IsSetTo mode) (now : Moment) :
    (c.own now).mode = .operating mode := by
  cases c with
  | zone z =>
    obtain ⟨set, free⟩ := h
    refine (mode_own_zone z now).trans ?_
    rw [free, set]
    rfl
  | room r =>
    obtain ⟨set, free⟩ := h
    refine (mode_own_room r now).trans ?_
    rw [free, set]
    rfl
  | hotWater w => exact (mode_own_hotWater w now).trans (congrArg _ h)
  | circulation _ => exact h.elim

/-- A component that was set to a mode is in it, unless a hidden quick mode came to light. -/
theorem mode_effective_iff {j : Installation} {id : ComponentId} {c c' : Component}
    (hc : i.component? id = some c) (hc' : j.component? id = some c') (set : c'.IsSetTo mode)
    (uncovered : i.Uncovered j c' now) :
    (c'.effective j now).mode = .operating mode ↔ ¬i.Masked c.kind now.date := by
  have kind : c'.kind = c.kind := (kind_of_component? hc').trans (kind_of_component? hc).symm
  rw [← kind]
  constructor
  · intro operating masked
    obtain ⟨_, _, q, quick⟩ := uncovered.boosted masked
    rw [operating] at quick
    cases quick
  · intro unmasked
    rw [uncovered.own unmasked]
    exact mode_own_of_isSetTo set now

/-! ## Records with their mode -/

theorem zone?_modeCalls {z : Zone} (held : i.zone? z.id = some z) :
    (i.following (z.modeCalls i mode now)).zone? z.id = some { z with mode, veto := none } := by
  have held' : (i.following (i.conflict .zone now.date).toList).zone? z.id = some z := by
    rw [i.following_conflict_zone?, held]
  unfold Zone.modeCalls
  rw [following_append, following_append]
  show (onZone _ z.id fun z => { z with mode }).zone? z.id = _
  rw [zone?_onZone, zone?_vetoRemoval held']
  · rfl
  · intro _
    rfl

theorem room?_modeCalls {r : Room} (held : i.room? r.id = some r) :
    (i.following (r.modeCalls i mode now)).room? r.id = some { r with mode, veto := none } := by
  have held' : (i.following (i.conflict .room now.date).toList).room? r.id = some r := by
    rw [i.following_conflict_room?, held]
  unfold Room.modeCalls
  rw [following_append, following_append]
  show (onRoom _ r.id fun r => { r with mode }).room? r.id = _
  rw [room?_onRoom, room?_vetoRemoval held']
  · rfl
  · intro _
    rfl

theorem hotWater?_modeCalls {w : HotWater} (held : i.hotWater? w.id = some w) :
    (i.following (w.modeCalls i mode now)).hotWater? w.id = some { w with mode } := by
  unfold HotWater.modeCalls
  rw [following_append]
  show (onHotWater _ w.id fun w => { w with mode }).hotWater? w.id = _
  rw [hotWater?_onHotWater, i.following_conflict_hotWater?, held]
  · rfl
  · intro _
    rfl

/-! ## Thermostats -/

theorem zoneHvac_of_operating {e : Effective} {hvac : HvacMode}
    (means : operatingModeFor .zone hvac = some mode) (he : e.mode = .operating mode)
    (current : Option Float) : zoneHvac e current = hvac := by
  unfold zoneHvac
  rw [he]
  cases hvac <;> cases means <;> rfl

theorem roomHvac_of_operating {e : Effective} {hvac : HvacMode}
    (means : operatingModeFor .room hvac = some mode) (he : e.mode = .operating mode)
    (current : Option Float) : roomHvac e current = hvac := by
  unfold roomHvac
  rw [he]
  cases hvac <;> cases means <;> rfl

/-- A thermostat shows the HVAC mode that the mode in force was asked for with. -/
theorem climateView?_of_operating {id : ComponentId} {c : Component} {hvac : HvacMode}
    (hc : i.component? id = some c) (means : operatingModeFor id.kind hvac = some mode)
    (he : (c.effective i now).mode = .operating mode) :
    ∃ view, i.climateView? id now = some view ∧ view.hvac = hvac := by
  cases id with
  | zone id =>
    obtain ⟨z, hz, rfl⟩ := Option.map_eq_some_iff.1 hc
    exact ⟨i.zoneView z now, congrArg (Option.map _) hz, zoneHvac_of_operating means he z.current⟩
  | room id =>
    obtain ⟨r, hr, rfl⟩ := Option.map_eq_some_iff.1 hc
    exact ⟨i.roomView r now, congrArg (Option.map _) hr, roomHvac_of_operating means he r.current⟩
  | hotWater _ => cases hvac <;> cases means
  | circulation _ => cases hvac <;> cases means

end Installation

/-! ## Requests -/

section Requests

variable {σ : Type} {session : Session σ} {site next : Site σ} {now : Moment} {entity : String}
  {done : Bool}

/-- The calls for a mode set the component to it. -/
theorem set_of_planned {h : Hub} {i : Installation} {mode : OperatingMode} {calls : List Call}
    (hp : Planned h now i (.setMode entity mode) calls) :
    ∃ id c c', h.componentOf entity = .ok id ∧ i.component? id = some c ∧
      (i.following calls).component? id = some c' ∧ c'.IsSetTo mode ∧
      i.Uncovered (i.following calls) c' now := by
  cases hp with
  | @zoneMode _ z _ found held _ =>
    refine ⟨.zone z.id, .zone z, .zone { z with mode, veto := none }, found,
      Installation.component?_zone held,
      Installation.component?_zone (Installation.zone?_modeCalls held), ⟨rfl, rfl⟩, ?_⟩
    unfold Zone.modeCalls
    rw [List.append_assoc, zone_vetoRemoval_eq]
    exact i.uncovered (any_setting rfl rfl) (.zone _) nofun now
  | @roomMode _ r _ found held _ =>
    refine ⟨.room r.id, .room r, .room { r with mode, veto := none }, found,
      Installation.component?_room held,
      Installation.component?_room (Installation.room?_modeCalls held), ⟨rfl, rfl⟩, ?_⟩
    unfold Room.modeCalls
    rw [List.append_assoc, room_vetoRemoval_eq]
    exact i.uncovered (any_setting rfl rfl) (.room _) nofun now
  | @waterMode _ w _ found held _ =>
    refine ⟨.hotWater w.id, .hotWater w, .hotWater { w with mode }, found,
      Installation.component?_hotWater held,
      Installation.component?_hotWater (Installation.hotWater?_modeCalls held), rfl, ?_⟩
    exact i.uncovered rfl (.hotWater _) nofun now

/-- A mode that a request set is the component's own mode in the resulting snapshot, without a
veto, and it is in force unless a holiday and a quick mode both governed the component. An HVAC
mode that a request set is what the thermostat then shows, with the same exception. -/
theorem mode_takes_effect :
    (∀ mode, site.submit session now (.setMode entity mode) = (.ok done, next) →
      ∃ id i j c c', site.hub.componentOf entity = .ok id ∧
        site.hub.snapshot.installation = some i ∧ next.hub.snapshot.installation = some j ∧
        i.component? id = some c ∧ j.component? id = some c' ∧ c'.IsSetTo mode ∧
        ((c'.effective j now).mode = .operating mode ↔
          ¬(i.Away now.date ∧ i.Boosted c.kind))) ∧
    (∀ hvac, site.submit session now (.setHvac entity hvac) = (.ok done, next) →
      ∃ id i j c, site.hub.componentOf entity = .ok id ∧
        site.hub.snapshot.installation = some i ∧ next.hub.snapshot.installation = some j ∧
        i.component? id = some c ∧
        (¬(i.Away now.date ∧ i.Boosted c.kind) →
          ∃ view, j.climateView? id now = some view ∧ view.hvac = hvac)) := by
  constructor
  · intro mode h
    obtain ⟨calls, hp, hn⟩ := hub_of_submit_ok h
    obtain ⟨i, hi, planned⟩ := planned_of_plan hp
    obtain ⟨id, c, c', found, hc, hc', set, uncovered⟩ := set_of_planned planned
    refine ⟨id, i, i.following calls, c, c', found, hi, ?_, hc, hc', set, ?_⟩
    · rw [hn, snapshot_patched hi planned.orderly]
    · exact Installation.mode_effective_iff hc hc' set uncovered
  · intro hvac h
    obtain ⟨calls, hp, hn⟩ := hub_of_submit_ok h
    obtain ⟨i, hi, planned⟩ := planned_of_plan hp
    have orderly := planned.orderly
    cases planned with
    | hvac found' means asks =>
      obtain ⟨id, c, c', found, hc, hc', set, uncovered⟩ := set_of_planned asks
      obtain rfl := Except.ok.inj (found'.symm.trans found)
      refine ⟨_, i, i.following calls, c, found, hi, ?_, hc, ?_⟩
      · rw [hn, snapshot_patched hi orderly]
      · intro unmasked
        have inForce := (Installation.mode_effective_iff hc hc' set uncovered).2 unmasked
        exact Installation.climateView?_of_operating hc' means inForce

end Requests

/-- A zone on holiday is switched to cooling and shows it, though it is colder than its target. -/
theorem mode_takes_effect_on_holiday :
    let hub : Hub := { Hub.new 300 180 with
      snapshot := ⟨some { Installation.empty with
        holiday := some (.between ⟨738000⟩ ⟨738009⟩ 15)
        zones := [⟨"1", "Ground", .ofDays (.replicate 7 []), some 12, 21, 18, .auto,
          some ⟨25, none⟩, none, false⟩] }, 1⟩
      registry := .register .empty (.ofComponent "climate.ground" "Ground" (.zone "1") true) }
    let now : Moment := ⟨⟨738003⟩, .midnight⟩
    (∃ next j c, (Site.new hub ()).submit .obliging now (.setMode "climate.ground" .night) =
        (.ok true, next) ∧ next.hub.snapshot.installation = some j ∧
      j.component? (.zone "1") = some c ∧ c.IsSetTo .night ∧
      (c.effective j now).mode = .operating .night) ∧
    ∃ next j view, (Site.new hub ()).submit .obliging now (.setHvac "climate.ground" .cool) =
        (.ok true, next) ∧ next.hub.snapshot.installation = some j ∧
      j.climateView? (.zone "1") now = some view ∧ view.hvac = .cool := by
  intro hub now
  have unmasked : ¬((hub.snapshot.installation.getD .empty).Away now.date ∧
      (hub.snapshot.installation.getD .empty).Boosted .zone) := by
    rintro ⟨_, _, hq, _⟩
    cases hq
  constructor
  · obtain ⟨next, h⟩ : ∃ next, (Site.new hub ()).submit .obliging now
        (.setMode "climate.ground" .night) = (.ok true, next) := ⟨_, rfl⟩
    obtain ⟨id, i, j, c, c', found, hi, hj, hc, hc', set, inForce⟩ := mode_takes_effect.1 _ h
    obtain rfl := Except.ok.inj found
    obtain rfl := Option.some.inj hi
    obtain rfl := Option.some.inj hc
    exact ⟨next, j, c', h, hj, hc', set, inForce.2 unmasked⟩
  · obtain ⟨next, h⟩ : ∃ next, (Site.new hub ()).submit .obliging now
        (.setHvac "climate.ground" .cool) = (.ok true, next) := ⟨_, rfl⟩
    obtain ⟨id, i, j, c, found, hi, hj, hc, shown⟩ := mode_takes_effect.2 _ h
    obtain rfl := Except.ok.inj found
    obtain rfl := Option.some.inj hi
    obtain rfl := Option.some.inj hc
    obtain ⟨view, hv, cooling⟩ := shown unmasked
    exact ⟨next, j, view, h, hj, hv, cooling⟩

end HeatingHub

import HeatingHub.Entity
import HeatingHub.Proofs.Hub.Effect

/-!
# What entities show after a call

A call for one component leaves the overrides and every other component as they are, and nothing
that a readout tells (`Readout.state_effect`). So only the entities of that component can show
something new (`Handle.state_effect`).
-/

namespace HeatingHub

open Calendar (Moment)

/-! ## Records that are left alone -/

section First

variable {α β : Type} {p q : α → Bool} {f : α → α}

/-- An element that `p` does not find is found as before. -/
theorem find?_modifyFirst_of_other (hf : ∀ x, p x = true → q x = false ∧ q (f x) = false)
    (l : List α) : (modifyFirst p f l).find? q = l.find? q := by
  induction l with
  | nil => rfl
  | cons x l ih =>
    cases hx : p x with
    | true =>
      obtain ⟨before, after⟩ := hf x hx
      rw [modifyFirst_cons_of_pos hx, List.find?_cons_of_neg (by simp [after]),
        List.find?_cons_of_neg (by simp [before])]
    | false =>
      rw [modifyFirst_cons_of_neg hx, List.find?_cons, List.find?_cons, ih]

/-- What the change does not touch stays in its place. -/
theorem map_modifyFirst {g : α → β} (hg : ∀ x, g (f x) = g x) (l : List α) :
    (modifyFirst p f l).map g = l.map g := by
  induction l with
  | nil => rfl
  | cons x l ih =>
    cases hx : p x with
    | true => rw [modifyFirst_cons_of_pos hx, List.map_cons, List.map_cons, hg]
    | false => rw [modifyFirst_cons_of_neg hx, List.map_cons, List.map_cons, ih]

end First

namespace Installation

variable {i : Installation} {id : ComponentId} {name : String}

theorem component?_onZone_of_ne {f : Zone → Zone} (hf : ∀ z, (f z).id = z.id)
    (other : id ≠ .zone name) : (i.onZone name f).component? id = i.component? id := by
  cases id with
  | zone id =>
    refine congrArg (Option.map Component.zone) (find?_modifyFirst_of_other ?_ i.zones)
    intro z hz
    have ne : name ≠ id := fun same => other (same ▸ rfl)
    simp_all
  | room _ | hotWater _ | circulation _ => rfl

theorem component?_onRoom_of_ne {f : Room → Room} (hf : ∀ r, (f r).id = r.id)
    (other : id ≠ .room name) : (i.onRoom name f).component? id = i.component? id := by
  cases id with
  | room id =>
    refine congrArg (Option.map Component.room) (find?_modifyFirst_of_other ?_ i.rooms)
    intro r hr
    have ne : name ≠ id := fun same => other (same ▸ rfl)
    simp_all
  | zone _ | hotWater _ | circulation _ => rfl

theorem component?_onHotWater_of_ne {f : HotWater → HotWater} (hf : ∀ w, (f w).id = w.id)
    (other : id ≠ .hotWater name) :
    (i.onHotWater name f).component? id = i.component? id := by
  cases id with
  | hotWater id =>
    refine congrArg (Option.map Component.hotWater) ?_
    have ne : name ≠ id := fun same => other (same ▸ rfl)
    unfold hotWater? onHotWater
    cases i.hotWater with
    | none => rfl
    | some w =>
      by_cases hw : w.id = name
      · have missed : w.id ≠ id := hw ▸ ne
        simp [Option.filter_some, hw, hf, ne]
      · simp [hw]
  | zone _ | room _ | circulation _ => rfl

end Installation

/-- A call for a component leaves all others alone. -/
theorem component?_effect {call : Call} {id : ComponentId} (other : call.component? ≠ some id)
    (i : Installation) : (call.effect i).component? id = i.component? id := by
  have ne : ∀ {acted}, call.component? = some acted → id ≠ acted := by
    rintro acted named rfl
    exact other named
  cases call with
  | setHotWaterMode _ _ | setHotWaterTarget _ _ =>
    exact Installation.component?_onHotWater_of_ne (fun _ => rfl) (ne rfl)
  | setRoomMode _ _ | setRoomTarget _ _ | setRoomVeto _ _ | removeRoomVeto _ =>
    exact Installation.component?_onRoom_of_ne (fun _ => rfl) (ne rfl)
  | setZoneMode _ _ | setZoneVeto _ _ | removeZoneVeto _ =>
    exact Installation.component?_onZone_of_ne (fun _ => rfl) (ne rfl)
  | setQuickMode _ | removeQuickMode | setHoliday _ _ _ | removeHoliday => cases id <;> rfl

/-! ## Descriptions -/

section Descriptions

variable {i j : Installation} (holiday : j.holiday = i.holiday)
  (quickMode : j.quickMode = i.quickMode)

include holiday quickMode

/-- The mode in force follows from the overrides and the component. -/
theorem effective_congr (c : Component) (now : Moment) :
    c.effective j now = c.effective i now := by
  have applied : j.appliedHoliday now.date = i.appliedHoliday now.date := by
    unfold Installation.appliedHoliday
    rw [holiday]
  cases c <;> simp only [Component.effective, Installation.effectiveZone,
    Installation.effectiveRoom, Installation.effectiveHotWater, Installation.effectiveCirculation,
    applied, quickMode]

theorem describe_congr {id : ComponentId} (record : j.component? id = i.component? id)
    (now : Moment) : j.describe id now = i.describe id now := by
  have effective := fun c => effective_congr holiday quickMode c now
  unfold Installation.describe
  rw [record]
  cases i.component? id with
  | none => rfl
  | some c =>
    cases c with
    | zone z =>
      have same : j.effectiveZone z now = i.effectiveZone z now := effective (.zone z)
      simp only [Installation.zoneView, same]
    | room r =>
      have same : j.effectiveRoom r now = i.effectiveRoom r now := effective (.room r)
      simp only [Installation.roomView, same]
    | hotWater w =>
      have same : j.effectiveHotWater w now = i.effectiveHotWater w now := effective (.hotWater w)
      simp only [same]
    | circulation c =>
      have same : j.effectiveCirculation c now = i.effectiveCirculation c now :=
        effective (.circulation c)
      simp only [same]

end Descriptions

/-! ## Readouts -/

/-- What readouts tell of a room. -/
def Room.sensed (r : Room) : String × Bool × Bool × List Device :=
  (r.name, r.windowOpen, r.childLock, r.devices)

theorem map_find?_congr {α β γ : Type} {l m : List α} {k : α → γ} (same : l.map k = m.map k)
    (p : γ → Bool) (g : γ → β) :
    (l.find? fun x => p (k x)).map (fun x => g (k x)) =
      (m.find? fun x => p (k x)).map fun x => g (k x) := by
  have through (n : List α) :
      (n.find? fun x => p (k x)).map (fun x => g (k x)) = ((n.map k).find? p).map g := by
    rw [List.find?_map, Option.map_map]
    rfl
  rw [through, through, same]

theorem flatMap_congr_map {α β γ : Type} {l m : List α} {k : α → γ} (same : l.map k = m.map k)
    (g : γ → List β) : (l.flatMap fun x => g (k x)) = m.flatMap fun x => g (k x) := by
  have through (n : List α) : (n.flatMap fun x => g (k x)) = (n.map k).flatMap g := by
    rw [List.flatMap_map]
  rw [through, through, same]

theorem Readout.state_onRoom {f : Room → Room} (hf : ∀ r, (f r).sensed = r.sensed)
    (readout : Readout) (i : Installation) (name : String) (now : Moment) :
    readout.state (i.onRoom name f) now = readout.state i now := by
  -- readouts look rooms up by name, not by the id that the change goes by
  have same : (i.onRoom name f).rooms.map Room.sensed = i.rooms.map Room.sensed :=
    map_modifyFirst hf i.rooms
  have devices : (i.onRoom name f).rooms.flatMap (·.devices) = i.rooms.flatMap (·.devices) :=
    flatMap_congr_map same (·.2.2.2)
  have device (serial : String) : (i.onRoom name f).device? serial = i.device? serial := by
    unfold Installation.device?
    rw [devices]
  cases readout with
  | window room =>
    exact congrArg onOff? (map_find?_congr same (·.1 == room) (·.2.1))
  | battery serial =>
    show onOff? (((i.onRoom name f).device? serial).map (·.batteryLow)) = _
    rw [device]
    rfl
  | connectivity serial =>
    show onOff? (((i.onRoom name f).device? serial).map (!·.outOfReach)) = _
    rw [device]
    rfl
  | childLock serial =>
    exact congrArg onOff? (map_find?_congr same (·.2.2.2.any (·.serial == serial)) (·.2.2.1))
  | component | systemOnline | systemUpdate | boilerFailure | holiday | quickMode | fault _
  | outdoorTemperature | waterPressure | flowTemperature => rfl

/-- No readout tells of what a call for a component changes. -/
theorem Readout.state_effect {call : Call} (own : call.isSystemWide = false) (readout : Readout)
    (i : Installation) (now : Moment) :
    readout.state (call.effect i) now = readout.state i now := by
  cases call with
  | setRoomMode _ _ | setRoomTarget _ _ | setRoomVeto _ _ | removeRoomVeto _ =>
    refine readout.state_onRoom ?_ i _ now
    intro r
    rfl
  | setHotWaterMode _ _ | setHotWaterTarget _ _ | setZoneMode _ _ | setZoneVeto _ _
  | removeZoneVeto _ => cases readout <;> rfl
  | setQuickMode _ | removeQuickMode | setHoliday _ _ _ | removeHoliday => cases own

/-! ## Entities -/

/-- A call concerns an entity if it touches the overrides or the component of the entity. -/
def Call.Concerns (call : Call) (h : Handle) : Prop :=
  call.isSystemWide = true ∨ ∃ id, call.component? = some id ∧ h.component = some id

/-- An entity that a call does not concern shows what it showed. -/
theorem Handle.state_effect {call : Call} {h : Handle} (apart : ¬call.Concerns h)
    (i : Installation) (now : Moment) : h.state (call.effect i) now = h.state i now := by
  have own : call.isSystemWide = false := by
    rw [← Bool.not_eq_true]
    exact fun wide => apart (.inl wide)
  unfold Handle.state
  cases hc : h.component with
  | none => exact h.readout.state_effect own i now
  | some id =>
    have other : call.component? ≠ some id := fun named => apart (.inr ⟨id, named, hc⟩)
    obtain ⟨holiday, quickMode⟩ := overrides_effect own i
    exact describe_congr holiday quickMode (component?_effect other i) now

end HeatingHub

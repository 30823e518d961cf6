import HeatingHub.Session

/-!
# What calls change

A call that succeeds changes one record of the installation: the first one with the id in the call,
or one of the two overrides. `Call.effect` says so without patches, and `applied?_patch` that the
patch of a call has just this effect wherever the component that the call names exists.
-/

namespace HeatingHub

/-! ## The first record that fits -/

/-- Changes the first element that `p` accepts, if there is one. -/
def modifyFirst {α : Type} (p : α → Bool) (f : α → α) (l : List α) : List α :=
  l.modify (l.findIdx p) f

section First

variable {α : Type} {p : α → Bool} {f : α → α}

theorem modifyFirst_cons_of_pos {x : α} (h : p x = true) (l : List α) :
    modifyFirst p f (x :: l) = f x :: l := by
  unfold modifyFirst
  rw [List.findIdx_cons, h]
  rfl

theorem modifyFirst_cons_of_neg {x : α} (h : p x = false) (l : List α) :
    modifyFirst p f (x :: l) = x :: modifyFirst p f l := by
  unfold modifyFirst
  rw [List.findIdx_cons, h]
  rfl

/-- A change that `p` does not see is made to the element that `p` finds. -/
theorem find?_modifyFirst (hf : ∀ x, p (f x) = p x) (l : List α) :
    (modifyFirst p f l).find? p = (l.find? p).map f := by
  induction l with
  | nil => rfl
  | cons x l ih =>
    cases hx : p x with
    | true =>
      rw [modifyFirst_cons_of_pos hx, List.find?_cons_of_pos (by rw [hf, hx]),
        List.find?_cons_of_pos hx]
      rfl
    | false =>
      rw [modifyFirst_cons_of_neg hx, List.find?_cons_of_neg (by simp [hx]),
        List.find?_cons_of_neg (by simp [hx]), ih]

theorem updateFirst?_eq_some {l : List α} (h : (l.find? p).isSome) :
    updateFirst? p f l = some (modifyFirst p f l) := by
  induction l with
  | nil => simp at h
  | cons x l ih =>
    unfold updateFirst?
    cases hx : p x with
    | true => rw [modifyFirst_cons_of_pos hx]; rfl
    | false =>
      rw [List.find?_cons_of_neg (by simp [hx])] at h
      rw [modifyFirst_cons_of_neg hx, ih h]
      rfl

end First

/-! ## One component changed -/

namespace Installation

/-- Changes the first zone with the id. -/
def onZone (i : Installation) (id : String) (f : Zone → Zone) : Installation :=
  { i with zones := modifyFirst (·.id == id) f i.zones }

/-- Changes the first room with the id. -/
def onRoom (i : Installation) (id : String) (f : Room → Room) : Installation :=
  { i with rooms := modifyFirst (·.id == id) f i.rooms }

/-- Changes the hot water, if it has the id. -/
def onHotWater (i : Installation) (id : String) (f : HotWater → HotWater) : Installation :=
  { i with hotWater := i.hotWater.map fun h => if h.id == id then f h else h }

variable {i : Installation} {id : String}

theorem zone_id {z : Zone} (h : i.zone? id = some z) : z.id = id := by
  simpa using List.find?_some h

theorem room_id {r : Room} (h : i.room? id = some r) : r.id = id := by
  simpa using List.find?_some h

theorem hotWater_id {w : HotWater} (h : i.hotWater? id = some w) : w.id = id := by
  simpa using (Option.filter_eq_some_iff.1 h).2

theorem component?_zone {z : Zone} (h : i.zone? id = some z) :
    i.component? (.zone id) = some (.zone z) :=
  congrArg (Option.map Component.zone) h

theorem component?_room {r : Room} (h : i.room? id = some r) :
    i.component? (.room id) = some (.room r) :=
  congrArg (Option.map Component.room) h

theorem component?_hotWater {w : HotWater} (h : i.hotWater? id = some w) :
    i.component? (.hotWater id) = some (.hotWater w) :=
  congrArg (Option.map Component.hotWater) h

theorem zone?_onZone {f : Zone → Zone} (hf : ∀ z, (f z).id = z.id) :
    (i.onZone id f).zone? id = (i.zone? id).map f :=
  find?_modifyFirst (fun z => by rw [hf]) i.zones

theorem room?_onRoom {f : Room → Room} (hf : ∀ r, (f r).id = r.id) :
    (i.onRoom id f).room? id = (i.room? id).map f :=
  find?_modifyFirst (fun r => by rw [hf]) i.rooms

theorem hotWater?_onHotWater {f : HotWater → HotWater} (hf : ∀ h, (f h).id = h.id) :
    (i.onHotWater id f).hotWater? id = (i.hotWater? id).map f := by
  unfold hotWater? onHotWater
  cases i.hotWater with
  | none => rfl
  | some w => by_cases hw : w.id = id <;> simp [Option.filter_some, hw, hf]

theorem updateZone?_eq_some {f : Zone → Zone} (h : (i.zone? id).isSome) :
    i.updateZone? id f = some (i.onZone id f) := by
  unfold updateZone?
  rw [updateFirst?_eq_some h]
  rfl

theorem updateRoom?_eq_some {f : Room → Room} (h : (i.room? id).isSome) :
    i.updateRoom? id f = some (i.onRoom id f) := by
  unfold updateRoom?
  rw [updateFirst?_eq_some h]
  rfl

theorem updateHotWater?_eq_some {f : HotWater → HotWater} (h : (i.hotWater? id).isSome) :
    i.updateHotWater? id f = some (i.onHotWater id f) := by
  obtain ⟨w, hw⟩ := Option.isSome_iff_exists.1 h
  obtain ⟨hi, hid⟩ := Option.filter_eq_some_iff.1 hw
  unfold updateHotWater? onHotWater
  rw [hw, hi, Option.map_some, Option.map_some, if_pos hid]

end Installation

/-! ## Effects of calls -/

namespace Call

/-- The installation once the API carried out the call. -/
def effect (i : Installation) : Call → Installation
  | setHotWaterMode id mode => i.onHotWater id fun h => { h with mode }
  | setHotWaterTarget id target => i.onHotWater id fun h => { h with target }
  | setRoomMode id mode => i.onRoom id fun r => { r with mode }
  | setRoomTarget id target => i.onRoom id fun r => { r with target }
  | setRoomVeto id veto => i.onRoom id fun r => { r with veto := some veto }
  | removeRoomVeto id => i.onRoom id fun r => { r with veto := none }
  | setZoneMode id mode => i.onZone id fun z => { z with mode }
  | setZoneVeto id veto => i.onZone id fun z => { z with veto := some veto }
  | removeZoneVeto id => i.onZone id fun z => { z with veto := none }
  | setQuickMode mode => { i with quickMode := some mode }
  | removeQuickMode => { i with quickMode := none }
  | setHoliday start finish target => { i with holiday := some (.between start finish target) }
  | removeHoliday => { i with holiday := some .inactive }

/-- The component that the call names. -/
def component? : Call → Option ComponentId
  | setHotWaterMode id _ | setHotWaterTarget id _ => some (.hotWater id)
  | setRoomMode id _ | setRoomTarget id _ | setRoomVeto id _ | removeRoomVeto id => some (.room id)
  | setZoneMode id _ | setZoneVeto id _ | removeZoneVeto id => some (.zone id)
  | setQuickMode _ | removeQuickMode | setHoliday .. | removeHoliday => none

/-- The component that the call names is part of the installation. -/
def Lands (i : Installation) (call : Call) : Prop :=
  ∀ id, call.component? = some id → (i.component? id).isSome

end Call

/-- Where the component exists, the patch of a call is its effect. -/
theorem applied?_patch {i : Installation} {call : Call} (h : call.Lands i) :
    call.patch.applied? i = some (call.effect i) := by
  have zone : ∀ id, call.component? = some (.zone id) → (i.zone? id).isSome := fun id hid => by
    simpa [Installation.component?] using h _ hid
  have room : ∀ id, call.component? = some (.room id) → (i.room? id).isSome := fun id hid => by
    simpa [Installation.component?] using h _ hid
  have water : ∀ id, call.component? = some (.hotWater id) → (i.hotWater? id).isSome :=
    fun id hid => by simpa [Installation.component?] using h _ hid
  cases call with
  | setHotWaterMode id _ | setHotWaterTarget id _ =>
    exact Installation.updateHotWater?_eq_some (water id rfl)
  | setRoomMode id _ | setRoomTarget id _ | setRoomVeto id _ | removeRoomVeto id =>
    exact Installation.updateRoom?_eq_some (room id rfl)
  | setZoneMode id _ | setZoneVeto id _ | removeZoneVeto id =>
    exact Installation.updateZone?_eq_some (zone id rfl)
  | setQuickMode _ | removeQuickMode | setHoliday _ _ _ | removeHoliday => rfl

/-- Calls for components leave the overrides alone. -/
theorem overrides_effect {call : Call} (own : call.isSystemWide = false) (i : Installation) :
    (call.effect i).holiday = i.holiday ∧ (call.effect i).quickMode = i.quickMode := by
  cases call with
  | setQuickMode _ | removeQuickMode | setHoliday _ _ _ | removeHoliday => cases own
  | setHotWaterMode _ _ | setHotWaterTarget _ _ | setRoomMode _ _ | setRoomTarget _ _
  | setRoomVeto _ _ | removeRoomVeto _ | setZoneMode _ _ | setZoneVeto _ _
  | removeZoneVeto _ => exact ⟨rfl, rfl⟩

/-- The installation once the API carried out calls one after another. -/
def Installation.following (i : Installation) (calls : List Call) : Installation :=
  calls.foldl Call.effect i

namespace Installation

@[simp] theorem following_nil (i : Installation) : i.following [] = i := rfl

@[simp] theorem following_cons (i : Installation) (call : Call) (calls : List Call) :
    i.following (call :: calls) = (call.effect i).following calls := rfl

theorem following_append (i : Installation) (calls more : List Call) :
    i.following (calls ++ more) = (i.following calls).following more :=
  List.foldl_append

/-- What no call changes, all of them together do not change. -/
theorem find_following {α : Type} (find : Installation → α) {calls : List Call}
    (h : ∀ call ∈ calls, ∀ i, find (call.effect i) = find i) (i : Installation) :
    find (i.following calls) = find i := by
  induction calls generalizing i with
  | nil => rfl
  | cons call calls ih =>
    rw [following_cons, ih (fun other ho => h other (List.mem_cons_of_mem call ho)),
      h call List.mem_cons_self]

end Installation

end HeatingHub

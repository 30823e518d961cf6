import HeatingHub.Proofs.Hub.Operation
import HeatingHub.Proofs.Registry.Synchronisation

/-!
# Components with an entity

A component is controlled through the entity that is registered for it. Of several handles with one
id only the first is registered (`Registry.mem_sync_empty`), and ids are told apart by their domain,
by the class at their end and by the slug between them. So hot water and circulation always have
their entity, and a zone or a room has one unless another one before it has its slug.
-/

namespace HeatingHub

/-! ## Ids told apart -/

section Ids

variable {domain domain' subject subject' : String} {deviceClass : Option String}

theorem entityId_inj :
    entityId domain subject deviceClass = entityId domain subject' deviceClass ↔
      Text.slug subject = Text.slug subject' := by
  simp only [entityId, String.ext_iff, String.toList_append, List.append_cancel_right_eq,
    List.append_cancel_left_eq]

/-- Ids of domains that begin differently differ. -/
theorem entityId_ne_of_head (c c' : Char) (hd : domain.toList.head? = some c)
    (hd' : domain'.toList.head? = some c') (apart : c ≠ c') (deviceClass' : Option String) :
    entityId domain subject deviceClass ≠ entityId domain' subject' deviceClass' := by
  intro same
  have heads := congrArg (·.toList.head?) same
  simp only [entityId, String.toList_append, List.head?_append, hd, hd', Option.some_or] at heads
  exact apart (Option.some.inj heads)

/-- Ids with classes that end differently differ. -/
theorem entityId_ne_of_last {last last' : String} (c c' : Char)
    (hl : last.toList.getLast? = some c) (hl' : last'.toList.getLast? = some c') (apart : c ≠ c') :
    entityId domain subject (some last) ≠ entityId domain' subject' (some last') := by
  intro same
  have ends := congrArg (·.toList.getLast?) same
  simp only [entityId, Option.map_some, Option.getD_some, String.toList_append,
    List.getLast?_append, hl, hl', Option.some_or] at ends
  exact apart (Option.some.inj ends)

end Ids

/-! ## Handles of components -/

section Handles

variable {h : Handle} {id : ComponentId}

theorem component_device {d : Device} (hh : h ∈ d.handles) : h.component = none := by
  unfold Device.handles at hh
  split at hh <;> simp only [List.nil_append, List.cons_append, List.mem_cons,
    List.not_mem_nil, or_false] at hh
  · rcases hh with rfl | rfl | rfl <;> rfl
  · rcases hh with rfl | rfl <;> rfl

/-- The id ends in a class of the readouts that rooms and their devices have. -/
def EndsInRoomClass (id : String) : Prop :=
  ∃ subject, ∃ deviceClass ∈ ["window", "lock", "battery", "connectivity"],
    id = entityId binarySensorDomain subject (some deviceClass)

theorem id_device {d : Device} (hh : h ∈ d.handles) : EndsInRoomClass h.id := by
  refine ⟨d.serial, ?_⟩
  unfold Device.handles at hh
  split at hh <;> simp only [List.nil_append, List.cons_append, List.mem_cons,
    List.not_mem_nil, or_false] at hh
  · rcases hh with rfl | rfl | rfl
    · exact ⟨"lock", by simp, rfl⟩
    · exact ⟨"battery", by simp, rfl⟩
    · exact ⟨"connectivity", by simp, rfl⟩
  · rcases hh with rfl | rfl
    · exact ⟨"battery", by simp, rfl⟩
    · exact ⟨"connectivity", by simp, rfl⟩

theorem mem_room {r : Room} (hh : h ∈ r.handles) :
    h = r.handle ∨ (h.component = none ∧ EndsInRoomClass h.id) := by
  unfold Room.handles at hh
  rw [List.mem_cons, List.mem_cons, List.mem_flatMap] at hh
  rcases hh with rfl | rfl | ⟨d, _, hd⟩
  · exact .inl rfl
  · exact .inr ⟨rfl, r.name, "window", by simp, rfl⟩
  · exact .inr ⟨component_device hd, id_device hd⟩

theorem eq_handle_of_mem_room {r : Room} (hh : h ∈ r.handles) (named : h.component = some id) :
    h = r.handle := by
  rcases mem_room hh with same | ⟨none, _⟩
  · exact same
  · rw [none] at named
    cases named

end Handles

/-! ## Ids of components told apart -/

section Apart

variable {z : Zone} {r : Room} {w : HotWater} {c : Circulation} {h : Handle} {id : String}

theorem Room.handle_id_ne (ends : EndsInRoomClass id) : id ≠ r.handle.id := by
  obtain ⟨subject, deviceClass, _, rfl⟩ := ends
  exact entityId_ne_of_head 'b' 'c' rfl rfl (by decide) none

theorem HotWater.handle_id_ne_zone : z.handle.id ≠ w.handle.id :=
  entityId_ne_of_head 'c' 'w' rfl rfl (by decide) none

theorem HotWater.handle_id_ne_room (hh : h ∈ r.handles) : h.id ≠ w.handle.id := by
  rcases mem_room hh with rfl | ⟨_, subject, deviceClass, _, ends⟩
  · exact entityId_ne_of_head 'c' 'w' rfl rfl (by decide) none
  · rw [ends]
    exact entityId_ne_of_head 'b' 'w' rfl rfl (by decide) none

theorem Circulation.handle_id_ne_zone : z.handle.id ≠ c.handle.id :=
  entityId_ne_of_head 'c' 'b' rfl rfl (by decide) _

theorem Circulation.handle_id_ne_hotWater : w.handle.id ≠ c.handle.id :=
  entityId_ne_of_head 'w' 'b' rfl rfl (by decide) _

theorem Circulation.handle_id_ne_room (hh : h ∈ r.handles) :
    h.id ≠ c.handle.id := by
  rcases mem_room hh with rfl | ⟨_, subject, deviceClass, known, ends⟩
  · exact entityId_ne_of_head 'c' 'b' rfl rfl (by decide) _
  · rw [ends]
    simp only [List.mem_cons, List.not_mem_nil, or_false] at known
    rcases known with rfl | rfl | rfl | rfl
    · exact entityId_ne_of_last 'w' 'r' rfl rfl (by decide)
    · exact entityId_ne_of_last 'k' 'r' rfl rfl (by decide)
    · exact entityId_ne_of_last 'y' 'r' rfl rfl (by decide)
    · exact entityId_ne_of_last 'y' 'r' rfl rfl (by decide)

end Apart

namespace Installation

/-- The zones with an entity. -/
def ownZones (i : Installation) : List Zone := i.zones.filter (!·.roomByRoom)

/-- The handles of what has no settings. -/
def readouts (i : Installation) : List Handle :=
  i.boilerStatus.toList.map (·.handle) ++
  (if i.status.isSome then SystemStatus.handles else []) ++
  overrideHandles ++
  i.faults.map (·.handle) ++
  (if i.outdoorTemperature.isSome then
    [.ofReadout (entityId sensorDomain "outdoor" (some "temperature")) "Outdoor"
      .outdoorTemperature]
  else []) ++
  i.boilerInfo.toList.flatMap fun b =>
    b.handles ((i.boilerStatus.map (·.deviceName)).getD "boiler")

variable {i : Installation} {h : Handle} {id : ComponentId}

theorem discover_eq (i : Installation) : i.discover =
    i.ownZones.map (·.handle) ++ (i.rooms.flatMap (·.handles) ++
      (i.hotWater.toList.map (·.handle) ++ (i.circulation.toList.map (·.handle) ++ i.readouts))) := by
  simp only [discover, ownZones, readouts, List.append_assoc]

theorem component_of_mem_readouts (hh : h ∈ i.readouts) : h.component = none := by
  unfold readouts at hh
  simp only [List.mem_append, or_assoc] at hh
  rcases hh with boiler | status | override | fault | outdoor | info
  · obtain ⟨b, _, rfl⟩ := List.mem_map.1 boiler
    rfl
  · split at status
    · rcases List.mem_pair.1 status with rfl | rfl <;> rfl
    · cases status
  · rcases List.mem_pair.1 override with rfl | rfl <;> rfl
  · obtain ⟨f, _, rfl⟩ := List.mem_map.1 fault
    rfl
  · split at outdoor
    · obtain rfl := List.mem_singleton.1 outdoor
      rfl
    · cases outdoor
  · obtain ⟨b, _, hb⟩ := List.mem_flatMap.1 info
    unfold BoilerInfo.handles at hb
    rcases List.mem_append.1 hb with hb | hb <;> split at hb
    · obtain rfl := List.mem_singleton.1 hb
      rfl
    · cases hb
    · obtain rfl := List.mem_singleton.1 hb
      rfl
    · cases hb

/-- The handle that names a component is the one of the component. -/
theorem handle_of_component (hh : h ∈ i.discover) (named : h.component = some id) :
    (∃ z ∈ i.ownZones, h = z.handle) ∨ (∃ r ∈ i.rooms, h = r.handle) ∨
      (∃ w ∈ i.hotWater, h = w.handle) ∨ ∃ c ∈ i.circulation, h = c.handle := by
  rw [discover_eq] at hh
  simp only [List.mem_append] at hh
  rcases hh with zone | room | water | circulation | readout
  · obtain ⟨z, hz, rfl⟩ := List.mem_map.1 zone
    exact .inl ⟨z, hz, rfl⟩
  · obtain ⟨r, hr, hh⟩ := List.mem_flatMap.1 room
    exact .inr (.inl ⟨r, hr, eq_handle_of_mem_room hh named⟩)
  · obtain ⟨w, hw, rfl⟩ := List.mem_map.1 water
    exact .inr (.inr (.inl ⟨w, Option.mem_toList.1 hw, rfl⟩))
  · obtain ⟨c, hc, rfl⟩ := List.mem_map.1 circulation
    exact .inr (.inr (.inr ⟨c, Option.mem_toList.1 hc, rfl⟩))
  · rw [component_of_mem_readouts readout] at named
    cases named

end Installation

/-! ## First handles -/

/-- What stands first under its id is found under it. -/
theorem find?_id_append {before : List Handle} {h : Handle} (after : List Handle)
    (once : h ∉ before) :
    (before ++ h :: after).find? (·.id == h.id) = some h ↔ ∀ g ∈ before, g.id ≠ h.id := by
  have here : (h :: after).find? (·.id == h.id) = some h :=
    List.find?_cons_of_pos (beq_self_eq_true _)
  rw [List.find?_append, here]
  cases found : before.find? (·.id == h.id) with
  | none =>
    rw [Option.none_or, eq_self, true_iff]
    intro g hg same
    exact List.find?_eq_none.1 found g hg (beq_iff_eq.2 same)
  | some g =>
    have hg := List.mem_of_find?_eq_some found
    have same : g.id = h.id := by simpa using List.find?_some found
    rw [Option.some_or]
    constructor
    · intro hgh
      rw [Option.some.inj hgh] at hg
      exact absurd hg once
    · intro apart
      exact absurd same (apart g hg)

namespace Registry

variable {i : Installation} {h : Handle}

/-- An empty registry takes the first of the handles with one id. -/
theorem mem_sync_empty :
    h ∈ (empty.sync i).2.handles ↔ i.discover.find? (·.id == h.id) = some h := by
  have kept : empty.kept i = empty := kept_eq_self nofun
  have found : (empty.sync i).2.get? h.id = i.discover.find? (·.id == h.id) := by
    rw [get?_sync, kept]
    rfl
  rw [← found]
  exact ⟨get?_of_mem, mem_of_get?⟩

end Registry

/-! ## Components reached -/

namespace Installation

variable {i : Installation} {id : ComponentId}

/-- A registry that was empty has, synchronised with the installation, an entity for the
component. -/
def Reached (i : Installation) (id : ComponentId) : Prop :=
  ∃ h ∈ (Registry.empty.sync i).2.handles, h.component = some id

/-- A component that only one handle names is reached if no handle before it has its id. -/
theorem reached_iff {before after : List Handle} {h : Handle}
    (split : i.discover = before ++ h :: after) (named : h.component = some id)
    (alone : ∀ g ∈ i.discover, g.component = some id → g = h) (once : h ∉ before) :
    i.Reached id ↔ ∀ g ∈ before, g.id ≠ h.id := by
  rw [← find?_id_append after once, ← split, ← Registry.mem_sync_empty]
  constructor
  · rintro ⟨g, hg, hgid⟩
    have discovered := List.mem_of_find?_eq_some (Registry.mem_sync_empty.1 hg)
    rwa [alone g discovered hgid] at hg
  · intro hh
    exact ⟨h, hh, named⟩

theorem ne_of_nodup {α β : Type} {f : α → β} {before after : List α} {a b : α}
    (distinct : ((before ++ a :: after).map f).Nodup) (hb : b ∈ before) : f b ≠ f a := by
  intro same
  rw [List.map_append, List.map_cons, List.nodup_middle, List.nodup_cons] at distinct
  exact distinct.1 (List.mem_append_left _ (same ▸ List.mem_map_of_mem hb))

theorem alone_zone {z : Zone} (distinct : (i.zones.map (·.id)).Nodup) (hz : z ∈ i.zones) :
    ∀ g ∈ i.discover, g.component = some (.zone z.id) → g = z.handle := by
  intro g hg named
  rcases handle_of_component hg named with ⟨y, hy, rfl⟩ | ⟨r, _, rfl⟩ | ⟨w, _, rfl⟩ | ⟨c, _, rfl⟩
  · have same : y.id = z.id := ComponentId.zone.inj (Option.some.inj named)
    rw [List.inj_on_of_nodup_map distinct (List.mem_of_mem_filter hy) hz same]
  all_goals cases named

theorem alone_room {x : Room} (distinct : (i.rooms.map (·.id)).Nodup) (hx : x ∈ i.rooms) :
    ∀ g ∈ i.discover, g.component = some (.room x.id) → g = x.handle := by
  intro g hg named
  rcases handle_of_component hg named with ⟨z, _, rfl⟩ | ⟨r, hr, rfl⟩ | ⟨w, _, rfl⟩ | ⟨c, _, rfl⟩
  case inr.inl =>
    have same : r.id = x.id := ComponentId.room.inj (Option.some.inj named)
    rw [List.inj_on_of_nodup_map distinct hr hx same]
  all_goals cases named

theorem reached_zone {before after : List Zone} {z : Zone}
    (distinct : (i.zones.map (·.id)).Nodup) (split : i.zones = before ++ z :: after)
    (own : z.roomByRoom = false) : i.Reached (.zone z.id) ↔
      ∀ y ∈ before, y.roomByRoom = false → Text.slug y.id ≠ Text.slug z.id := by
  have found : i.discover = (before.filter (!·.roomByRoom)).map (·.handle) ++ z.handle ::
      ((after.filter (!·.roomByRoom)).map (·.handle) ++ (i.rooms.flatMap (·.handles) ++
        (i.hotWater.toList.map (·.handle) ++ (i.circulation.toList.map (·.handle) ++
          i.readouts)))) := by
    rw [discover_eq, ownZones, split, List.filter_append,
      List.filter_cons_of_pos (by rw [own]; rfl), List.map_append, List.map_cons, List.append_assoc,
      List.cons_append]
  have once : z.handle ∉ (before.filter (!·.roomByRoom)).map (·.handle) := by
    intro again
    obtain ⟨y, hy, same⟩ := List.mem_map.1 again
    have id : y.id = z.id :=
      ComponentId.zone.inj (Option.some.inj (congrArg Handle.component same))
    exact ne_of_nodup (split ▸ distinct) (List.mem_of_mem_filter hy) id
  rw [reached_iff found rfl (alone_zone distinct (by simp [split])) once]
  simp only [List.forall_mem_map, List.mem_filter, Bool.not_eq_true', and_imp, Zone.handle,
    Handle.ofComponent, ne_eq, entityId_inj]

theorem reached_room {before after : List Room} {x : Room}
    (distinct : (i.rooms.map (·.id)).Nodup) (split : i.rooms = before ++ x :: after) :
    i.Reached (.room x.id) ↔
      (∀ z ∈ i.zones, z.roomByRoom = false → Text.slug z.id ≠ Text.slug x.name) ∧
        ∀ y ∈ before, Text.slug y.name ≠ Text.slug x.name := by
  have found : i.discover = (i.ownZones.map (·.handle) ++ before.flatMap (·.handles)) ++ x.handle ::
      (x.handles.tail ++ (after.flatMap (·.handles) ++ (i.hotWater.toList.map (·.handle) ++
        (i.circulation.toList.map (·.handle) ++ i.readouts)))) := by
    rw [discover_eq, split, List.flatMap_append, List.flatMap_cons]
    simp only [Room.handles, List.append_assoc, List.cons_append, List.tail_cons]
  have once : x.handle ∉ i.ownZones.map (·.handle) ++ before.flatMap (·.handles) := by
    intro again
    rcases List.mem_append.1 again with zone | room
    · obtain ⟨z, _, same⟩ := List.mem_map.1 zone
      cases congrArg Handle.component same
    · obtain ⟨y, hy, same⟩ := List.mem_flatMap.1 room
      have id : x.id = y.id := ComponentId.room.inj
        (Option.some.inj (congrArg Handle.component (eq_handle_of_mem_room same rfl)))
      exact ne_of_nodup (split ▸ distinct) hy id.symm
  rw [reached_iff found rfl (alone_room distinct (by simp [split])) once, List.forall_mem_append]
  refine and_congr ?_ ?_
  · simp only [ownZones, List.forall_mem_map, List.mem_filter, Bool.not_eq_true', and_imp,
      Zone.handle, Room.handle, Handle.ofComponent, ne_eq, entityId_inj]
  · constructor
    · intro apart y hy same
      refine apart y.handle (List.mem_flatMap.2 ⟨y, hy, List.mem_cons_self⟩) ?_
      exact entityId_inj.2 same
    · intro apart g hg
      obtain ⟨y, hy, hg⟩ := List.mem_flatMap.1 hg
      rcases mem_room hg with rfl | ⟨_, ends⟩
      · exact fun same => apart y hy (entityId_inj.1 same)
      · exact Room.handle_id_ne ends

theorem reached_hotWater {w : HotWater} (hw : i.hotWater = some w) : i.Reached (.hotWater w.id) := by
  have found : i.discover = (i.ownZones.map (·.handle) ++ i.rooms.flatMap (·.handles)) ++
      w.handle :: (i.circulation.toList.map (·.handle) ++ i.readouts) := by
    rw [discover_eq, hw, List.append_assoc]
    rfl
  have apart : ∀ g ∈ i.ownZones.map (·.handle) ++ i.rooms.flatMap (·.handles),
      g.id ≠ w.handle.id := by
    intro g hg
    rcases List.mem_append.1 hg with zone | room
    · obtain ⟨z, _, rfl⟩ := List.mem_map.1 zone
      exact HotWater.handle_id_ne_zone
    · obtain ⟨x, _, hx⟩ := List.mem_flatMap.1 room
      exact HotWater.handle_id_ne_room hx
  refine ⟨w.handle, Registry.mem_sync_empty.2 ?_, rfl⟩
  rw [found, find?_id_append _ fun again => apart _ again rfl]
  exact apart

theorem reached_circulation {c : Circulation} (hc : i.circulation = some c) :
    i.Reached (.circulation c.id) := by
  have found : i.discover = (i.ownZones.map (·.handle) ++ (i.rooms.flatMap (·.handles) ++
      i.hotWater.toList.map (·.handle))) ++ c.handle :: i.readouts := by
    simp only [discover_eq, hc, List.append_assoc, Option.toList_some, List.map_singleton,
      List.singleton_append]
  have apart : ∀ g ∈ i.ownZones.map (·.handle) ++ (i.rooms.flatMap (·.handles) ++
      i.hotWater.toList.map (·.handle)), g.id ≠ c.handle.id := by
    intro g hg
    simp only [List.mem_append] at hg
    rcases hg with zone | room | water
    · obtain ⟨z, _, rfl⟩ := List.mem_map.1 zone
      exact Circulation.handle_id_ne_zone
    · obtain ⟨x, _, hx⟩ := List.mem_flatMap.1 room
      exact Circulation.handle_id_ne_room hx
    · obtain ⟨w, _, rfl⟩ := List.mem_map.1 water
      exact Circulation.handle_id_ne_hotWater
  refine ⟨c.handle, Registry.mem_sync_empty.2 ?_, rfl⟩
  rw [found, find?_id_append _ fun again => apart _ again rfl]
  exact apart

theorem listening_of_component {h : Handle} (hh : h ∈ i.discover) (named : h.component = some id) :
    h.listening = true ↔ id.kind ≠ .circulation := by
  rcases handle_of_component hh named with ⟨z, _, rfl⟩ | ⟨r, _, rfl⟩ | ⟨w, _, rfl⟩ | ⟨c, _, rfl⟩ <;>
    obtain rfl := Option.some.inj named <;>
    simp [ComponentId.kind, Zone.handle, Room.handle, HotWater.handle, Circulation.handle,
      Handle.ofComponent]

end Installation

/-- In a registry that was empty and is synchronised with an installation whose zones have distinct
ids and whose rooms have distinct ids, hot water and circulation have their entity. A zone that is
not controlled room by room has one exactly if no such zone before it has its slug. A room has one
exactly if neither such a zone nor a room before it has its slug. All these entities but that of the
circulation depend on the overrides. -/
theorem entities_of_components (i : Installation) (zones : (i.zones.map (·.id)).Nodup)
    (rooms : (i.rooms.map (·.id)).Nodup) :
    (∀ before z after, i.zones = before ++ z :: after → z.roomByRoom = false →
      (i.Reached (.zone z.id) ↔
        ∀ y ∈ before, y.roomByRoom = false → Text.slug y.id ≠ Text.slug z.id)) ∧
    (∀ before x after, i.rooms = before ++ x :: after →
      (i.Reached (.room x.id) ↔
        (∀ z ∈ i.zones, z.roomByRoom = false → Text.slug z.id ≠ Text.slug x.name) ∧
          ∀ y ∈ before, Text.slug y.name ≠ Text.slug x.name)) ∧
    (∀ w, i.hotWater = some w → i.Reached (.hotWater w.id)) ∧
    (∀ c, i.circulation = some c → i.Reached (.circulation c.id)) ∧
    ∀ h ∈ (Registry.empty.sync i).2.handles, ∀ id, h.component = some id →
      (h.listening = true ↔ id.kind ≠ .circulation) := by
  refine ⟨?_, ?_, ?_, ?_, ?_⟩
  · intro before z after split own
    exact Installation.reached_zone zones split own
  · intro before x after split
    exact Installation.reached_room rooms split
  · intro w hw
    exact Installation.reached_hotWater hw
  · intro c hc
    exact Installation.reached_circulation hc
  · intro h hh id named
    have discovered := List.mem_of_find?_eq_some (Registry.mem_sync_empty.1 hh)
    exact Installation.listening_of_component discovered named

/-- A zone and the first of two bedrooms take the ids of two rooms. -/
theorem entities_of_bedrooms :
    let ground : Zone := ⟨"living", "Ground", .empty, some 19, 21, 18, .auto, none, none, false⟩
    let i := { Installation.ofRooms [("0", "Living"), ("1", "Bedroom"), ("2", "bedroom")] with
      zones := [ground] }
    (i.zones.map (·.id)).Nodup ∧ (i.rooms.map (·.id)).Nodup ∧
      i.Reached (.zone "living") ∧ ¬i.Reached (.room "0") ∧ i.Reached (.room "1") ∧
      ¬i.Reached (.room "2") := by
  intro ground i
  have zones : (i.zones.map (·.id)).Nodup := by decide
  have rooms : (i.rooms.map (·.id)).Nodup := by decide
  obtain ⟨zone, room, _⟩ := entities_of_components i zones rooms
  have living : ¬i.Reached (.room "0") := mt (room [] _ _ rfl).1 (by decide +kernel)
  have first : i.Reached (.room "1") := (room (i.rooms.take 1) _ _ rfl).2 (by decide +kernel)
  have second : ¬i.Reached (.room "2") := mt (room (i.rooms.take 2) _ _ rfl).1 (by decide +kernel)
  exact ⟨zones, rooms, (zone [] ground [] rfl rfl).2 nofun, living, first, second⟩

/-- Of two rooms with one name only the first has an entity. -/
theorem no_entity_of_second_bedroom :
    let i := Installation.ofRooms [("0", "Bedroom"), ("1", "Bedroom")]
    (i.zones.map (·.id)).Nodup ∧ (i.rooms.map (·.id)).Nodup ∧
      ¬∀ r ∈ i.rooms, ∃ h ∈ (Registry.empty.sync i).2.handles,
        h.component = some (.room r.id) ∧ h.listening = true := by
  decide +kernel

end HeatingHub

import HeatingHub.Proofs.Schedule.Order
import HeatingHub.Proofs.Wire.Stages
import Mathlib

/-!
# What an assembly keeps

An assembled installation corresponds to its payloads part by part: `Assembled` says for each part
of the installation which parts of the payloads it comes from, and that nothing else has gone in or
been lost. Where several entries compete, the first one tells the status of the boiler and gives
the hot water, the last one counts for sensors, for the status of the system and for the entries of
a weekday.
-/

namespace HeatingHub.Wire

open Calendar (ClockTime Moment Weekday)

/-! ## The last entry that counts -/

section

variable {α β : Type} {f : α → Option β}

/-- What is found by the last entry of a list by which anything is found. -/
inductive Latest (f : α → Option β) : List α → Option β → Prop where
  | absent (as : List α) (none_found : ∀ a ∈ as, f a = none) : Latest f as none
  | present (before : List α) (a : α) (after : List α) (b : β) (found : f a = some b)
      (later : ∀ a' ∈ after, f a' = none) : Latest f (before ++ a :: after) (some b)

theorem latest_findSome? (f : α → Option β) (as : List α) :
    Latest f as (as.reverse.findSome? f) := by
  cases h : as.reverse.findSome? f with
  | none =>
    refine .absent as fun a ha => ?_
    exact List.findSome?_eq_none_iff.1 h a (List.mem_reverse.2 ha)
  | some b =>
    obtain ⟨after, a, before, split, found, later⟩ := List.findSome?_eq_some_iff.1 h
    have whole : as = before.reverse ++ a :: after.reverse := by
      simpa using congrArg List.reverse split
    rw [whole]
    exact .present _ a _ b found fun a' ha' => later a' (List.mem_reverse.1 ha')

end

/-! ## Order of slots -/

/-- The slots in order of their starts, those with the same start in the order they had. -/
structure StablySorted (slots sorted : List Slot) : Prop where
  perm : sorted.Perm slots
  inOrder : InOrder sorted
  stable : ∀ start, sorted.filter (·.start = start) = slots.filter (·.start = start)

theorem arrange_stablySorted (slots : List Slot) : StablySorted slots (arrange slots) where
  perm := arrange_perm slots
  inOrder := inOrder_arrange slots
  stable := filter_arrange slots

/-! ## Weekly programs -/

/-- The slot says what was sent. -/
structure Period.Becomes (s : Period) (slot : Slot) : Prop where
  start : ClockTime.read? s.start = some slot.start
  target : slot.target = s.target
  setting : slot.setting = s.setting

/-- The slots sent under the name of a weekday. -/
def entryOf (w : Weekday) (entry : String × List Period) : Option (List Period) :=
  if entry.1 = w.name then some entry.2 else none

/-- Each day of the program has exactly the slots sent under its name, in order of their starts. -/
def Schedules (sent : Option Program) (program : TimeProgram) : Prop :=
  ∀ w, ∃ periods slots, Latest (entryOf w) (sent.getD []) periods ∧
    List.Forall₂ Period.Becomes (periods.getD []) slots ∧ StablySorted slots (program.day w)

theorem Program.day_eq (p : Program) (w : Weekday) :
    p.day w = (p.reverse.findSome? (entryOf w)).getD [] := by
  have found (entries : Program) :
      (entries.find? (·.1 == w.name)).map (·.2) = entries.findSome? (entryOf w) := by
    induction entries with
    | nil => rfl
    | cons entry rest ih =>
      by_cases h : entry.1 = w.name
      · simp [entryOf, h]
      · simpa [List.find?_cons, List.findSome?_cons, entryOf, h] using ih
  rw [Program.day, found]

theorem Period.becomes_of_slot {w : Weekday} {s : Period} {slot : Slot} (h : s.slot w = .ok slot) :
    s.Becomes slot := by
  unfold Period.slot at h
  split at h
  case h_1 start read =>
    obtain rfl : _ = slot := Except.ok.inj h
    exact ⟨read, rfl, rfl⟩
  case h_2 => cases h

theorem day_of_timeProgram {p : Program} {program : TimeProgram}
    (h : timeProgram (some p) = .ok program) (w : Weekday) :
    ∃ slots, (p.day w).mapM (·.slot w) = .ok slots ∧ program.day w = arrange slots := by
  obtain ⟨monday, h0, h⟩ := bind_eq_ok.1 h
  obtain ⟨tuesday, h1, h⟩ := bind_eq_ok.1 h
  obtain ⟨wednesday, h2, h⟩ := bind_eq_ok.1 h
  obtain ⟨thursday, h3, h⟩ := bind_eq_ok.1 h
  obtain ⟨friday, h4, h⟩ := bind_eq_ok.1 h
  obtain ⟨saturday, h5, h⟩ := bind_eq_ok.1 h
  obtain ⟨sunday, h6, h⟩ := bind_eq_ok.1 h
  obtain rfl : TimeProgram.ofDays _ = program := Except.ok.inj h
  match w with
  | 0 => exact ⟨monday, h0, day_ofDays _ 0⟩
  | 1 => exact ⟨tuesday, h1, day_ofDays _ 1⟩
  | 2 => exact ⟨wednesday, h2, day_ofDays _ 2⟩
  | 3 => exact ⟨thursday, h3, day_ofDays _ 3⟩
  | 4 => exact ⟨friday, h4, day_ofDays _ 4⟩
  | 5 => exact ⟨saturday, h5, day_ofDays _ 5⟩
  | 6 => exact ⟨sunday, h6, day_ofDays _ 6⟩

theorem schedules_of_timeProgram {sent : Option Program} {program : TimeProgram}
    (h : timeProgram sent = .ok program) : Schedules sent program := by
  intro w
  cases sent with
  | none =>
    obtain rfl : TimeProgram.empty = program := Except.ok.inj h
    have nothing : TimeProgram.empty.day w = arrange [] := by
      rw [TimeProgram.empty, day_ofDays]
      simp [Vector.get]
    exact ⟨none, [], .absent [] (by simp), .nil, nothing ▸ arrange_stablySorted []⟩
  | some p =>
    obtain ⟨slots, read, day⟩ := day_of_timeProgram h w
    rw [p.day_eq] at read
    refine ⟨_, slots, latest_findSome? _ p, ?_, day ▸ arrange_stablySorted slots⟩
    exact (mapM_eq_ok.1 read).imp fun _ _ => Period.becomes_of_slot

/-! ## Zones -/

structure ZonePart.Becomes (s : ZonePart) (z : Zone) : Prop where
  id : z.id = s.id
  name : z.name = s.settings.name
  current : z.current = s.settings.current
  activeFunction : z.activeFunction = s.settings.activeFunction
  heating : ∃ h, s.heating = some h ∧ z.target = h.settings.target ∧
    z.setback = h.settings.setback ∧ z.mode = h.settings.mode ∧ Schedules h.program z.program
  veto : ∀ q, z.veto = some q ↔ q.duration = none ∧
    ∃ v, s.settings.veto = some v ∧ v.active = true ∧ v.target = some q.target
  roomByRoom : z.roomByRoom = true ↔ ∃ c, s.controller = some c ∧ sameWord c "RBR" = true

theorem ZoneVeto.veto?_eq_some {v : ZoneVeto} {q : QuickVeto} :
    v.veto? = some q ↔ q.duration = none ∧ v.active = true ∧ v.target = some q.target := by
  obtain ⟨active, target⟩ := v
  obtain ⟨degrees, duration⟩ := q
  cases active with
  | false => simp [ZoneVeto.veto?]
  | true => cases target <;> simp [ZoneVeto.veto?, and_comm, eq_comm]

theorem ZonePart.becomes_of_zone {s : ZonePart} {z : Zone} (h : s.zone = .ok z) : s.Becomes z := by
  unfold ZonePart.zone at h
  split at h
  case h_1 => cases h
  case h_2 heating hh =>
    obtain ⟨program, hp, h⟩ := bind_eq_ok.1 h
    obtain rfl : _ = z := Except.ok.inj h
    exact {
      id := rfl
      name := rfl
      current := rfl
      activeFunction := rfl
      heating := ⟨heating, hh, rfl, rfl, rfl, schedules_of_timeProgram hp⟩
      veto := fun q => by
        rw [Option.bind_eq_some_iff]
        simp only [ZoneVeto.veto?_eq_some]
        exact ⟨fun ⟨v, hv, hd, rest⟩ => ⟨hd, v, hv, rest⟩, fun ⟨hd, v, hv, rest⟩ => ⟨v, hv, hd, rest⟩⟩
      roomByRoom := by
        cases s.controller with
        | none => simp
        | some c => simp }

/-! ## Rooms -/

structure DevicePart.Becomes (s : DevicePart) (d : Device) : Prop where
  name : d.name = s.name
  serial : d.serial = s.serial
  deviceType : d.deviceType = s.deviceType
  batteryLow : d.batteryLow = s.batteryLow
  outOfReach : d.outOfReach = s.outOfReach

structure RoomVeto.Becomes (s : RoomVeto) (q : QuickVeto) : Prop where
  target : q.target = s.target
  duration : q.duration = s.duration

structure RoomPart.Becomes (s : RoomPart) (r : Room) : Prop where
  id : r.id = toString s.index
  name : r.name = s.settings.name
  program : Schedules s.program r.program
  current : r.current = s.settings.current
  target : s.settings.target = some r.target
  mode : r.mode = s.settings.mode
  veto : Option.Rel RoomVeto.Becomes s.settings.veto r.veto
  childLock : r.childLock = s.settings.childLock
  windowOpen : r.windowOpen = s.settings.windowOpen
  devices : List.Forall₂ DevicePart.Becomes s.settings.devices r.devices

theorem RoomPart.becomes_of_room {s : RoomPart} {r : Room} (h : s.room = .ok r) : s.Becomes r := by
  obtain ⟨program, hp, h⟩ := bind_eq_ok.1 h
  split at h
  case h_1 => cases h
  case h_2 target ht =>
    obtain rfl : _ = r := Except.ok.inj h
    exact {
      id := rfl
      name := rfl
      program := schedules_of_timeProgram hp
      current := rfl
      target := ht
      mode := rfl
      veto := by
        cases s.settings.veto with
        | none => exact .none
        | some v => exact .some ⟨rfl, rfl⟩
      childLock := rfl
      windowOpen := rfl
      devices := by
        rw [List.forall₂_map_right_iff, List.forall₂_same]
        exact fun d _ => ⟨rfl, rfl, rfl, rfl, rfl⟩ }

/-- Places of rooms with the same id are places of rooms with the same index. -/
theorem rooms_apart {parts : List RoomPart} {rooms : List Room}
    (h : List.Forall₂ RoomPart.Becomes parts rooms) (j k : Nat) :
    (rooms.map (·.id))[j]? = (rooms.map (·.id))[k]? ↔
      (parts.map (·.index))[j]? = (parts.map (·.index))[k]? := by
  have ids : rooms.map (·.id) = (parts.map (·.index)).map toString := by
    induction h with
    | nil => rfl
    | cons becomes _ ih => rw [List.map_cons, List.map_cons, List.map_cons, becomes.id, ih]
  have apart : Function.Injective (toString : Int → String) := fun _ _ => Int.repr_injective
  rw [ids, List.getElem?_map (i := j), List.getElem?_map (i := k)]
  exact (Option.map_injective apart).eq_iff

/-! ## Hot water and circulation -/

structure HotWaterPart.Becomes (id : String) (tank : Option Float) (s : HotWaterPart)
    (w : HotWater) : Prop where
  id : w.id = id
  name : w.name = s.settings.name.getD "Hot water"
  program : Schedules s.program w.program
  current : w.current = tank
  target : w.target = s.settings.target
  mode : w.mode = s.settings.mode

structure CirculationPart.Becomes (id : String) (s : CirculationPart) (c : Circulation) :
    Prop where
  id : c.id = id
  name : c.name = s.settings.name.getD "Circulation"
  program : Schedules s.program c.program
  mode : c.mode = s.settings.mode

/-- Hot water and circulation come from the first entry; what `tank` holds is measured. -/
inductive WaterFrom (tank : Option Float) :
    List Dhw → Option HotWater × Option Circulation → Prop where
  | nothing : WaterFrom tank [] (none, none)
  | first (d : Dhw) (later : List Dhw) (water : Option HotWater × Option Circulation)
      (hotWater : Option.Rel (HotWaterPart.Becomes d.id tank) d.hotWater water.1)
      (circulation : Option.Rel (CirculationPart.Becomes d.id) d.circulation water.2) :
      WaterFrom tank (d :: later) water

theorem Dhw.becomes_of_hotWaterOf {d : Dhw} {current : Option Float} {w : Option HotWater}
    (h : d.hotWaterOf current = .ok w) :
    Option.Rel (HotWaterPart.Becomes d.id current) d.hotWater w := by
  unfold Dhw.hotWaterOf at h
  cases hd : d.hotWater with
  | none =>
    rw [hd] at h
    obtain rfl : none = w := Except.ok.inj h
    exact .none
  | some s =>
    rw [hd] at h
    obtain ⟨program, hp, h⟩ := bind_eq_ok.1 h
    obtain rfl : some _ = w := Except.ok.inj h
    exact .some ⟨rfl, rfl, schedules_of_timeProgram hp, rfl, rfl, rfl⟩

theorem Dhw.becomes_of_circulationOf {d : Dhw} {c : Option Circulation}
    (h : d.circulationOf = .ok c) :
    Option.Rel (CirculationPart.Becomes d.id) d.circulation c := by
  unfold Dhw.circulationOf at h
  cases hd : d.circulation with
  | none =>
    rw [hd] at h
    obtain rfl : none = c := Except.ok.inj h
    exact .none
  | some s =>
    rw [hd] at h
    obtain ⟨program, hp, h⟩ := bind_eq_ok.1 h
    obtain rfl : some _ = c := Except.ok.inj h
    exact .some ⟨rfl, rfl, schedules_of_timeProgram hp, rfl⟩

theorem Payloads.waterFrom_of_water {p : Payloads} {water : Option HotWater × Option Circulation}
    (h : p.water = .ok water) :
    WaterFrom (p.sensed "DomesticHotWaterTankTemperature") p.control.dhw water := by
  unfold Payloads.water at h
  cases hd : p.control.dhw with
  | nil =>
    rw [hd] at h
    obtain rfl : (none, none) = water := Except.ok.inj h
    exact .nothing
  | cons d later =>
    rw [hd, List.head?_cons] at h
    obtain ⟨hotWater, hw, h⟩ := bind_eq_ok.1 h
    obtain ⟨circulation, hc, h⟩ := bind_eq_ok.1 h
    obtain rfl : (hotWater, circulation) = water := Except.ok.inj h
    exact .first d later _ (Dhw.becomes_of_hotWaterOf hw) (Dhw.becomes_of_circulationOf hc)

/-! ## Sensors -/

/-- The value reported under an id. -/
def valueUnder (id : String) (r : Report) : Option Float := if r.id = id then r.value else none

/-- What the sensors of all devices reported last under an id. -/
def Payloads.Sensed (p : Payloads) (id : String) (value : Option Float) : Prop :=
  Latest (valueUnder id) (p.liveReport.flatMap (·.reports)) value

theorem Payloads.sensed_spec (p : Payloads) (id : String) : p.Sensed id (p.sensed id) := by
  have last : p.sensed id =
      (p.liveReport.flatMap (·.reports)).reverse.findSome? (valueUnder id) :=
    List.getLast?_filterMap
  rw [Payloads.Sensed, last]
  exact latest_findSome? _ _

/-- There is something to say about the boiler when one of the two values is known. -/
structure BoilerInfoFrom (pressure flow : Option Float) (info : Option BoilerInfo) : Prop where
  present : info.isSome ↔ pressure.isSome ∨ flow.isSome
  holds : ∀ b, info = some b → b.waterPressure = pressure ∧ b.flowTemperature = flow

/-! ## The boiler -/

structure Message.Tells (m : Message) (b : BoilerStatus) : Prop where
  deviceName : b.deviceName = m.deviceName
  title : b.title = m.title
  code : b.code = m.code
  description : b.description = m.description
  time : Moment.ofEpochMillis? m.time = some b.time
  hint : b.hint = m.hint

structure Message.Reports (m : Message) (f : Fault) : Prop where
  deviceName : f.deviceName = m.deviceName
  title : f.title = m.title
  code : f.code = m.code
  description : f.description = m.description
  time : Moment.ofEpochMillis? m.time = some f.time

structure StatusPart.Becomes (s : StatusPart) (status : SystemStatus) : Prop where
  online : status.online = true ↔ s.online = "ONLINE"
  upToDate : status.upToDate = true ↔ s.firmware = "UPDATE_NOT_PENDING"

theorem moment_eq_ok {millis : Int} {m : Moment} :
    moment millis = .ok m ↔ Moment.ofEpochMillis? millis = some m := by
  unfold moment
  cases Moment.ofEpochMillis? millis <;> simp

theorem Message.tells_of_status {m : Message} {b : BoilerStatus} (h : m.status = .ok b) :
    m.Tells b := by
  obtain ⟨time, ht, h⟩ := bind_eq_ok.1 h
  obtain rfl : _ = b := Except.ok.inj h
  exact ⟨rfl, rfl, rfl, rfl, moment_eq_ok.1 ht, rfl⟩

theorem Message.reports_of_fault {m : Message} {f : Fault} (h : m.fault = .ok f) :
    m.Reports f := by
  obtain ⟨time, ht, h⟩ := bind_eq_ok.1 h
  obtain rfl : _ = f := Except.ok.inj h
  exact ⟨rfl, rfl, rfl, rfl, moment_eq_ok.1 ht⟩

/-- What has been gathered once some more states have been gone through. -/
structure BoilerReport.Gathers (b : BoilerReport) (states : List HvacState) (b' : BoilerReport) :
    Prop where
  /-- A status that was taken stays. -/
  kept : ∀ known, b.boiler = some known → b'.boiler = some known
  /-- Otherwise the first one that is told is taken. -/
  first : b.boiler = none → Option.Rel Message.Tells (states.findSome? (·.told)) b'.boiler
  /-- The last status of the system is the one that stays. -/
  last : b'.status = ((states.reverse.findSome? (·.status)).map (·.status)).or b.status
  faults : ∃ more, List.Forall₂ Message.Reports (states.flatMap (·.failures)) more ∧
    b'.faults = b.faults ++ more

theorem BoilerReport.gathers_nil (b : BoilerReport) : b.Gathers [] b where
  kept _ h := h
  first h := h ▸ .none
  last := rfl
  faults := ⟨[], .nil, (List.append_nil _).symm⟩

/-- One state more in front of those that have been gone through. -/
theorem BoilerReport.Gathers.cons {b b₁ b' : BoilerReport} {s : HvacState} {rest : List HvacState}
    (step : b.add s = .ok b₁) (h : b₁.Gathers rest b') : b.Gathers (s :: rest) b' := by
  obtain ⟨boiler, faults, taken, hf, rfl⟩ := BoilerReport.add_eq_ok.1 step
  obtain ⟨more, hmore, hfaults⟩ := h.faults
  refine ⟨fun known hk => ?_, fun hn => ?_, ?_, faults ++ more, ?_, ?_⟩
  · obtain ⟨known', hb, rfl⟩ | ⟨hb, -, -⟩ | ⟨_, _, hb, -, -, -⟩ := taking_cases taken
    · obtain rfl : known' = known := Option.some.inj (hb.symm.trans hk)
      exact h.kept _ rfl
    · cases hb.symm.trans hk
    · cases hb.symm.trans hk
  · obtain ⟨known', hb, -⟩ | ⟨-, hm, rfl⟩ | ⟨m, status, -, hm, hs, rfl⟩ := taking_cases taken
    · cases hb.symm.trans hn
    · rw [List.findSome?_cons, hm]
      exact h.first rfl
    · rw [List.findSome?_cons, hm, h.kept status rfl]
      exact .some (Message.tells_of_status hs)
  · rw [h.last, List.reverse_cons, List.findSome?_append]
    cases rest.reverse.findSome? (·.status) with
    | some last => rfl
    | none => cases hs : s.status <;> simp [hs]
  · rw [List.flatMap_cons]
    refine List.rel_append ?_ hmore
    exact (mapM_eq_ok.1 hf).imp fun _ _ => Message.reports_of_fault
  · rw [hfaults, List.append_assoc]

theorem BoilerReport.gathers_of_foldlM {b b' : BoilerReport} {states : List HvacState}
    (h : states.foldlM BoilerReport.add b = .ok b') : b.Gathers states b' := by
  induction states generalizing b with
  | nil =>
    obtain rfl : b = b' := Except.ok.inj h
    exact b.gathers_nil
  | cons s rest ih =>
    rw [List.foldlM_cons] at h
    obtain ⟨b₁, step, h⟩ := bind_eq_ok.1 h
    exact .cons step (ih h)

/-! ## The whole -/

structure HolidayPart.Becomes (s : HolidayPart) (h : Holiday) : Prop where
  active : h.active = s.active
  start : h.start = s.start
  finish : h.finish = s.finish
  target : h.target = s.target

/-- The installation says what the payloads say. -/
structure Assembled (p : Payloads) (i : Installation) : Prop where
  holiday : Option.Rel HolidayPart.Becomes (p.control.overrides.bind (·.holiday)) i.holiday
  quickMode : Option.Rel (fun q mode => QuickMode.read q.name = .ok mode)
    (p.control.overrides.bind (·.quickMode)) i.quickMode
  zones : List.Forall₂ ZonePart.Becomes p.control.zones i.zones
  rooms : List.Forall₂ RoomPart.Becomes p.rooms i.rooms
  roomsApart : ∀ j k : Nat, (i.rooms.map (·.id))[j]? = (i.rooms.map (·.id))[k]? ↔
    (p.rooms.map (·.index))[j]? = (p.rooms.map (·.index))[k]?
  water : ∃ tank, p.Sensed "DomesticHotWaterTankTemperature" tank ∧
    WaterFrom tank p.control.dhw (i.hotWater, i.circulation)
  boilerInfo : ∃ pressure flow, p.Sensed "WaterPressureSensor" pressure ∧
    p.Sensed "FlowTemperatureSensor" flow ∧ BoilerInfoFrom pressure flow i.boilerInfo
  boilerStatus : Option.Rel Message.Tells (p.hvacStates.findSome? (·.told)) i.boilerStatus
  status : ∃ last, Latest (·.status) p.hvacStates last ∧
    Option.Rel StatusPart.Becomes last i.status
  faults : List.Forall₂ Message.Reports (p.hvacStates.flatMap (·.failures)) i.faults
  outdoorTemperature : ∀ t, i.outdoorTemperature = some t ↔ p.control.outside = some (some t)

theorem Payloads.quickMode_spec {p : Payloads} {quickMode : Option QuickMode}
    (h : p.quickMode = .ok quickMode) :
    Option.Rel (fun q mode => QuickMode.read q.name = .ok mode)
      (p.control.overrides.bind (·.quickMode)) quickMode := by
  unfold Payloads.quickMode at h
  split at h
  case h_1 hq =>
    obtain rfl : none = quickMode := Except.ok.inj h
    exact hq ▸ .none
  case h_2 q hq =>
    obtain ⟨mode, hm, rfl⟩ := map_eq_ok.1 h
    rw [hq]
    refine .some ?_
    unfold QuickModePart.quickMode at hm
    split at hm
    case h_1 mode' read =>
      obtain rfl : mode' = mode := Except.ok.inj hm
      exact read
    case h_2 => cases hm

theorem Payloads.boilerInfo_spec (p : Payloads) :
    BoilerInfoFrom (p.sensed "WaterPressureSensor") (p.sensed "FlowTemperatureSensor")
      p.boilerInfo := by
  unfold Payloads.boilerInfo
  by_cases h : ((p.sensed "WaterPressureSensor").isSome ||
      (p.sensed "FlowTemperatureSensor").isSome) = true
  · rw [if_pos h]
    refine ⟨⟨fun _ => by simpa using h, fun _ => rfl⟩, ?_⟩
    rintro b ⟨⟩
    exact ⟨rfl, rfl⟩
  · rw [if_neg h]
    exact ⟨⟨fun none_some => (nomatch none_some), fun known => (h (by simpa using known)).elim⟩,
      fun b hb => (nomatch hb)⟩

/-- An installation that is assembled corresponds to the payloads part by part. -/
theorem assemble_corresponds {p : Payloads} {i : Installation} (h : assemble p = .ok i) :
    Assembled p i := by
  rw [assemble_eq] at h
  obtain ⟨quickMode, hq, h⟩ := bind_eq_ok.1 h
  obtain ⟨zones, hz, h⟩ := bind_eq_ok.1 h
  obtain ⟨rooms, hr, h⟩ := bind_eq_ok.1 h
  obtain ⟨water, hw, h⟩ := bind_eq_ok.1 h
  obtain ⟨boiler, hb, h⟩ := bind_eq_ok.1 h
  obtain rfl : p.installation quickMode zones rooms water boiler = i := Except.ok.inj h
  have becomeRooms := (mapM_eq_ok.1 hr).imp fun _ _ => RoomPart.becomes_of_room
  have gathers := BoilerReport.gathers_of_foldlM hb
  obtain ⟨faults, hf, same⟩ := gathers.faults
  exact {
    holiday := by
      show Option.Rel _ _ ((p.control.overrides.bind (·.holiday)).map (·.holiday))
      cases p.control.overrides.bind (·.holiday) with
      | none => exact .none
      | some s => exact .some ⟨rfl, rfl, rfl, rfl⟩
    quickMode := Payloads.quickMode_spec hq
    zones := (mapM_eq_ok.1 hz).imp fun _ _ => ZonePart.becomes_of_zone
    rooms := becomeRooms
    roomsApart := rooms_apart becomeRooms
    water := ⟨_, p.sensed_spec _, Payloads.waterFrom_of_water hw⟩
    boilerInfo := ⟨_, _, p.sensed_spec _, p.sensed_spec _, p.boilerInfo_spec⟩
    boilerStatus := gathers.first rfl
    status := by
      refine ⟨_, latest_findSome? (·.status) p.hvacStates, ?_⟩
      show Option.Rel _ _ boiler.status
      rw [gathers.last]
      cases p.hvacStates.reverse.findSome? (·.status) with
      | none => exact .none
      | some s => exact .some ⟨by simp [StatusPart.status], by simp [StatusPart.status]⟩
    faults := by
      show List.Forall₂ _ _ boiler.faults
      rw [same]
      exact hf
    outdoorTemperature := fun t => by
      show p.control.outside.bind id = some t ↔ _
      rw [Option.bind_eq_some_iff]
      simp }

/-- Payloads with several entries wherever entries compete. -/
def contested : Payloads where
  control := {
    overrides := some ⟨none, some ⟨"QM_PARTY", none⟩⟩
    outside := some (some 6.5)
    zones := [{
      id := "Control_ZO1"
      settings := ⟨"Ground floor", some 20.5, none, some ⟨true, some 19⟩⟩
      heating := some ⟨⟨.auto, 21, 17⟩,
        some [("monday", [⟨"22:00", some .night, none⟩, ⟨"06:00", some .day, none⟩]),
          ("someday", [⟨"25:99", none, none⟩])]⟩
      controller := some "rbr" }]
    dhw := [⟨"first", some ⟨⟨none, .auto, 51⟩, none⟩, none⟩,
      ⟨"second", none, some ⟨⟨none, .off⟩, none⟩⟩] }
  rooms := [
    ⟨3, ⟨"Kitchen", some 21, .auto, none, false, true,
      [⟨"Valve", "3014F7", "VALVE", true, false⟩], some ⟨some 40, 23.5⟩⟩, none⟩,
    ⟨10, ⟨"Pantry", some 18, .manual, some 17.5, true, false, [], none⟩, none⟩]
  liveReport := [⟨"boiler", [⟨"WaterPressureSensor", some 1.9, none⟩,
    ⟨"WaterPressureSensor", some 2, none⟩, ⟨"WaterPressureSensor", none, none⟩]⟩]
  hvacStates := [⟨some ⟨[], [⟨"S.31", "Heating", none, none, 0, "boiler"⟩]⟩, some ⟨"ONLINE", ""⟩⟩,
    ⟨some ⟨[⟨"F.22", "Dry", none, none, 1, "boiler"⟩], [⟨"S.4", "Idle", none, none, 2, "boiler"⟩]⟩,
      some ⟨"OFFLINE", ""⟩⟩]

theorem contested_corresponds : ∃ i, assemble contested = .ok i ∧ Assembled contested i := by
  have accepted : (assemble contested).isOk = true := by decide +kernel
  cases h : assemble contested with
  | ok i => exact ⟨i, rfl, assemble_corresponds h⟩
  | error e => simp [h, Except.isOk, Except.toBool] at accepted

end HeatingHub.Wire

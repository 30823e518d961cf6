import HeatingHub.Installation
import HeatingHub.Text.Quoted
import HeatingHub.Wire.Control
import HeatingHub.Wire.Reports
import HeatingHub.Wire.Rooms

/-!
# Assembling an installation

Four payloads make up an installation. What cannot be made sense of is an `AssemblyError`; the first
one in the order quick mode, zones, rooms, hot water and circulation, boiler counts. Parts that are
not used cause no error.
-/

namespace HeatingHub.Wire

open Calendar (ClockTime Moment Weekday)

structure Payloads where
  control : Control
  rooms : List RoomPart
  liveReport : List ReportingDevice
  hvacStates : List HvacState

/-! ## Errors -/

inductive AssemblyError where
  | unknownQuickMode (raw : String)
  | noHeating (zone : String)
  | noTarget (room : Int)
  | badStart (raw : String) (day : Weekday)
  | badTime (millis : Int)
deriving DecidableEq

def AssemblyError.message : AssemblyError → String
  | unknownQuickMode raw => (UnknownMode.quick raw).message
  | noHeating zone => "zone " ++ zone ++ " has no heating configuration"
  | noTarget room => "room " ++ toString room ++ " has no temperature setpoint"
  | badStart raw day => "invalid start time " ++ Text.quoted raw ++ " on " ++ day.name
  | badTime millis => "timestamp out of range: " ++ toString millis

/-! ## Weekly programs -/

/-- The slots of a weekday; of several entries the last, none if there is no entry. -/
def Program.day (p : Program) (w : Weekday) : List Period :=
  ((p.reverse.find? (·.1 == w.name)).map (·.2)).getD []

def Period.slot (p : Period) (w : Weekday) : Except AssemblyError Slot :=
  match ClockTime.read? p.start with
  | some start => .ok ⟨start, p.target, p.setting⟩
  | none => .error (.badStart p.start w)

/-- The program, Monday first; no program is one without slots. -/
def timeProgram : Option Program → Except AssemblyError TimeProgram
  | none => .ok .empty
  | some p => do
    let slots (w : Weekday) := (p.day w).mapM (·.slot w)
    let monday ← slots 0
    let tuesday ← slots 1
    let wednesday ← slots 2
    let thursday ← slots 3
    let friday ← slots 4
    let saturday ← slots 5
    let sunday ← slots 6
    .ok (.ofDays #v[monday, tuesday, wednesday, thursday, friday, saturday, sunday])

/-! ## Components -/

/-- The same word up to the case of ASCII letters. -/
def sameWord (a b : String) : Bool := a.toList.map Char.toLower == b.toList.map Char.toLower

def HolidayPart.holiday (h : HolidayPart) : Holiday := ⟨h.active, h.start, h.finish, h.target⟩

def QuickModePart.quickMode (q : QuickModePart) : Except AssemblyError QuickMode :=
  match QuickMode.read q.name with
  | .ok mode => .ok mode
  | .error _ => .error (.unknownQuickMode q.name)

/-- A veto that is active and has a temperature. -/
def ZoneVeto.veto? (v : ZoneVeto) : Option QuickVeto :=
  if v.active then v.target.map (⟨·, none⟩) else none

def ZonePart.zone (z : ZonePart) : Except AssemblyError Zone :=
  match z.heating with
  | none => .error (.noHeating z.id)
  | some heating => do
    let program ← timeProgram heating.program
    .ok {
      id := z.id
      name := z.settings.name
      program
      current := z.settings.current
      target := heating.settings.target
      setback := heating.settings.setback
      mode := heating.settings.mode
      veto := z.settings.veto.bind (·.veto?)
      activeFunction := z.settings.activeFunction
      roomByRoom := (z.controller.map (sameWord · "RBR")).getD false }

def DevicePart.device (d : DevicePart) : Device :=
  ⟨d.name, d.serial, d.deviceType, d.batteryLow, d.outOfReach⟩

/-- The id of a room is its index. -/
def RoomPart.room (r : RoomPart) : Except AssemblyError Room := do
  let program ← timeProgram r.program
  match r.settings.target with
  | none => .error (.noTarget r.index)
  | some target =>
    .ok {
      id := toString r.index
      name := r.settings.name
      program
      current := r.settings.current
      target
      mode := r.settings.mode
      veto := r.settings.veto.map fun v => ⟨v.target, v.duration⟩
      childLock := r.settings.childLock
      windowOpen := r.settings.windowOpen
      devices := r.settings.devices.map (·.device) }

/-- The value reported last under an id. -/
def reported (devices : List ReportingDevice) (id : String) : Option Float :=
  ((devices.flatMap (·.reports)).filterMap fun r =>
    if r.id = id then r.value else none).getLast?

def Dhw.hotWaterOf (d : Dhw) (current : Option Float) : Except AssemblyError (Option HotWater) :=
  match d.hotWater with
  | none => .ok none
  | some h => do
    let program ← timeProgram h.program
    .ok (some {
      id := d.id
      name := h.settings.name.getD "Hot water"
      program
      current
      target := h.settings.target
      mode := h.settings.mode })

def Dhw.circulationOf (d : Dhw) : Except AssemblyError (Option Circulation) :=
  match d.circulation with
  | none => .ok none
  | some c => do
    let program ← timeProgram c.program
    .ok (some {
      id := d.id
      name := c.settings.name.getD "Circulation"
      program
      mode := c.settings.mode })

/-! ## The boiler -/

def moment (millis : Int) : Except AssemblyError Moment :=
  match Moment.ofEpochMillis? millis with
  | some m => .ok m
  | none => .error (.badTime millis)

def Message.status (m : Message) : Except AssemblyError BoilerStatus := do
  let time ← moment m.time
  .ok ⟨m.deviceName, m.title, m.code, m.description, time, m.hint⟩

def Message.fault (m : Message) : Except AssemblyError Fault := do
  let time ← moment m.time
  .ok ⟨m.deviceName, m.title, m.code, m.description, time⟩

def StatusPart.status (s : StatusPart) : SystemStatus :=
  ⟨s.online == "ONLINE", s.firmware == "UPDATE_NOT_PENDING"⟩

/-- What the states of the boiler say together: the first status message, the last status of the
system, and all failures. -/
structure BoilerReport where
  boiler : Option BoilerStatus
  status : Option SystemStatus
  faults : List Fault

/-- Adds what one more state says. -/
def BoilerReport.add (b : BoilerReport) (s : HvacState) : Except AssemblyError BoilerReport := do
  let status := (s.status.map (·.status)).or b.status
  match s.messages with
  | none => .ok { b with status }
  | some messages =>
    let boiler ← match b.boiler, messages.states with
      | none, m :: _ => (m.status).map some
      | boiler, _ => .ok boiler
    let faults ← messages.failures.mapM (·.fault)
    .ok ⟨boiler, status, b.faults ++ faults⟩

/-! ## The installation -/

def assemble (p : Payloads) : Except AssemblyError Installation := do
  let overrides := p.control.overrides.getD ⟨none, none⟩
  let quickMode ← match overrides.quickMode with
    | none => .ok none
    | some q => (q.quickMode).map some
  let zones ← p.control.zones.mapM (·.zone)
  let rooms ← p.rooms.mapM (·.room)
  let report := reported p.liveReport
  let (hotWater, circulation) ← match p.control.dhw with
    | [] => .ok (none, none)
    | d :: _ => do
      let hotWater ← d.hotWaterOf (report "DomesticHotWaterTankTemperature")
      let circulation ← d.circulationOf
      .ok (hotWater, circulation)
  let pressure := report "WaterPressureSensor"
  let flow := report "FlowTemperatureSensor"
  let boiler ← p.hvacStates.foldlM BoilerReport.add ⟨none, none, []⟩
  .ok {
    holiday := overrides.holiday.map (·.holiday)
    quickMode
    zones
    rooms
    hotWater
    circulation
    boilerStatus := boiler.boiler
    boilerInfo := if pressure.isSome || flow.isSome then some ⟨flow, pressure⟩ else none
    status := boiler.status
    outdoorTemperature := p.control.outside.bind id
    faults := boiler.faults }

end HeatingHub.Wire

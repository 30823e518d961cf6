import HeatingHub.Climate
import HeatingHub.Text.Slug

/-!
# Entities

An entity is what the host shows under one id: a component, or a single readout of the
installation. A `Handle` says what an entity stands for; its state is always read from the
installation at hand. `Installation.discover` lists the handles of everything an installation has.
-/

namespace HeatingHub

open Calendar (Moment)

/-! ## Handles -/

/-- What an entity shows. -/
inductive Readout where
  /-- The state of its component. -/
  | component
  | window (room : String)
  | battery (device : String)
  | connectivity (device : String)
  | childLock (device : String)
  | systemOnline
  | systemUpdate
  | boilerFailure
  | holiday
  | quickMode
  | fault (code : String)
  | outdoorTemperature
  | waterPressure
  | flowTemperature
deriving DecidableEq

structure Handle where
  id : String
  name : String
  component : Option ComponentId
  readout : Readout
  /-- The state depends on holiday and quick mode. -/
  listening : Bool
  /-- The entity is dropped once nothing stands behind it. -/
  transient : Bool
deriving DecidableEq

/-- The handle of a component. -/
def Handle.ofComponent (id name : String) (component : ComponentId) (listening : Bool) : Handle :=
  ⟨id, name, some component, .component, listening, false⟩

/-- The handle of a readout. -/
def Handle.ofReadout (id name : String) (readout : Readout) : Handle :=
  ⟨id, name, none, readout, false, false⟩

/-! ## Entity ids -/

/-- The id of an entity: its domain, the slug of what it stands for, and a class if it has one. -/
def entityId (domain subject : String) (deviceClass : Option String) : String :=
  domain ++ ".multimatic_" ++ Text.slug subject ++ (deviceClass.map ("_" ++ ·)).getD ""

def climateDomain : String := "climate"

def waterHeaterDomain : String := "water_heater"

def binarySensorDomain : String := "binary_sensor"

def sensorDomain : String := "sensor"

/-! ## States -/

def onOff (b : Bool) : String := if b then "on" else "off"

/-- A state that may be unknown. -/
def onOff? (b : Option Bool) : String := (b.map onOff).getD unavailable

/-- A measured value to one place, with its unit. -/
def measured (x : Option Float) (unit : String) : String :=
  (x.map fun x => Number.oneDecimal x ++ " " ++ unit).getD unavailable

def Holiday.text (h : Holiday) : String :=
  (h.start.map (·.text)).getD "" ++ " - " ++ (h.finish.map (·.text)).getD "" ++ ", " ++
    (h.target.map Number.oneDecimal).getD ""

namespace Installation

/-- The first device with the serial number, in the order of rooms. -/
def device? (i : Installation) (serial : String) : Option Device :=
  (i.rooms.flatMap (·.devices)).find? (·.serial == serial)

/-- The first room that has a device with the serial number. -/
def roomOfDevice? (i : Installation) (serial : String) : Option Room :=
  i.rooms.find? fun r => r.devices.any (·.serial == serial)

def fault? (i : Installation) (code : String) : Option Fault := i.faults.find? (·.code == code)

end Installation

def Readout.state (r : Readout) (i : Installation) (now : Moment) : String :=
  match r with
  | component => unavailable
  | window room => onOff? ((i.rooms.find? (·.name == room)).map (·.windowOpen))
  | battery device => onOff? ((i.device? device).map (·.batteryLow))
  | connectivity device => onOff? ((i.device? device).map (!·.outOfReach))
  | childLock device => onOff? ((i.roomOfDevice? device).map (·.childLock))
  | systemOnline => onOff? (i.status.map (·.online))
  | systemUpdate => onOff? (i.status.map (!·.upToDate))
  | boilerFailure => onOff ((i.boilerStatus.map (·.isFailure)).getD false)
  | holiday =>
    match i.appliedHoliday now.date with
    | some h => "on (" ++ h.text ++ ")"
    | none => "off"
  | quickMode =>
    match i.quickMode with
    | some q => "on (" ++ q.name ++ ")"
    | none => "off"
  | fault code =>
    match i.fault? code with
    | some f => "on (" ++ f.title ++ " on " ++ f.deviceName ++ ")"
    | none => "off"
  | outdoorTemperature => measured i.outdoorTemperature "°C"
  | waterPressure => measured (i.boilerInfo.bind (·.waterPressure)) "bar"
  | flowTemperature => measured (i.boilerInfo.bind (·.flowTemperature)) "°C"

namespace Handle

/-- What the host shows of the entity. -/
def state (h : Handle) (i : Installation) (now : Moment) : String :=
  match h.component with
  | some component => i.describe component now
  | none => h.readout.state i now

/-- What the entity stands for is part of the installation. -/
def isBackedBy (h : Handle) (i : Installation) : Bool :=
  match h.component, h.readout with
  | some component, _ => (i.component? component).isSome
  | none, .fault code => i.faults.any (·.code == code)
  | none, _ => true

end Handle

/-! ## Discovery -/

def Zone.handle (z : Zone) : Handle :=
  .ofComponent (entityId climateDomain z.id none) z.name (.zone z.id) true

def Device.handles (d : Device) : List Handle :=
  (if d.deviceType = "VALVE" then
    [.ofReadout (entityId binarySensorDomain d.serial (some "lock")) d.name (.childLock d.serial)]
  else []) ++
  [.ofReadout (entityId binarySensorDomain d.serial (some "battery")) d.name (.battery d.serial),
    .ofReadout (entityId binarySensorDomain d.serial (some "connectivity")) d.name
      (.connectivity d.serial)]

/-- The entity of a room is named after the room, not after its id. -/
def Room.handle (r : Room) : Handle :=
  .ofComponent (entityId climateDomain r.name none) r.name (.room r.id) true

def Room.handles (r : Room) : List Handle :=
  r.handle ::
    .ofReadout (entityId binarySensorDomain r.name (some "window")) r.name (.window r.name) ::
    r.devices.flatMap (·.handles)

def HotWater.handle (h : HotWater) : Handle :=
  .ofComponent (entityId waterHeaterDomain h.id none) h.name (.hotWater h.id) true

def Circulation.handle (c : Circulation) : Handle :=
  .ofComponent (entityId binarySensorDomain c.id (some "power")) c.name (.circulation c.id) false

def BoilerStatus.handle (b : BoilerStatus) : Handle :=
  .ofReadout (entityId binarySensorDomain b.deviceName none) b.deviceName .boilerFailure

def SystemStatus.handles : List Handle :=
  [.ofReadout (entityId binarySensorDomain "system_online" none) "System Online" .systemOnline,
    .ofReadout (entityId binarySensorDomain "system_update" none) "System update" .systemUpdate]

/-- The entities that every installation has. -/
def overrideHandles : List Handle :=
  [.ofReadout (entityId binarySensorDomain "holiday" none) "holiday" .holiday,
    .ofReadout (entityId binarySensorDomain "quick_mode" none) "quick_mode" .quickMode]

def Fault.handle (f : Fault) : Handle :=
  { Handle.ofReadout (entityId binarySensorDomain ("error_" ++ f.code) none) f.title
      (.fault f.code) with transient := true }

/-- The readouts of the boiler carry the name of the device, if it is known. -/
def BoilerInfo.handles (b : BoilerInfo) (device : String) : List Handle :=
  (if b.waterPressure.isSome then
    [.ofReadout (entityId sensorDomain device (some "pressure")) device .waterPressure]
  else []) ++
  (if b.flowTemperature.isSome then
    [.ofReadout (entityId sensorDomain device (some "temperature")) device .flowTemperature]
  else [])

/-- The handles of everything the installation has. -/
def Installation.discover (i : Installation) : List Handle :=
  (i.zones.filter (!·.roomByRoom)).map (·.handle) ++
  i.rooms.flatMap (·.handles) ++
  i.hotWater.toList.map (·.handle) ++
  i.circulation.toList.map (·.handle) ++
  i.boilerStatus.toList.map (·.handle) ++
  (if i.status.isSome then SystemStatus.handles else []) ++
  overrideHandles ++
  i.faults.map (·.handle) ++
  (if i.outdoorTemperature.isSome then
    [.ofReadout (entityId sensorDomain "outdoor" (some "temperature")) "Outdoor"
      .outdoorTemperature]
  else []) ++
  i.boilerInfo.toList.flatMap fun b =>
    b.handles ((i.boilerStatus.map (·.deviceName)).getD "boiler")

end HeatingHub

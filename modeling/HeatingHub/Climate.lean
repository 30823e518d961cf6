import HeatingHub.Effective
import HeatingHub.Number.Text

/-!
# Thermostats

How zones and rooms look to the host: an HVAC mode, target and current temperature, and attributes
that say what comes next. Of every component there is a description of one line.
-/

namespace HeatingHub

open Calendar (Moment)

/-! ## HVAC modes -/

/-- Heating if the target lies above the current temperature. -/
def heatOrCool (e : Effective) (current : Option Float) : HvacMode :=
  match e.target, current with
  | some target, some current => if current < target then .heat else .cool
  | _, _ => .cool

def zoneHvac (e : Effective) (current : Option Float) : HvacMode :=
  match e.mode with
  | .operating .day | .quick .party => .heat
  | .operating .night => .cool
  | .operating .auto | .quick .oneDayAtHome => .auto
  | .operating .off | .quick .oneDayAway | .quick .systemOff | .holiday => .off
  | .quick .ventilationBoost => .fanOnly
  | .operating .manual | .operating .on | .operating .quickVeto | .quick .hotWaterBoost =>
    heatOrCool e current

def roomHvac (e : Effective) (current : Option Float) : HvacMode :=
  match e.mode with
  | .operating .auto => .auto
  | .operating .off | .quick .systemOff | .holiday => .off
  | _ => heatOrCool e current

/-- The operating mode to ask for when the host asks for an HVAC mode, if the kind has one. -/
def operatingModeFor : Kind → HvacMode → Option OperatingMode
  | .zone, .auto | .room, .auto => some .auto
  | .zone, .off | .room, .off => some .off
  | .zone, .heat => some .day
  | .zone, .cool => some .night
  | _, _ => none

/-! ## Attributes -/

/-- What a thermostat tells beside its temperatures. -/
structure Attributes where
  mode : Mode
  /-- The end of a quick veto, to the minute. -/
  vetoEnd : Option Moment
  /-- The next slot of the weekly program, and when it begins. -/
  next : Option (Moment × Slot)
  /-- The setting in force. -/
  setting : Option SettingMode
deriving DecidableEq

/-- A veto with minutes left announces its end; a component that follows its program announces the
next slot and shows the setting in force. -/
def attributes (e : Effective) (veto : Option QuickVeto) (program : TimeProgram) (now : Moment) :
    Attributes where
  mode := e.mode
  vetoEnd :=
    if e.isOperating .quickVeto then
      ((veto.bind (·.duration)).filter (0 < ·)).map fun minutes =>
        (now.addMinutes minutes).truncateToMinute
    else none
  next := if e.isOperating .auto then program.nextSetting now else none
  setting := if e.isOperating .auto then e.setting else none

/-- What a slot asks for. -/
def Slot.text (s : Slot) : String :=
  match s.setting, s.target with
  | some setting, _ => setting.name
  | none, some t => Number.oneDecimal t
  | none, none => "-"

/-- The attributes by name, in ascending order of their names. -/
def Attributes.entries (a : Attributes) : List (String × String) :=
  [("multimatic_mode", a.mode.name)] ++
  (a.next.map fun n => ("next_setting", n.2.text)).toList ++
  (a.vetoEnd.map fun m => ("quick_veto_end", m.text)).toList ++
  (a.setting.map fun s => ("setting", s.name)).toList ++
  (a.next.map fun n => ("setting_end", n.1.text)).toList

/-! ## Views -/

/-- A zone or room as its thermostat shows it. -/
structure ClimateView where
  hvac : HvacMode
  target : Option Float
  current : Option Float
  attributes : Attributes
deriving DecidableEq

namespace Installation

def zoneView (i : Installation) (z : Zone) (now : Moment) : ClimateView :=
  let e := i.effectiveZone z now
  ⟨zoneHvac e z.current, e.target, z.current, HeatingHub.attributes e z.veto z.program now⟩

def roomView (i : Installation) (r : Room) (now : Moment) : ClimateView :=
  let e := i.effectiveRoom r now
  ⟨roomHvac e r.current, e.target, r.current, HeatingHub.attributes e r.veto r.program now⟩

/-- The thermostat of a zone or room; other components have none. -/
def climateView? (i : Installation) (id : ComponentId) (now : Moment) : Option ClimateView :=
  match id with
  | .zone id => (i.zone? id).map (i.zoneView · now)
  | .room id => (i.room? id).map (i.roomView · now)
  | .hotWater _ | .circulation _ => none

end Installation

/-! ## Descriptions -/

def unavailable : String := "unavailable"

/-- A temperature to one place. -/
def temperatureText (t : Option Float) : String := (t.map Number.oneDecimal).getD "-"

def targetAndCurrent (target current : Option Float) : String :=
  "target " ++ temperatureText target ++ " current " ++ temperatureText current

def ClimateView.text (v : ClimateView) : String :=
  v.hvac.name ++ " (" ++ v.attributes.mode.name ++ ") " ++ targetAndCurrent v.target v.current

/-- The circulation pump runs. -/
def Effective.isOn (e : Effective) : Bool := e.isOperating .on || e.setting == some .on

/-- One line about a component. -/
def Installation.describe (i : Installation) (id : ComponentId) (now : Moment) : String :=
  match i.component? id with
  | none => unavailable
  | some (.zone z) => (i.zoneView z now).text
  | some (.room r) => (i.roomView r now).text
  | some (.hotWater h) =>
    let e := i.effectiveHotWater h now
    e.mode.name ++ " " ++ targetAndCurrent e.target h.current
  | some (.circulation c) =>
    let e := i.effectiveCirculation c now
    (if e.isOn then "on" else "off") ++ " (" ++ e.mode.name ++ ")"

/-- One line about the installation. -/
def Installation.summary (i : Installation) : String :=
  "zones=" ++ toString i.zones.length ++
  " rooms=" ++ toString i.rooms.length ++
  " outdoor=" ++ temperatureText i.outdoorTemperature ++
  " boiler=" ++ (i.boilerStatus.map (·.code)).getD "-" ++
  " pressure=" ++ temperatureText (i.boilerInfo.bind (·.waterPressure)) ++
  " quick_mode=" ++ (i.quickMode.map (·.name)).getD "-" ++
  " holiday=" ++ (if (i.holiday.map (·.active)).getD false then "true" else "false") ++
  " errors=" ++ toString i.faults.length

end HeatingHub

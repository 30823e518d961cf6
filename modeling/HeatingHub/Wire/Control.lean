import HeatingHub.Wire.Parts

/-!
# The payload of zones and hot water

Overrides, zones, hot water and circulation, and the temperature outside.
-/

namespace HeatingHub.Wire

open Json (Decoder Fields)
open Json.Fields (required nullable defaulted)

/-! ## Overrides -/

structure HolidayPart where
  active : Bool
  start : Option Calendar.Date
  finish : Option Calendar.Date
  target : Option Float
deriving DecidableEq

def HolidayPart.fields : Fields HolidayPart :=
  HolidayPart.mk <$> required "active" Decoder.bool <*> nullable "start_date" decodeDate <*>
    nullable "end_date" decodeDate <*> nullable "temperature_setpoint" Decoder.real

/-- A quick mode by its name, and minutes that are not used. -/
structure QuickModePart where
  name : String
  duration : Option Nat
deriving DecidableEq

def QuickModePart.fields : Fields QuickModePart :=
  QuickModePart.mk <$> required "quickmode" Decoder.text <*> nullable "duration" Decoder.word

structure Overrides where
  holiday : Option HolidayPart
  quickMode : Option QuickModePart
deriving DecidableEq

def Overrides.fields : Fields Overrides :=
  Overrides.mk <$> nullable "holidaymode" HolidayPart.fields.decode <*>
    nullable "quickmode" QuickModePart.fields.decode

/-! ## Zones -/

structure ZoneVeto where
  active : Bool
  target : Option Float
deriving DecidableEq

def ZoneVeto.fields : Fields ZoneVeto :=
  ZoneVeto.mk <$> required "active" Decoder.bool <*>
    nullable "temperature_setpoint" Decoder.real

structure ZoneSettings where
  name : String
  current : Option Float
  activeFunction : Option String
  veto : Option ZoneVeto
deriving DecidableEq

def ZoneSettings.fields : Fields ZoneSettings :=
  ZoneSettings.mk <$> required "name" Decoder.text <*>
    nullable "inside_temperature" Decoder.real <*> nullable "active_function" Decoder.text <*>
    nullable "quick_veto" ZoneVeto.fields.decode

structure HeatingSettings where
  mode : OperatingMode
  target : Float
  setback : Float
deriving DecidableEq

def HeatingSettings.fields : Fields HeatingSettings :=
  HeatingSettings.mk <$> required "mode" decodeMode <*>
    required "setpoint_temperature" Decoder.real <*>
    required "setback_temperature" Decoder.real

structure Heating where
  settings : HeatingSettings
  program : Option Program
deriving DecidableEq

def Heating.fields : Fields Heating :=
  Heating.mk <$> required "configuration" HeatingSettings.fields.decode <*>
    nullable "timeprogram" decodeProgram

structure ZonePart where
  id : String
  settings : ZoneSettings
  heating : Option Heating
  /-- What controls the zone. -/
  controller : Option String
deriving DecidableEq

/-- The name in a record that holds nothing else. -/
def onlyName : Fields String := id <$> required "name" Decoder.text

def ZonePart.fields : Fields ZonePart :=
  ZonePart.mk <$> required "_id" Decoder.text <*>
    required "configuration" ZoneSettings.fields.decode <*>
    nullable "heating" Heating.fields.decode <*>
    nullable "currently_controlled_by" onlyName.decode

/-! ## Hot water and circulation -/

structure HotWaterSettings where
  name : Option String
  mode : OperatingMode
  target : Float
deriving DecidableEq

def HotWaterSettings.fields : Fields HotWaterSettings :=
  HotWaterSettings.mk <$> nullable "name" Decoder.text <*>
    required "operation_mode" decodeMode <*> required "temperature_setpoint" Decoder.real

structure HotWaterPart where
  settings : HotWaterSettings
  program : Option Program
deriving DecidableEq

def HotWaterPart.fields : Fields HotWaterPart :=
  HotWaterPart.mk <$> required "configuration" HotWaterSettings.fields.decode <*>
    nullable "timeprogram" decodeProgram

structure CirculationSettings where
  name : Option String
  mode : OperatingMode
deriving DecidableEq

def CirculationSettings.fields : Fields CirculationSettings :=
  CirculationSettings.mk <$> nullable "name" Decoder.text <*>
    required "operationMode" decodeMode

structure CirculationPart where
  settings : CirculationSettings
  program : Option Program
deriving DecidableEq

def CirculationPart.fields : Fields CirculationPart :=
  CirculationPart.mk <$> required "configuration" CirculationSettings.fields.decode <*>
    nullable "timeprogram" decodeProgram

structure Dhw where
  id : String
  hotWater : Option HotWaterPart
  circulation : Option CirculationPart
deriving DecidableEq

def Dhw.fields : Fields Dhw :=
  Dhw.mk <$> required "_id" Decoder.text <*> nullable "hotwater" HotWaterPart.fields.decode <*>
    nullable "circulation" CirculationPart.fields.decode

/-! ## The payload -/

structure Control where
  overrides : Option Overrides
  outside : Option (Option Float)
  zones : List ZonePart
  dhw : List Dhw
deriving DecidableEq

/-- The temperature in a record that holds nothing else. -/
def onlyOutside : Fields (Option Float) := id <$> nullable "outside_temperature" Decoder.real

def Control.fields : Fields Control :=
  Control.mk <$> nullable "configuration" Overrides.fields.decode <*>
    nullable "status" onlyOutside.decode <*>
    defaulted "zones" (Decoder.list ZonePart.fields.decode) [] <*>
    defaulted "dhw" (Decoder.list Dhw.fields.decode) []

def Control.empty : Control := ⟨none, none, [], []⟩

end HeatingHub.Wire

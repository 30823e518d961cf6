import HeatingHub.Installation
import HeatingHub.Json.Value

/-!
# The JSON form of an installation

Every field of a record is a member, `null` where nothing is known. Times of day are written to the
second, dates as `YYYY-MM-DD`, modes by their names.
-/

namespace HeatingHub

open Json (Value)

/-! ## Single values -/

def optionForm {α : Type} (form : α → Value) : Option α → Value
  | some x => form x
  | none => .null

def floatForm (x : Float) : Value := .number (.real x)

def textForm (s : Option String) : Value := optionForm .text s

def temperatureForm (x : Option Float) : Value := optionForm floatForm x

def OperatingMode.form (m : OperatingMode) : Value := .text m.name

def QuickVeto.form (v : QuickVeto) : Value :=
  .object [("target_temperature", floatForm v.target),
    ("remaining_duration", optionForm Value.ofNat v.duration)]

def Holiday.form (h : Holiday) : Value :=
  .object [("active", .bool h.active),
    ("start_date", optionForm (fun d => .text d.text) h.start),
    ("end_date", optionForm (fun d => .text d.text) h.finish),
    ("target_temperature", temperatureForm h.target)]

def Slot.form (s : Slot) : Value :=
  .object [("start", .text s.start.text), ("target_temperature", temperatureForm s.target),
    ("setting", optionForm (fun m => .text m.name) s.setting)]

def TimeProgram.form (p : TimeProgram) : Value :=
  .object [("days", .array (p.days.toList.map fun day => .array (day.map Slot.form)))]

/-! ## Components -/

def Zone.form (z : Zone) : Value :=
  .object [("id", .text z.id), ("name", .text z.name), ("time_program", z.program.form),
    ("current_temperature", temperatureForm z.current),
    ("target_temperature", floatForm z.target),
    ("target_min_temperature", floatForm z.setback),
    ("operating_mode", z.mode.form),
    ("quick_veto", optionForm QuickVeto.form z.veto),
    ("active_function", textForm z.activeFunction),
    ("rbr", .bool z.roomByRoom)]

def Device.form (d : Device) : Value :=
  .object [("name", .text d.name), ("sgtin", .text d.serial),
    ("device_type", .text d.deviceType), ("battery_low", .bool d.batteryLow),
    ("radio_out_of_reach", .bool d.outOfReach)]

def Room.form (r : Room) : Value :=
  .object [("id", .text r.id), ("name", .text r.name), ("time_program", r.program.form),
    ("current_temperature", temperatureForm r.current),
    ("target_temperature", floatForm r.target),
    ("operating_mode", r.mode.form),
    ("quick_veto", optionForm QuickVeto.form r.veto),
    ("child_lock", .bool r.childLock),
    ("window_open", .bool r.windowOpen),
    ("devices", .array (r.devices.map Device.form))]

def HotWater.form (h : HotWater) : Value :=
  .object [("id", .text h.id), ("name", .text h.name), ("time_program", h.program.form),
    ("current_temperature", temperatureForm h.current),
    ("target_temperature", floatForm h.target),
    ("operating_mode", h.mode.form)]

def Circulation.form (c : Circulation) : Value :=
  .object [("id", .text c.id), ("name", .text c.name), ("time_program", c.program.form),
    ("operating_mode", c.mode.form)]

def Component.form : Component → Value
  | zone z => z.form
  | room r => r.form
  | hotWater h => h.form
  | circulation c => c.form

/-! ## Reports -/

def BoilerStatus.form (b : BoilerStatus) : Value :=
  .object [("device_name", .text b.deviceName), ("title", .text b.title),
    ("status_code", .text b.code), ("description", textForm b.description),
    ("timestamp", .text b.time.universalText), ("hint", textForm b.hint)]

def BoilerInfo.form (b : BoilerInfo) : Value :=
  .object [("flow_temperature", temperatureForm b.flowTemperature),
    ("water_pressure", temperatureForm b.waterPressure)]

def SystemStatus.form (s : SystemStatus) : Value :=
  .object [("online", .bool s.online), ("up_to_date", .bool s.upToDate)]

def Fault.form (f : Fault) : Value :=
  .object [("device_name", .text f.deviceName), ("title", .text f.title),
    ("status_code", .text f.code), ("description", textForm f.description),
    ("timestamp", .text f.time.universalText)]

def Installation.form (i : Installation) : Value :=
  .object [("holiday_mode", optionForm Holiday.form i.holiday),
    ("quick_mode", optionForm (fun q => .text q.name) i.quickMode),
    ("zones", .array (i.zones.map Zone.form)),
    ("rooms", .array (i.rooms.map Room.form)),
    ("hot_water", optionForm HotWater.form i.hotWater),
    ("circulation", optionForm Circulation.form i.circulation),
    ("boiler_status", optionForm BoilerStatus.form i.boilerStatus),
    ("boiler_info", optionForm BoilerInfo.form i.boilerInfo),
    ("system_status", optionForm SystemStatus.form i.status),
    ("outdoor_temperature", temperatureForm i.outdoorTemperature),
    ("errors", .array (i.faults.map Fault.form))]

end HeatingHub

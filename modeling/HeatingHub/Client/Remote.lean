import HeatingHub.Client.Exchange
import HeatingHub.Wire.Assembly

/-!
# The client as a session

Each call of a session is one request to the facility; an installation is read in four parts.
-/

namespace HeatingHub

open Json (Value)

/-! ## Requests of calls -/

def zonePath (id : String) : String := "/systemcontrol/v1/zones/" ++ id

def roomPath (id : String) : String := "/rbr/v1/rooms/" ++ id ++ "/configuration"

def hotWaterPath (id : String) : String :=
  "/systemcontrol/v1/dhw/" ++ id ++ "/hotwater/configuration"

def quickModePath : String := "/systemcontrol/v1/configuration/quickmode"

def holidayPath : String := "/systemcontrol/v1/configuration/holidaymode"

/-- The duration of a veto, if it has one. -/
def durationMember (veto : QuickVeto) : List (String × Value) :=
  match veto.duration with
  | some minutes => [("duration", .ofNat minutes)]
  | none => []

/-- The request that a call stands for; its path is below that of the facility. -/
def Call.ask : Call → Ask
  | setHotWaterMode id mode =>
    ⟨.put, hotWaterPath id ++ "/operation_mode",
      some (.object [("operation_mode", .text mode.name)])⟩
  | setHotWaterTarget id target =>
    ⟨.put, hotWaterPath id ++ "/temperature_setpoint",
      some (.object [("temperature_setpoint", .ofFloat target)])⟩
  | setRoomMode id mode =>
    ⟨.put, roomPath id ++ "/operationMode", some (.object [("operationMode", .text mode.name)])⟩
  | setRoomTarget id target =>
    ⟨.put, roomPath id ++ "/temperatureSetpoint",
      some (.object [("temperatureSetpoint", .ofFloat target)])⟩
  | setRoomVeto id veto =>
    ⟨.put, roomPath id ++ "/quickVeto",
      some (.object (durationMember veto ++ [("temperatureSetpoint", .ofFloat veto.target)]))⟩
  | removeRoomVeto id => ⟨.delete, roomPath id ++ "/quickVeto", none⟩
  | setZoneMode id mode =>
    ⟨.put, zonePath id ++ "/heating/configuration/mode",
      some (.object [("mode", .text mode.name)])⟩
  | setZoneVeto id veto =>
    ⟨.put, zonePath id ++ "/configuration/quick_veto",
      some (.object (durationMember veto ++ [("setpoint_temperature", .ofFloat veto.target)]))⟩
  | removeZoneVeto id => ⟨.delete, zonePath id ++ "/configuration/quick_veto", none⟩
  | setQuickMode mode =>
    ⟨.put, quickModePath, some (.object [("quickmode", .object [("duration", .ofNat 0),
      ("quickmode", .text mode.wireName)])])⟩
  | removeQuickMode => ⟨.delete, quickModePath, none⟩
  | setHoliday start finish target =>
    ⟨.put, holidayPath, some (.object [("active", .bool true), ("end_date", .text finish.text),
      ("start_date", .text start.text), ("temperature_setpoint", .ofFloat target)])⟩
  | removeHoliday => ⟨.delete, holidayPath, none⟩

/-! ## The session -/

namespace Exchange

def perform (c : Call) : Exchange Unit := do
  let a := c.ask
  let _ ← facilityCall a.method a.path a.body

def requestUpdate : Exchange Unit := do
  let _ ← facilityCall .put "/hvacstate/v1/hvacMessages/update" none

/-- Reads the four parts of an installation and puts them together. -/
def fetch : Exchange Installation := do
  let control ← read "/systemcontrol/v1" Wire.Control.fields.decode
  let rooms ← read "/rbr/v1/rooms" Wire.roomsFields.decode
  let liveReport ← read "/livereport/v1" Wire.liveReportFields.decode
  let hvacStates ← read "/hvacstate/v1/overview" Wire.decodeHvacStates
  match Wire.assemble ⟨control, rooms, liveReport, hvacStates⟩ with
  | .ok i => return i
  | .error e => throw (.payload e.message)

end Exchange

/-- The API reached by the client. -/
def clientSession : Session Client where
  perform c := Exchange.perform c
  requestUpdate := Exchange.requestUpdate
  fetch := Exchange.fetch
  logout := Exchange.logout

end HeatingHub

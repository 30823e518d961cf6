import HeatingHub.Json.Path
import HeatingHub.Snapshot

/-!
# Sessions

What the remote API can be asked to do. A `Call` changes one setting; a `Session` carries out calls
and fetches, changing a state of its own.
-/

namespace HeatingHub

open Calendar (Date)

/-! ## Errors -/

/-- Why the API did not do what it was asked for. -/
inductive ApiError where
  /-- No answer came. -/
  | transport (text : String)
  /-- The answer was not one of success. -/
  | http (status : Nat) (text : String)
  /-- A part of the answer is not as it should be. -/
  | json (misfit : Json.Misfit)
  /-- The answer makes no sense. -/
  | payload (text : String)
  /-- The login was refused. -/
  | auth (text : String)
deriving DecidableEq

def ApiError.message : ApiError → String
  | transport text => "transport error: " ++ text
  | http status text => "http " ++ toString status ++ ": " ++ text
  | json misfit => "json error at " ++ misfit.text ++ ": " ++ misfit.complaint
  | payload text => "unexpected payload: " ++ text
  | auth text => "auth error: " ++ text

/-! ## Calls -/

/-- A change of one setting. -/
inductive Call where
  | setHotWaterMode (id : String) (mode : OperatingMode)
  | setHotWaterTarget (id : String) (target : Float)
  | setRoomMode (id : String) (mode : OperatingMode)
  | setRoomTarget (id : String) (target : Float)
  | setRoomVeto (id : String) (veto : QuickVeto)
  | removeRoomVeto (id : String)
  | setZoneMode (id : String) (mode : OperatingMode)
  | setZoneVeto (id : String) (veto : QuickVeto)
  | removeZoneVeto (id : String)
  | setQuickMode (mode : QuickMode)
  | removeQuickMode
  | setHoliday (start finish : Date) (target : Float)
  | removeHoliday
deriving DecidableEq

namespace Call

/-- What a call that succeeded changes in the snapshot. -/
def patch : Call → Patch
  | setHotWaterMode id mode => .hotWaterMode id mode
  | setHotWaterTarget id target => .hotWaterTarget id target
  | setRoomMode id mode => .roomMode id mode
  | setRoomTarget id target => .roomTarget id target
  | setRoomVeto id veto => .roomVeto id (some veto)
  | removeRoomVeto id => .roomVeto id none
  | setZoneMode id mode => .zoneMode id mode
  | setZoneVeto id veto => .zoneVeto id (some veto)
  | removeZoneVeto id => .zoneVeto id none
  | setQuickMode mode => .quickMode (some mode)
  | removeQuickMode => .quickMode none
  | setHoliday start finish target => .holiday (some (.between start finish target))
  | removeHoliday => .holiday (some .inactive)

/-- The call touches holiday or quick mode, and so every listening entity. -/
def isSystemWide : Call → Bool
  | setQuickMode _ | removeQuickMode | setHoliday .. | removeHoliday => true
  | _ => false

end Call

/-! ## Sessions -/

/-- A way to reach the API, over states of type `σ`. -/
structure Session (σ : Type) where
  perform : Call → σ → Except ApiError Unit × σ
  /-- Asks the installation to report its state to the API. -/
  requestUpdate : σ → Except ApiError Unit × σ
  fetch : σ → Except ApiError Installation × σ
  logout : σ → Except ApiError Unit × σ

end HeatingHub

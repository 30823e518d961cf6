import HeatingHub.Registry
import HeatingHub.Session
import HeatingHub.Throttle

/-!
# Requests of the host

A request asks the hub to change something. The hub decides at once, from its snapshot, which calls
the request comes to (`Hub.plan`), or why it cannot be met. An override that would hide the change is
removed first, one for each request: the holiday, or else the quick mode.
-/

namespace HeatingHub

open Calendar (Date Moment)

/-! ## The hub -/

structure Hub where
  snapshot : Snapshot
  registry : Registry
  throttle : Throttle
  /-- Minutes of a quick veto for which no duration is given. -/
  vetoMinutes : Nat
  /-- The last refresh that was let through failed. -/
  refreshFailed : Bool
deriving DecidableEq

/-- A hub that has fetched nothing; `interval` is the least time between two refreshes. -/
def Hub.new (interval vetoMinutes : Nat) : Hub :=
  ⟨.empty, .empty, .new interval, vetoMinutes, false⟩

/-! ## Errors -/

/-- What is asked of a component that may not support it. -/
inductive Action where
  | setTargetTemperature
  | setOperatingMode
  | setQuickVeto
  | removeQuickVeto
  | setHvacMode
deriving DecidableEq

def Action.name : Action → String
  | setTargetTemperature => "set_target_temperature"
  | setOperatingMode => "set_operating_mode"
  | setQuickVeto => "set_quick_veto"
  | removeQuickVeto => "remove_quick_veto"
  | setHvacMode => "set_hvac_mode"

/-- Why a request was not met. -/
inductive HubError where
  | api (error : ApiError)
  | noSnapshot
  | unknownEntity (id : String)
  | notAComponent (id : String)
  | componentMissing (id : ComponentId)
  | unsupported (action : Action) (kind : Kind)
  | invalidMode (mode : OperatingMode) (kind : Kind)
  | temperatureOutOfRange (temperature low high : Float)
  | invalidHoliday (start finish : Date)
deriving DecidableEq

def HubError.message : HubError → String
  | api error => "remote api error: " ++ error.message
  | noSnapshot => "no system snapshot loaded yet"
  | unknownEntity id => "unknown entity: " ++ id
  | notAComponent id => "entity " ++ id ++ " is not backed by a component"
  | componentMissing id => id.text ++ " not found in snapshot"
  | unsupported action kind => action.name ++ " not supported for " ++ kind.name
  | invalidMode mode kind => "mode " ++ mode.name ++ " not valid for " ++ kind.name
  | temperatureOutOfRange temperature low high =>
    "temperature " ++ Number.plain temperature ++ " outside " ++ Number.plain low ++ "..=" ++
      Number.plain high
  | invalidHoliday start finish =>
    "holiday ends (" ++ finish.text ++ ") before it starts (" ++ start.text ++ ")"

/-! ## Requests -/

inductive Request where
  | setTarget (entity : String) (target : Float)
  | setMode (entity : String) (mode : OperatingMode)
  /-- A veto, whatever overrides there are. -/
  | setVeto (entity : String) (target : Float) (duration : Option Nat)
  | removeVeto (entity : String)
  | setQuickMode (mode : QuickMode)
  /-- Removes the quick mode; given an entity, only if it applies to the kind of the entity. -/
  | removeQuickMode (entity : Option String)
  | setHoliday (start finish : Date) (target : Float)
  | removeHoliday
  /-- Sets a target unless it is a zone's target already. -/
  | setTemperature (entity : String) (target : Float)
  | setHvac (entity : String) (mode : HvacMode)
deriving DecidableEq

/-- The entity that the request acts on. -/
def Request.entity? : Request → Option String
  | setTarget entity _ | setMode entity _ | setVeto entity _ _ | removeVeto entity
  | setTemperature entity _ | setHvac entity _ => some entity
  | removeQuickMode entity => entity
  | setQuickMode _ | setHoliday .. | removeHoliday => none

/-! ## Calls for a component -/

namespace Installation

/-- The removal of the override that hides changes of components of the kind. -/
def conflict (i : Installation) (kind : Kind) (today : Date) : Option Call :=
  if (i.appliedHoliday today).isSome then some .removeHoliday
  else
    match i.quickMode with
    | some q => if q.appliesTo kind then some .removeQuickMode else none
    | none => none

/-- The installation once the call succeeded. -/
def after (i : Installation) (call : Option Call) : Installation :=
  (call.bind (·.patch.applied? i)).getD i

end Installation

def Zone.vetoRemoval (z : Zone) : List Call :=
  match z.veto with
  | some _ => [.removeZoneVeto z.id]
  | none => []

def Room.vetoRemoval (r : Room) : List Call :=
  match r.veto with
  | some _ => [.removeRoomVeto r.id]
  | none => []

/-- A zone takes a target as a quick veto without an end. -/
def Zone.targetCalls (z : Zone) (i : Installation) (target : Float) (now : Moment) : List Call :=
  (i.conflict .zone now.date).toList ++ z.vetoRemoval ++ [.setZoneVeto z.id ⟨target, none⟩]

/-- A room takes a target as a quick veto, unless it is in manual mode, which has a target of its
own. -/
def Room.targetCalls (r : Room) (i : Installation) (target : Float) (minutes : Nat)
    (now : Moment) : List Call :=
  let conflict := i.conflict .room now.date
  conflict.toList ++
    if ((i.after conflict).effectiveRoom r now).isOperating .manual then
      [.setRoomTarget r.id target]
    else r.vetoRemoval ++ [.setRoomVeto r.id ⟨target, some minutes⟩]

/-- Hot water takes a target only when it is on. It is switched on if it is off, and also after an
override was removed. -/
def HotWater.targetCalls (h : HotWater) (i : Installation) (target : Float) (now : Moment) :
    List Call :=
  let conflict := i.conflict .hotWater now.date
  conflict.toList ++
    (if conflict.isSome || ((i.after conflict).effectiveHotWater h now).isOperating .off then
      [.setHotWaterMode h.id .on]
    else []) ++
    [.setHotWaterTarget h.id target]

def Zone.modeCalls (z : Zone) (i : Installation) (mode : OperatingMode) (now : Moment) :
    List Call :=
  (i.conflict .zone now.date).toList ++ z.vetoRemoval ++ [.setZoneMode z.id mode]

def Room.modeCalls (r : Room) (i : Installation) (mode : OperatingMode) (now : Moment) :
    List Call :=
  (i.conflict .room now.date).toList ++ r.vetoRemoval ++ [.setRoomMode r.id mode]

def HotWater.modeCalls (h : HotWater) (i : Installation) (mode : OperatingMode) (now : Moment) :
    List Call :=
  (i.conflict .hotWater now.date).toList ++ [.setHotWaterMode h.id mode]

/-! ## Plans -/

/-- The temperature can be set. -/
def Range.check (r : Range) (t : Float) : Except HubError Unit :=
  if r.contains t then .ok () else .error (.temperatureOutOfRange t r.low r.high)

namespace Hub

def installation (h : Hub) : Except HubError Installation :=
  match h.snapshot.installation with
  | some i => .ok i
  | none => .error .noSnapshot

/-- The component that an entity stands for. -/
def componentOf (h : Hub) (entity : String) : Except HubError ComponentId :=
  match h.registry.get? entity with
  | none => .error (.unknownEntity entity)
  | some handle =>
    match handle.component with
    | some id => .ok id
    | none => .error (.notAComponent entity)

/-- The component as it is in the snapshot. -/
def component (h : Hub) (id : ComponentId) : Except HubError (Installation × Component) := do
  let i ← h.installation
  match i.component? id with
  | some c => .ok (i, c)
  | none => .error (.componentMissing id)

def planTarget (h : Hub) (now : Moment) (entity : String) (target : Float) :
    Except HubError (List Call) := do
  let id ← h.componentOf entity
  match id with
  | .zone _ | .room _ => heatingRange.check target
  | .hotWater _ => hotWaterRange.check target
  | .circulation _ => .error (.unsupported .setTargetTemperature .circulation)
  let (i, c) ← h.component id
  match c with
  | .zone z => .ok (z.targetCalls i target now)
  | .room r => .ok (r.targetCalls i target h.vetoMinutes now)
  | .hotWater w => .ok (w.targetCalls i target now)
  | .circulation _ => .ok []

def planMode (h : Hub) (now : Moment) (entity : String) (mode : OperatingMode) :
    Except HubError (List Call) := do
  let id ← h.componentOf entity
  if id.kind = .circulation then .error (.unsupported .setOperatingMode .circulation)
  if !mode.isValidFor id.kind then .error (.invalidMode mode id.kind)
  let (i, c) ← h.component id
  match c with
  | .zone z => .ok (z.modeCalls i mode now)
  | .room r => .ok (r.modeCalls i mode now)
  | .hotWater w => .ok (w.modeCalls i mode now)
  | .circulation _ => .ok []

def planVeto (h : Hub) (entity : String) (target : Float) (duration : Option Nat) :
    Except HubError (List Call) := do
  let id ← h.componentOf entity
  match id with
  | .zone _ | .room _ => heatingRange.check target
  | .hotWater _ | .circulation _ => .error (.unsupported .setQuickVeto id.kind)
  let (_, c) ← h.component id
  let veto : QuickVeto := ⟨target, some (duration.getD h.vetoMinutes)⟩
  match c with
  | .zone z => .ok (z.vetoRemoval ++ [.setZoneVeto z.id veto])
  | .room r => .ok (r.vetoRemoval ++ [.setRoomVeto r.id veto])
  | .hotWater _ | .circulation _ => .ok []

def planVetoRemoval (h : Hub) (entity : String) : Except HubError (List Call) := do
  let id ← h.componentOf entity
  match id with
  | .zone _ | .room _ => .ok ()
  | .hotWater _ | .circulation _ => .error (.unsupported .removeQuickVeto id.kind)
  let (_, c) ← h.component id
  match c with
  | .zone z => .ok z.vetoRemoval
  | .room r => .ok r.vetoRemoval
  | .hotWater _ | .circulation _ => .ok []

def planQuickMode (h : Hub) (mode : QuickMode) : Except HubError (List Call) := do
  let i ← h.installation
  match i.quickMode with
  | some _ => .ok [.removeQuickMode, .setQuickMode mode]
  | none => .ok [.setQuickMode mode]

def planQuickModeRemoval (h : Hub) (entity : Option String) : Except HubError (List Call) := do
  let i ← h.installation
  match i.quickMode, entity with
  | none, _ => .ok []
  | some _, none => .ok [.removeQuickMode]
  | some q, some entity =>
    let id ← h.componentOf entity
    .ok (if q.appliesTo id.kind then [.removeQuickMode] else [])

def planHoliday (h : Hub) (start finish : Date) (target : Float) :
    Except HubError (List Call) := do
  if finish < start then .error (.invalidHoliday start finish)
  heatingRange.check target
  let _ ← h.installation
  .ok [.setHoliday start finish target]

def planHolidayRemoval (h : Hub) : Except HubError (List Call) := do
  let i ← h.installation
  match i.holiday with
  | some holiday => .ok (if holiday.active then [.removeHoliday] else [])
  | none => .ok []

/-- The target of a zone is not set again while it is in force. -/
def planTemperature (h : Hub) (now : Moment) (entity : String) (target : Float) :
    Except HubError (List Call) := do
  let id ← h.componentOf entity
  match id with
  | .zone _ =>
    match ← h.component id with
    | (i, .zone z) =>
      match (i.effectiveZone z now).target with
      | some t => if t.beq target then .ok [] else h.planTarget now entity target
      | none => h.planTarget now entity target
    | _ => h.planTarget now entity target
  | _ => h.planTarget now entity target

def planHvac (h : Hub) (now : Moment) (entity : String) (mode : HvacMode) :
    Except HubError (List Call) := do
  let id ← h.componentOf entity
  match operatingModeFor id.kind mode with
  | some m => h.planMode now entity m
  | none => .error (.unsupported .setHvacMode id.kind)

/-- The calls that a request comes to. -/
def plan (h : Hub) (now : Moment) : Request → Except HubError (List Call)
  | .setTarget entity target => h.planTarget now entity target
  | .setMode entity mode => h.planMode now entity mode
  | .setVeto entity target duration => h.planVeto entity target duration
  | .removeVeto entity => h.planVetoRemoval entity
  | .setQuickMode mode => h.planQuickMode mode
  | .removeQuickMode entity => h.planQuickModeRemoval entity
  | .setHoliday start finish target => h.planHoliday start finish target
  | .removeHoliday => h.planHolidayRemoval
  | .setTemperature entity target => h.planTemperature now entity target
  | .setHvac entity mode => h.planHvac now entity mode

/-- The entities to render again after calls that succeeded: the listening ones if an override was
touched, then the one acted on. Without calls there are none. -/
def affected (h : Hub) (calls : List Call) (entity : Option String) : List String :=
  if calls.isEmpty then []
  else (if calls.any (·.isSystemWide) then h.registry.listening else []) ++ entity.toList

end Hub

end HeatingHub

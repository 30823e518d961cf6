import HeatingHub.Command

/-!
# Requests met step by step

A request can be met without a plan: the hub looks a component up, removes what is in the way, looks
the component up again, and decides from the patched snapshot which call to make next. Every one of
these steps may fail. A `Flow` is a computation of such steps, and `Request.flow` meets requests so.
-/

namespace HeatingHub

open Calendar (Date Moment)

/-! ## Flows -/

/-- A computation that uses a site and may fail on the way. -/
def Flow (σ α : Type) : Type := Site σ → Except HubError α × Site σ

namespace Flow

variable {σ : Type}

instance : Monad (Flow σ) where
  pure a := fun site => (.ok a, site)
  bind x f := fun site =>
    match x site with
    | (.ok a, next) => f a next
    | (.error e, next) => (.error e, next)

/-- Reads from the hub. -/
def look {α : Type} (g : Hub → Except HubError α) : Flow σ α := fun site => (g site.hub, site)

/-- Makes a call, and patches the snapshot if the call succeeded. -/
def ask (session : Session σ) (call : Call) : Flow σ Unit := Site.carryOut session [call]

def askIf (session : Session σ) (condition : Bool) (call : Call) : Flow σ Unit :=
  if condition then ask session call else pure ()

/-- Removes an override that is in the way; true if there was one. -/
def clear (session : Session σ) (now : Moment) (kind : Kind) : Flow σ Bool :=
  fun site => site.clearOverrides session now kind

/-- Has the entity rendered again, and if an override was touched the listening entities before. -/
def announce (overrides : Bool) (entity : Option String) : Flow σ Unit := fun site =>
  (.ok (), site.schedule ((if overrides then site.hub.registry.listening else []) ++ entity.toList))

end Flow

/-- The record of a component, as it is in the snapshot. -/
def Hub.held {α : Type} (h : Hub) (find : Installation → Option α) (id : ComponentId) :
    Except HubError α := do
  let i ← h.installation
  match find i with
  | some a => .ok a
  | none => .error (.componentMissing id)

def Hub.zone (h : Hub) (id : String) : Except HubError Zone := h.held (·.zone? id) (.zone id)

def Hub.room (h : Hub) (id : String) : Except HubError Room := h.held (·.room? id) (.room id)

def Hub.hotWater (h : Hub) (id : String) : Except HubError HotWater :=
  h.held (·.hotWater? id) (.hotWater id)

/-! ## Flows of requests -/

section Flows

open HeatingHub.Flow

variable {σ : Type} (session : Session σ) (now : Moment)

/-- Makes a setting, which takes the place of a veto if there is one. -/
def Flow.replacing (vetoed : Bool) (removal setting : Call) : Flow σ Unit := do
  askIf session vetoed removal
  ask session setting

/-- Gives a zone its target; true if an override was touched. -/
def Flow.zoneTarget (id : String) (target : Float) : Flow σ Bool := do
  look fun _ => heatingRange.check target
  let z ← look (·.zone id)
  let overrides ← clear session now .zone
  let z ← look (·.zone z.id)
  replacing session z.veto.isSome (.removeZoneVeto z.id) (.setZoneVeto z.id ⟨target, none⟩)
  return overrides

def Flow.giveRoom (r : Room) (target : Float) : Flow σ Unit := do
  let i ← look (·.installation)
  if (i.effectiveRoom r now).isOperating .manual then
    ask session (.setRoomTarget r.id target)
  else
    let minutes ← look fun h => .ok h.vetoMinutes
    replacing session r.veto.isSome (.removeRoomVeto r.id)
      (.setRoomVeto r.id ⟨target, some minutes⟩)

def Flow.roomTarget (id : String) (target : Float) : Flow σ Bool := do
  look fun _ => heatingRange.check target
  let r ← look (·.room id)
  let overrides ← clear session now .room
  let r ← look (·.room r.id)
  giveRoom session now r target
  return overrides

def Flow.giveHotWater (overrides : Bool) (w : HotWater) (target : Float) : Flow σ Unit := do
  let i ← look (·.installation)
  askIf session (overrides || (i.effectiveHotWater w now).isOperating .off)
    (.setHotWaterMode w.id .on)
  ask session (.setHotWaterTarget w.id target)

def Flow.hotWaterTarget (id : String) (target : Float) : Flow σ Bool := do
  look fun _ => hotWaterRange.check target
  let w ← look (·.hotWater id)
  let overrides ← clear session now .hotWater
  let w ← look (·.hotWater w.id)
  giveHotWater session now overrides w target
  return overrides

def Flow.zoneMode (id : String) (mode : OperatingMode) : Flow σ Bool := do
  let z ← look (·.zone id)
  let overrides ← clear session now .zone
  let z ← look (·.zone z.id)
  replacing session z.veto.isSome (.removeZoneVeto z.id) (.setZoneMode z.id mode)
  return overrides

def Flow.roomMode (id : String) (mode : OperatingMode) : Flow σ Bool := do
  let r ← look (·.room id)
  let overrides ← clear session now .room
  let r ← look (·.room r.id)
  replacing session r.veto.isSome (.removeRoomVeto r.id) (.setRoomMode r.id mode)
  return overrides

def Flow.hotWaterMode (id : String) (mode : OperatingMode) : Flow σ Bool := do
  let w ← look (·.hotWater id)
  let overrides ← clear session now .hotWater
  ask session (.setHotWaterMode w.id mode)
  return overrides

def Flow.setTarget (entity : String) (target : Float) : Flow σ Bool := do
  let overrides ← match ← look (·.componentOf entity) with
    | .zone id => zoneTarget session now id target
    | .room id => roomTarget session now id target
    | .hotWater id => hotWaterTarget session now id target
    | .circulation _ => look fun _ => .error (.unsupported .setTargetTemperature .circulation)
  announce overrides (some entity)
  return true

def Flow.setMode (entity : String) (mode : OperatingMode) : Flow σ Bool := do
  let id ← look (·.componentOf entity)
  look fun _ =>
    if id.kind = .circulation then .error (.unsupported .setOperatingMode .circulation)
    else if !mode.isValidFor id.kind then .error (.invalidMode mode id.kind)
    else .ok ()
  let overrides ← match id with
    | .zone id => zoneMode session now id mode
    | .room id => roomMode session now id mode
    | .hotWater id => hotWaterMode session now id mode
    | .circulation _ => pure false
  announce overrides (some entity)
  return true

def Flow.setVeto (entity : String) (target : Float) (duration : Option Nat) : Flow σ Bool := do
  let id ← look (·.componentOf entity)
  let minutes ← look fun h => .ok (duration.getD h.vetoMinutes)
  match id with
  | .zone id =>
    look fun _ => heatingRange.check target
    let z ← look (·.zone id)
    replacing session z.veto.isSome (.removeZoneVeto z.id)
      (.setZoneVeto z.id ⟨target, some minutes⟩)
  | .room id =>
    look fun _ => heatingRange.check target
    let r ← look (·.room id)
    replacing session r.veto.isSome (.removeRoomVeto r.id)
      (.setRoomVeto r.id ⟨target, some minutes⟩)
  | .hotWater _ | .circulation _ => look fun _ => .error (.unsupported .setQuickVeto id.kind)
  announce false (some entity)
  return true

def Flow.removeVeto (entity : String) : Flow σ Bool := do
  let id ← look (·.componentOf entity)
  match id with
  | .zone id =>
    let z ← look (·.zone id)
    if z.veto.isSome then
      ask session (.removeZoneVeto z.id)
      announce false (some entity)
      return true
    else
      return false
  | .room id =>
    let r ← look (·.room id)
    if r.veto.isSome then
      ask session (.removeRoomVeto r.id)
      announce false (some entity)
      return true
    else
      return false
  | .hotWater _ | .circulation _ => look fun _ => .error (.unsupported .removeQuickVeto id.kind)

def Flow.setQuickMode (mode : QuickMode) : Flow σ Bool := do
  let i ← look (·.installation)
  replacing session i.quickMode.isSome .removeQuickMode (.setQuickMode mode)
  announce true none
  return true

def Flow.removeQuickMode (entity : Option String) : Flow σ Bool := do
  let i ← look (·.installation)
  match i.quickMode with
  | none => return false
  | some q =>
    let applies ← match entity with
      | none => pure true
      | some entity => do
        let id ← look (·.componentOf entity)
        pure (q.appliesTo id.kind)
    if applies then
      ask session .removeQuickMode
      announce true entity
      return true
    else
      return false

def Flow.setHoliday (start finish : Date) (target : Float) : Flow σ Bool := do
  look fun _ => if finish < start then .error (.invalidHoliday start finish) else .ok ()
  look fun _ => heatingRange.check target
  let _ ← look (·.installation)
  ask session (.setHoliday start finish target)
  announce true none
  return true

def Flow.removeHoliday : Flow σ Bool := do
  let i ← look (·.installation)
  if i.holiday.any (·.active) then
    ask session .removeHoliday
    announce true none
    return true
  else
    return false

/-- Leaves a zone alone that has the target already. -/
def Flow.setTemperature (entity : String) (target : Float) : Flow σ Bool := do
  match ← look (·.componentOf entity) with
  | .zone id =>
    let z ← look (·.zone id)
    let i ← look (·.installation)
    if (i.effectiveZone z now).target.any (·.beq target) then return false
    else setTarget session now entity target
  | .room _ | .hotWater _ | .circulation _ => setTarget session now entity target

def Flow.setHvac (entity : String) (hvac : HvacMode) : Flow σ Bool := do
  let id ← look (·.componentOf entity)
  match operatingModeFor id.kind hvac with
  | some mode => setMode session now entity mode
  | none => look fun _ => .error (.unsupported .setHvacMode id.kind)

/-- Meets a request step by step; true if a call was made. -/
def Request.flow : Request → Flow σ Bool
  | .setTarget entity target => Flow.setTarget session now entity target
  | .setMode entity mode => Flow.setMode session now entity mode
  | .setVeto entity target duration => Flow.setVeto session entity target duration
  | .removeVeto entity => Flow.removeVeto session entity
  | .setQuickMode mode => Flow.setQuickMode session mode
  | .removeQuickMode entity => Flow.removeQuickMode session entity
  | .setHoliday start finish target => Flow.setHoliday session start finish target
  | .removeHoliday => Flow.removeHoliday session
  | .setTemperature entity target => Flow.setTemperature session now entity target
  | .setHvac entity hvac => Flow.setHvac session now entity hvac

end Flows

end HeatingHub

import HeatingHub.Calendar.Reading
import HeatingHub.Hub.Run
import HeatingHub.Number.Reading
import HeatingHub.Text.Quoted

/-!
# Commands

The words of a command line make up a command: its name, and arguments each of a kind of its own.
A command is a request to the hub with an answer of one line, except for `status`, which lists what
the hub knows.
-/

namespace HeatingHub

open Calendar (Date Moment)

inductive Command where
  | setHoliday (start finish : Date) (target : Float)
  | removeHoliday
  | setQuickMode (mode : QuickMode)
  | removeQuickMode (entity : Option String)
  | setVeto (entity : String) (target : Float) (duration : Option Nat)
  | removeVeto (entity : String)
  | setTemperature (entity : String) (target : Float)
  | setHvac (entity : String) (mode : HvacMode)
  | status
deriving DecidableEq

/-! ## Names -/

/-- What a command does. -/
inductive Verb where
  | setHoliday
  | removeHoliday
  | setQuickMode
  | removeQuickMode
  | setVeto
  | removeVeto
  | setTemperature
  | setHvac
  | status
deriving DecidableEq

namespace Verb

def all : List Verb :=
  [setHoliday, removeHoliday, setQuickMode, removeQuickMode, setVeto, removeVeto, setTemperature,
    setHvac, status]

def name : Verb → String
  | setHoliday => "set_holiday_mode"
  | removeHoliday => "remove_holiday_mode"
  | setQuickMode => "set_quick_mode"
  | removeQuickMode => "remove_quick_mode"
  | setVeto => "set_quick_veto"
  | removeVeto => "remove_quick_veto"
  | setTemperature => "set_temperature"
  | setHvac => "set_hvac_mode"
  | status => "status"

/-- The least and the greatest number of arguments. -/
def arity : Verb → Nat × Nat
  | setHoliday => (3, 3)
  | removeHoliday => (0, 0)
  | setQuickMode => (1, 1)
  | removeQuickMode => (0, 1)
  | setVeto => (2, 3)
  | removeVeto => (1, 1)
  | setTemperature => (2, 2)
  | setHvac => (2, 2)
  | status => (0, 0)

def admits (v : Verb) (count : Nat) : Bool := decide (v.arity.1 ≤ count ∧ count ≤ v.arity.2)

def ofName? (s : String) : Option Verb := all.find? (·.name == s)

end Verb

def Command.verb : Command → Verb
  | setHoliday .. => .setHoliday
  | removeHoliday => .removeHoliday
  | setQuickMode _ => .setQuickMode
  | removeQuickMode _ => .removeQuickMode
  | setVeto .. => .setVeto
  | removeVeto _ => .removeVeto
  | setTemperature .. => .setTemperature
  | setHvac .. => .setHvac
  | status => .status

/-! ## Errors -/

def usage : String := "commands:
  set_holiday_mode START END TEMPERATURE   dates as YYYY-MM-DD
  remove_holiday_mode
  set_quick_mode QUICK_MODE                e.g. PARTY, QM_SYSTEM_OFF
  remove_quick_mode [ENTITY_ID]
  set_quick_veto ENTITY_ID TEMPERATURE [DURATION_MINUTES]
  remove_quick_veto ENTITY_ID
  set_temperature ENTITY_ID TEMPERATURE
  set_hvac_mode ENTITY_ID auto|heat|cool|off
  status
without a command the poll loop runs"

/-- Why words make up no command. -/
inductive CommandError where
  | unknownCommand (name : String)
  | wrongCount (verb : Verb)
  | badDate (raw : String)
  | badTemperature (raw : String)
  | badDuration (raw : String)
  | unknownMode (mode : UnknownMode)
deriving DecidableEq

def CommandError.message : CommandError → String
  | unknownCommand name => "unknown command: " ++ name ++ "\n" ++ usage
  | wrongCount verb => verb.name ++ ": wrong number of arguments\n" ++ usage
  | badDate raw => "date must be in YYYY-MM-DD format, got " ++ raw
  | badTemperature raw => "invalid temperature: " ++ raw
  | badDuration raw => "invalid duration: " ++ raw
  | unknownMode mode => mode.message

/-! ## Arguments -/

def readDate (raw : String) : Except CommandError Date :=
  match Date.read? raw with
  | some date => .ok date
  | none => .error (.badDate raw)

def readTemperature (raw : String) : Except CommandError Float :=
  match Number.finite? raw with
  | some t => .ok t
  | none => .error (.badTemperature raw)

/-- A number of minutes, at least one, of 32 bits. -/
def readDuration (raw : String) : Except CommandError Nat :=
  match (Number.unsigned? 4294967296 raw.toList).filter (0 < ·) with
  | some minutes => .ok minutes
  | none => .error (.badDuration raw)

def readMode {α : Type} (read : String → Except UnknownMode α) (raw : String) :
    Except CommandError α :=
  match read raw with
  | .ok mode => .ok mode
  | .error e => .error (.unknownMode e)

/-! ## Reading commands -/

namespace Command

/-- Reads the arguments of a command in the order in which they are checked: the duration of a veto
before its temperature. -/
def readArguments (v : Verb) (arguments : List String) : Except CommandError Command :=
  match v, arguments with
  | .setHoliday, [start, finish, target] => do
    let start ← readDate start
    let finish ← readDate finish
    let target ← readTemperature target
    .ok (.setHoliday start finish target)
  | .removeHoliday, [] => .ok .removeHoliday
  | .setQuickMode, [mode] => (readMode QuickMode.read mode).map .setQuickMode
  | .removeQuickMode, [] => .ok (.removeQuickMode none)
  | .removeQuickMode, [entity] => .ok (.removeQuickMode (some entity))
  | .setVeto, [entity, target] => do
    let target ← readTemperature target
    .ok (.setVeto entity target none)
  | .setVeto, [entity, target, duration] => do
    let duration ← readDuration duration
    let target ← readTemperature target
    .ok (.setVeto entity target (some duration))
  | .removeVeto, [entity] => .ok (.removeVeto entity)
  | .setTemperature, [entity, target] => do
    let target ← readTemperature target
    .ok (.setTemperature entity target)
  | .setHvac, [entity, mode] => do
    let mode ← readMode HvacMode.read mode
    .ok (.setHvac entity mode)
  | .status, [] => .ok .status
  | v, _ => .error (.wrongCount v)

/-- Reads the words of a command; no words are no command. -/
def parse : List String → Except CommandError (Option Command)
  | [] => .ok none
  | name :: arguments =>
    match Verb.ofName? name with
    | none => .error (.unknownCommand name)
    | some v => (readArguments v arguments).map some

/-! ## The command as messages show it -/

/-- The name of a quick mode in words run together. -/
def quickLabel : QuickMode → String
  | .hotWaterBoost => "HotwaterBoost"
  | .ventilationBoost => "VentilationBoost"
  | .oneDayAway => "OneDayAway"
  | .systemOff => "SystemOff"
  | .oneDayAtHome => "OneDayAtHome"
  | .party => "Party"

def hvacLabel : HvacMode → String
  | .auto => "Auto"
  | .heat => "Heat"
  | .cool => "Cool"
  | .off => "Off"
  | .fanOnly => "FanOnly"

def optionLabel : Option String → String
  | some s => "Some(" ++ s ++ ")"
  | none => "None"

/-- A name with its fields in braces. -/
def record (name : String) (fields : List (String × String)) : String :=
  name ++ " \x7b " ++ ", ".intercalate (fields.map fun f => f.1 ++ ": " ++ f.2) ++ " \x7d"

def label : Command → String
  | setHoliday start finish target =>
    record "SetHolidayMode"
      [("start", start.text), ("end", finish.text), ("temperature", Number.literal target)]
  | removeHoliday => "RemoveHolidayMode"
  | setQuickMode mode => "SetQuickMode(" ++ quickLabel mode ++ ")"
  | removeQuickMode entity =>
    record "RemoveQuickMode" [("entity_id", optionLabel (entity.map Text.quoted))]
  | setVeto entity target duration =>
    record "SetQuickVeto"
      [("entity_id", Text.quoted entity), ("temperature", Number.literal target),
        ("duration", optionLabel (duration.map toString))]
  | removeVeto entity => record "RemoveQuickVeto" [("entity_id", Text.quoted entity)]
  | setTemperature entity target =>
    record "SetTemperature"
      [("entity_id", Text.quoted entity), ("temperature", Number.literal target)]
  | setHvac entity mode =>
    record "SetHvacMode" [("entity_id", Text.quoted entity), ("mode", hvacLabel mode)]
  | status => "Status"

/-! ## Execution -/

/-- What the command asks the hub for; `status` asks for nothing. -/
def request? : Command → Option Request
  | setHoliday start finish target => some (.setHoliday start finish target)
  | removeHoliday => some .removeHoliday
  | setQuickMode mode => some (.setQuickMode mode)
  | removeQuickMode entity => some (.removeQuickMode entity)
  | setVeto entity target duration => some (.setVeto entity target duration)
  | removeVeto entity => some (.removeVeto entity)
  | setTemperature entity target => some (.setTemperature entity target)
  | setHvac entity mode => some (.setHvac entity mode)
  | status => none

/-- The answer to a command that was met; `done` says whether a call was made for it. -/
def answer (c : Command) (done : Bool) : String :=
  match c with
  | setHoliday start finish target =>
    "holiday mode set from " ++ start.text ++ " to " ++ finish.text ++ " at " ++
      Number.oneDecimal target
  | removeHoliday => if done then "holiday mode removed" else "holiday mode was not active"
  | setQuickMode mode => "quick mode " ++ mode.name ++ " set"
  | removeQuickMode _ => if done then "quick mode removed" else "no quick mode to remove"
  | setVeto entity target _ =>
    "quick veto " ++ Number.oneDecimal target ++ " set on " ++ entity
  | removeVeto entity =>
    if done then "quick veto removed from " ++ entity else entity ++ " had no quick veto"
  | setTemperature entity target =>
    entity ++ (if done then " target set to " else " already targets ") ++
      Number.oneDecimal target
  | setHvac entity mode => entity ++ " switched to " ++ mode.name
  | status => ""

end Command

/-- The version of the snapshot, and the state of every entity. -/
def Hub.status (h : Hub) (now : Moment) : Except HubError String := do
  let i ← h.installation
  let first := "snapshot v" ++ toString h.snapshot.version ++
    (if h.refreshFailed then " (stale)" else "")
  .ok ("\n".intercalate
    (first :: h.registry.handles.map fun e => e.id ++ ": " ++ e.state i now))

/-- Executes a command and returns what to print. -/
def Site.execute {σ : Type} (session : Session σ) (now : Moment) (c : Command) (site : Site σ) :
    Except HubError String × Site σ :=
  match c.request? with
  | none => (site.hub.status now, site)
  | some request =>
    match site.submit session now request with
    | (.ok done, site) => (.ok (c.answer done), site)
    | (.error e, site) => (.error e, site)

end HeatingHub

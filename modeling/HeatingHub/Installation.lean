import HeatingHub.Override
import HeatingHub.Schedule

/-!
# The installation

An `Installation` is what is known of an installation at one time: its components with their settings,
the overrides that govern it, and what boiler and sensors report.
-/

namespace HeatingHub

open Calendar (Date Moment)

/-! ## Components -/

structure Zone where
  id : String
  name : String
  program : TimeProgram
  current : Option Float
  /-- Target by day. -/
  target : Float
  /-- Target by night. -/
  setback : Float
  mode : OperatingMode
  veto : Option QuickVeto
  activeFunction : Option String
  /-- The zone is controlled room by room. -/
  roomByRoom : Bool
deriving DecidableEq

structure Device where
  name : String
  serial : String
  deviceType : String
  batteryLow : Bool
  outOfReach : Bool
deriving DecidableEq

structure Room where
  id : String
  name : String
  program : TimeProgram
  current : Option Float
  target : Float
  mode : OperatingMode
  veto : Option QuickVeto
  childLock : Bool
  windowOpen : Bool
  devices : List Device
deriving DecidableEq

structure HotWater where
  id : String
  name : String
  program : TimeProgram
  current : Option Float
  target : Float
  mode : OperatingMode
deriving DecidableEq

structure Circulation where
  id : String
  name : String
  program : TimeProgram
  mode : OperatingMode
deriving DecidableEq

/-! ## Reports -/

structure BoilerStatus where
  deviceName : String
  title : String
  code : String
  description : Option String
  time : Moment
  hint : Option String
deriving DecidableEq

/-- Codes of failures begin with `F`. -/
def BoilerStatus.isFailure (b : BoilerStatus) : Bool := b.code.toList.head? == some 'F'

structure BoilerInfo where
  flowTemperature : Option Float
  waterPressure : Option Float
deriving DecidableEq

structure SystemStatus where
  online : Bool
  upToDate : Bool
deriving DecidableEq

/-- A failure that some device reports. -/
structure Fault where
  deviceName : String
  title : String
  code : String
  description : Option String
  time : Moment
deriving DecidableEq

structure Installation where
  holiday : Option Holiday
  quickMode : Option QuickMode
  zones : List Zone
  rooms : List Room
  hotWater : Option HotWater
  circulation : Option Circulation
  boilerStatus : Option BoilerStatus
  boilerInfo : Option BoilerInfo
  status : Option SystemStatus
  outdoorTemperature : Option Float
  faults : List Fault
deriving DecidableEq

/-! ## Component ids -/

/-- Names one component. Ids are apart only within a kind. -/
inductive ComponentId where
  | zone (id : String)
  | room (id : String)
  | hotWater (id : String)
  | circulation (id : String)
deriving DecidableEq

namespace ComponentId

def kind : ComponentId → Kind
  | zone _ => .zone
  | room _ => .room
  | hotWater _ => .hotWater
  | circulation _ => .circulation

def text : ComponentId → String
  | zone id => "zone " ++ id
  | room id => "room " ++ id
  | hotWater id => "hot water " ++ id
  | circulation id => "circulation " ++ id

end ComponentId

inductive Component where
  | zone (z : Zone)
  | room (r : Room)
  | hotWater (h : HotWater)
  | circulation (c : Circulation)

namespace Installation

/-- The first zone with the id. -/
def zone? (i : Installation) (id : String) : Option Zone := i.zones.find? (·.id == id)

/-- The first room with the id. -/
def room? (i : Installation) (id : String) : Option Room := i.rooms.find? (·.id == id)

def hotWater? (i : Installation) (id : String) : Option HotWater := i.hotWater.filter (·.id == id)

def circulation? (i : Installation) (id : String) : Option Circulation :=
  i.circulation.filter (·.id == id)

def component? (i : Installation) : ComponentId → Option Component
  | .zone id => (i.zone? id).map .zone
  | .room id => (i.room? id).map .room
  | .hotWater id => (i.hotWater? id).map .hotWater
  | .circulation id => (i.circulation? id).map .circulation

/-- The holiday, if it governs the given day. -/
def appliedHoliday (i : Installation) (today : Date) : Option Holiday :=
  i.holiday.filter (·.isApplied today)

/-- An installation of which nothing is known. -/
def empty : Installation where
  holiday := none
  quickMode := none
  zones := []
  rooms := []
  hotWater := none
  circulation := none
  boilerStatus := none
  boilerInfo := none
  status := none
  outdoorTemperature := none
  faults := []

end Installation

/-! ## Ranges of target temperatures -/

/-- A closed range of temperatures. -/
structure Range where
  low : Float
  high : Float

def Range.contains (r : Range) (t : Float) : Bool := decide (r.low ≤ t) && decide (t ≤ r.high)

/-- What a zone, a room or a holiday can be set to. -/
def heatingRange : Range := ⟨5, 30⟩

/-- What hot water can be set to. -/
def hotWaterRange : Range := ⟨35, 70⟩

end HeatingHub

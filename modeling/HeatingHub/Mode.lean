import HeatingHub.Text.Blank

/-!
# Modes

What a component can be set to (`OperatingMode`), what a slot of a weekly program asks for
(`SettingMode`), what can govern the whole installation for a while (`QuickMode`), and what a
thermostat of the host shows (`HvacMode`).
-/

namespace HeatingHub

/-- The kinds of components that have modes. -/
inductive Kind where
  | zone
  | room
  | hotWater
  | circulation
deriving DecidableEq

namespace Kind

def name : Kind → String
  | zone => "Zone"
  | room => "Room"
  | hotWater => "HotWater"
  | circulation => "Circulation"

end Kind

/-! ## Operating modes -/

inductive OperatingMode where
  | auto
  | manual
  | day
  | night
  | off
  | on
  | quickVeto
deriving DecidableEq

namespace OperatingMode

def all : List OperatingMode := [auto, manual, day, night, off, on, quickVeto]

def name : OperatingMode → String
  | auto => "AUTO"
  | manual => "MANUAL"
  | day => "DAY"
  | night => "NIGHT"
  | off => "OFF"
  | on => "ON"
  | quickVeto => "QUICK_VETO"

/-- A component of the kind can be switched to the mode. -/
def isValidFor : OperatingMode → Kind → Bool
  | auto, _ | off, _ => true
  | day, .zone | night, .zone => true
  | manual, .room => true
  | on, .hotWater | on, .circulation => true
  | _, _ => false

def ofName? (s : String) : Option OperatingMode := all.find? (·.name == s)

end OperatingMode

/-! ## Settings of a weekly program -/

inductive SettingMode where
  | day
  | night
  | on
  | off
deriving DecidableEq

namespace SettingMode

def all : List SettingMode := [day, night, on, off]

def name : SettingMode → String
  | day => "DAY"
  | night => "NIGHT"
  | on => "ON"
  | off => "OFF"

def ofName? (s : String) : Option SettingMode := all.find? (·.name == s)

end SettingMode

/-! ## Quick modes -/

inductive QuickMode where
  | hotWaterBoost
  | ventilationBoost
  | oneDayAway
  | systemOff
  | oneDayAtHome
  | party
deriving DecidableEq

namespace QuickMode

def all : List QuickMode :=
  [hotWaterBoost, ventilationBoost, oneDayAway, systemOff, oneDayAtHome, party]

def name : QuickMode → String
  | hotWaterBoost => "HOTWATER_BOOST"
  | ventilationBoost => "VENTILATION_BOOST"
  | oneDayAway => "ONE_DAY_AWAY"
  | systemOff => "SYSTEM_OFF"
  | oneDayAtHome => "ONE_DAY_AT_HOME"
  | party => "PARTY"

/-- The name in the messages of the remote API. -/
def wireName (q : QuickMode) : String := "QM_" ++ q.name

/-- The quick mode governs components of the kind. -/
def appliesTo : QuickMode → Kind → Bool
  | hotWaterBoost, .zone => false
  | _, .zone => true
  | systemOff, .room => true
  | _, .room => false
  | hotWaterBoost, .hotWater | oneDayAway, .hotWater | systemOff, .hotWater => true
  | _, .hotWater => false
  | _, .circulation => false

def ofName? (s : String) : Option QuickMode := all.find? (·.name == s)

end QuickMode

/-! ## The mode in force -/

/-- What governs a component at some moment. -/
inductive Mode where
  | operating (m : OperatingMode)
  | quick (q : QuickMode)
  | holiday
deriving DecidableEq

def Mode.name : Mode → String
  | operating m => m.name
  | quick q => q.name
  | holiday => "HOLIDAY"

/-! ## Modes of the host -/

inductive HvacMode where
  | auto
  | heat
  | cool
  | off
  | fanOnly
deriving DecidableEq

namespace HvacMode

def all : List HvacMode := [auto, heat, cool, off, fanOnly]

def name : HvacMode → String
  | auto => "auto"
  | heat => "heat"
  | cool => "cool"
  | off => "off"
  | fanOnly => "fan_only"

def ofName? (s : String) : Option HvacMode := all.find? (·.name == s)

end HvacMode

/-! ## Names as typed

Names are read with blanks around them and in either case. -/

/-- A name that no mode has. -/
inductive UnknownMode where
  | operating (name : String)
  | quick (name : String)
  | hvac (name : String)
deriving DecidableEq

def UnknownMode.message : UnknownMode → String
  | operating name => "unknown operating mode: " ++ name
  | quick name => "unknown quick mode: " ++ name
  | hvac name => "unknown hvac mode: " ++ name

/-- The name without blanks around it, its ASCII letters in upper case. -/
def upperName (raw : String) : String := String.ofList ((Text.trim raw.toList).map Char.toUpper)

/-- The name without blanks around it, its ASCII letters in lower case. -/
def lowerName (raw : String) : String := String.ofList ((Text.trim raw.toList).map Char.toLower)

def OperatingMode.read (raw : String) : Except UnknownMode OperatingMode :=
  match ofName? (upperName raw) with
  | some m => .ok m
  | none => .error (.operating (upperName raw))

/-- Takes the mark of the remote API from the head of a name. -/
def dropMark : List Char → List Char
  | 'Q' :: 'M' :: '_' :: s => s
  | s => s

/-- Both names of a quick mode are read. -/
def QuickMode.read (raw : String) : Except UnknownMode QuickMode :=
  match ofName? (String.ofList (dropMark (upperName raw).toList)) with
  | some q => .ok q
  | none => .error (.quick raw)

def HvacMode.read (raw : String) : Except UnknownMode HvacMode :=
  match ofName? (lowerName raw) with
  | some m => .ok m
  | none => .error (.hvac (lowerName raw))

example : (QuickMode.read " qm_party " matches .ok .party) ∧
    (QuickMode.read "QM_QM_PARTY" matches .error _) := by decide +kernel

end HeatingHub

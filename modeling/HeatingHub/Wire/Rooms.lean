import HeatingHub.Wire.Parts

/-!
# The payload of rooms
-/

namespace HeatingHub.Wire

open Json (Decoder Fields)
open Json.Fields (required nullable defaulted)

structure RoomVeto where
  duration : Option Nat
  target : Float
deriving DecidableEq

def RoomVeto.fields : Fields RoomVeto :=
  RoomVeto.mk <$> nullable "remainingDuration" Decoder.word <*>
    required "temperatureSetpoint" Decoder.real

structure DevicePart where
  name : String
  serial : String
  deviceType : String
  batteryLow : Bool
  outOfReach : Bool
deriving DecidableEq

def DevicePart.fields : Fields DevicePart :=
  DevicePart.mk <$> required "name" Decoder.text <*> required "sgtin" Decoder.text <*>
    required "deviceType" Decoder.text <*> defaulted "isBatteryLow" Decoder.bool false <*>
    defaulted "isRadioOutOfReach" Decoder.bool false

structure RoomSettings where
  name : String
  target : Option Float
  mode : OperatingMode
  current : Option Float
  childLock : Bool
  windowOpen : Bool
  devices : List DevicePart
  veto : Option RoomVeto
deriving DecidableEq

def RoomSettings.fields : Fields RoomSettings :=
  RoomSettings.mk <$> required "name" Decoder.text <*>
    nullable "temperatureSetpoint" Decoder.real <*> required "operationMode" decodeMode <*>
    nullable "currentTemperature" Decoder.real <*> defaulted "childLock" Decoder.bool false <*>
    defaulted "isWindowOpen" Decoder.bool false <*>
    defaulted "devices" (Decoder.list DevicePart.fields.decode) [] <*>
    nullable "quickVeto" RoomVeto.fields.decode

structure RoomPart where
  index : Int
  settings : RoomSettings
  program : Option Program
deriving DecidableEq

def RoomPart.fields : Fields RoomPart :=
  RoomPart.mk <$> required "roomIndex" Decoder.long <*>
    required "configuration" RoomSettings.fields.decode <*> nullable "timeprogram" decodeProgram

/-- The rooms in a record that holds nothing else. -/
def roomsFields : Fields (List RoomPart) :=
  id <$> defaulted "rooms" (Decoder.list RoomPart.fields.decode) []

end HeatingHub.Wire

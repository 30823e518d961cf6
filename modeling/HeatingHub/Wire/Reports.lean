import HeatingHub.Wire.Parts

/-!
# The payloads of sensors and boiler

Sensors report values device by device; the boiler sends messages about its state and its failures.
-/

namespace HeatingHub.Wire

open Json (Decoder Fields)
open Json.Fields (required nullable defaulted)

/-! ## Sensors -/

structure Report where
  id : String
  value : Option Float
  unit : Option String
deriving DecidableEq

def Report.fields : Fields Report :=
  Report.mk <$> required "_id" Decoder.text <*> nullable "value" Decoder.real <*>
    nullable "unit" Decoder.text

structure ReportingDevice where
  id : String
  reports : List Report
deriving DecidableEq

def ReportingDevice.fields : Fields ReportingDevice :=
  ReportingDevice.mk <$> required "_id" Decoder.text <*>
    defaulted "reports" (Decoder.list Report.fields.decode) []

/-- The devices in a record that holds nothing else. -/
def liveReportFields : Fields (List ReportingDevice) :=
  id <$> defaulted "devices" (Decoder.list ReportingDevice.fields.decode) []

/-! ## The boiler -/

structure Message where
  code : String
  title : String
  description : Option String
  hint : Option String
  /-- Milliseconds since the start of 1970. -/
  time : Int
  deviceName : String
deriving DecidableEq

def Message.fields : Fields Message :=
  Message.mk <$> required "statusCode" Decoder.text <*> required "title" Decoder.text <*>
    nullable "description" Decoder.text <*> nullable "hint" Decoder.text <*>
    required "timestamp" Decoder.long <*> required "deviceName" Decoder.text

structure Messages where
  failures : List Message
  states : List Message
deriving DecidableEq

def Messages.fields : Fields Messages :=
  Messages.mk <$> defaulted "errorMessages" (Decoder.list Message.fields.decode) [] <*>
    defaulted "statusMessages" (Decoder.list Message.fields.decode) []

structure StatusPart where
  online : String
  firmware : String
deriving DecidableEq

def StatusPart.fields : Fields StatusPart :=
  StatusPart.mk <$> required "onlineStatus" Decoder.text <*>
    required "firmwareUpdateStatus" Decoder.text

structure HvacState where
  messages : Option Messages
  status : Option StatusPart
deriving DecidableEq

def HvacState.fields : Fields HvacState :=
  HvacState.mk <$> nullable "hvacMessages" Messages.fields.decode <*>
    nullable "systemStatus" StatusPart.fields.decode

def decodeHvacStates : Decoder (List HvacState) := Decoder.list HvacState.fields.decode

end HeatingHub.Wire

import HeatingHub.Calendar.Reading
import HeatingHub.Json.Fields
import HeatingHub.Schedule

/-!
# Parts of payloads

Modes, dates and weekly programs as the remote API sends them, and the envelope around each answer.
-/

namespace HeatingHub.Wire

open Json (Decoder Fields)
open Json.Fields (required nullable)

def decodeMode : Decoder OperatingMode := Decoder.name OperatingMode.ofName?

def decodeSetting : Decoder SettingMode := Decoder.name SettingMode.ofName?

def decodeDate : Decoder Calendar.Date := Decoder.parsed Calendar.Date.readLoose?

/-! ## Weekly programs -/

/-- A slot; its start is kept as the text that was sent. -/
structure Period where
  start : String
  setting : Option SettingMode
  target : Option Float
deriving DecidableEq

def Period.fields : Fields Period :=
  Period.mk <$> required "startTime" Decoder.text <*> nullable "setting" decodeSetting <*>
    nullable "temperatureSetpoint" Decoder.real

/-- Slots by the name of a weekday. Of several entries with one name the last counts. -/
abbrev Program := List (String × List Period)

def decodeProgram : Decoder Program := Decoder.dictionary (Decoder.list Period.fields.decode)

/-! ## Envelopes -/

/-- Takes the body of an answer. -/
def envelope {α : Type} (body : Decoder α) : Decoder α :=
  Fields.decode (id <$> required "body" body)

end HeatingHub.Wire

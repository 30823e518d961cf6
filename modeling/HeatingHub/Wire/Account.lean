import HeatingHub.Json.Fields

/-!
# Payloads of the account

The token of a login, and the facilities of an account.
-/

namespace HeatingHub.Wire

open Json (Decoder Fields)
open Json.Fields (required nullable defaulted)

/-- The token in a record that holds nothing else. -/
def tokenFields : Fields String := id <$> required "authToken" Decoder.text

structure Facility where
  serial : String
  name : Option String
deriving DecidableEq

def Facility.fields : Fields Facility :=
  Facility.mk <$> required "serialNumber" Decoder.text <*> nullable "name" Decoder.text

/-- The facilities in a record that holds nothing else. -/
def facilitiesFields : Fields (List Facility) :=
  id <$> defaulted "facilitiesList" (Decoder.list Facility.fields.decode) []

end HeatingHub.Wire

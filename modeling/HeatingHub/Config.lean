import HeatingHub.Number.Numeral
import HeatingHub.Number.Power
import HeatingHub.Text.Blank
import HeatingHub.Text.Quoted

/-!
# Configuration

The configuration is read from named values. Blanks around a value do not count, except in the
password, and a blank value counts as absent.
-/

namespace HeatingHub

structure Config where
  username : String
  password : String
  /-- Names this client to the API. -/
  deviceId : String
  /-- The facility to control; the first of the account if none is given. -/
  serial : Option String
  /-- Seconds between two refreshes. -/
  scanSeconds : Nat
  /-- Minutes of a quick veto for which no duration is given. -/
  vetoMinutes : Nat
  /-- Seconds until a request counts as failed. -/
  timeoutSeconds : Nat
deriving DecidableEq

namespace Config

open Number (twoTo)

def usernameKey : String := "MULTIMATIC_USERNAME"

def passwordKey : String := "MULTIMATIC_PASSWORD"

def deviceIdKey : String := "MULTIMATIC_SMARTPHONE_ID"

def serialKey : String := "MULTIMATIC_SERIAL_NUMBER"

def scanKey : String := "SCAN_INTERVAL_SECS"

def vetoKey : String := "QUICK_VETO_DURATION_MINS"

def timeoutKey : String := "HTTP_TIMEOUT_SECS"

/-! ## Errors -/

inductive Error where
  | missing (key : String)
  | notNumber (key raw : String)
  | zero (key : String)
deriving DecidableEq

def Error.message : Error → String
  | missing key => "Missing " ++ key
  | notNumber key raw => key ++ " must be a non-negative integer, got " ++ Text.quoted raw
  | zero key => key ++ " must be greater than 0"

/-! ## Values -/

/-- The value of a key without the blanks around it, unless it is blank. -/
def present? (lookup : String → Option String) (key : String) : Option String :=
  ((lookup key).map Text.trimmed).filter (!·.isEmpty)

/-- A number below `limit`, or the default if the key is absent. -/
def number (lookup : String → Option String) (key : String) (limit default : Nat) :
    Except Error Nat :=
  match present? lookup key with
  | none => .ok default
  | some raw =>
    match Number.unsigned? limit raw.toList with
    | some n => .ok n
    | none => .error (.notNumber key raw)

def positive (key : String) (n : Nat) : Except Error Nat :=
  if n = 0 then .error (.zero key) else .ok n

def required (key : String) (value : Option String) : Except Error String :=
  match value with
  | some s => .ok s
  | none => .error (.missing key)

/-- Reads the configuration; `deviceId` is used when none is given. -/
def read (lookup : String → Option String) (deviceId : String) : Except Error Config := do
  let username ← required usernameKey (present? lookup usernameKey)
  let password ← required passwordKey ((lookup passwordKey).filter (!·.isEmpty))
  let scanSeconds ← number lookup scanKey (twoTo 64) 60
  let scanSeconds ← positive scanKey scanSeconds
  let vetoMinutes ← number lookup vetoKey (twoTo 32) 180
  let vetoMinutes ← positive vetoKey vetoMinutes
  let timeoutSeconds ← number lookup timeoutKey (twoTo 64) 30
  .ok {
    username
    password
    deviceId := (present? lookup deviceIdKey).getD deviceId
    serial := present? lookup serialKey
    scanSeconds
    vetoMinutes
    timeoutSeconds }

end Config

end HeatingHub

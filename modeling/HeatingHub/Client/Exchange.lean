import HeatingHub.Json.Reading
import HeatingHub.Session
import HeatingHub.Wire.Account
import HeatingHub.Wire.Parts

/-!
# Exchanges with the API

The client sends requests one at a time, each answered before the next is sent. The answers to come
are part of its state, and so are the requests it has sent: a run is decided by a script of answers
and leaves a trace of requests.

Login takes two requests, for a token and with the token. A call that is answered 401 is sent once
more after a new login.
-/

namespace HeatingHub

open Json (Value Decoder Document)

/-! ## Requests and answers -/

inductive Method where
  | get
  | post
  | put
  | delete
deriving DecidableEq

def Method.name : Method → String
  | get => "GET"
  | post => "POST"
  | put => "PUT"
  | delete => "DELETE"

/-- A request before it has an address: a path below that of the API. -/
structure Ask where
  method : Method
  path : String
  body : Option Value

def baseUrl : String := "https://smart.vaillant.com/mobile/api/v4"

def Ask.url (a : Ask) : String := baseUrl ++ a.path

inductive Answer where
  | reply (status : Nat) (body : String)
  /-- No answer came, or it could not be read. -/
  | failure (text : String)
deriving DecidableEq

/-- What is said about a body that is not as expected, given the path of the request that it
answers. The words are those of whoever reads the bodies, and nothing is decided by them. -/
class Wording where
  complaint (asked body : String) : String

/-- The reader here knows the part at fault and no more. -/
instance : Wording := ⟨fun _ _ => "not as expected"⟩

/-- The answers to come; after those listed, `rest` is the answer to everything. What is wrong with
a body is said in the wording of the script. -/
structure Script where
  answers : List Answer
  rest : Answer
  [wording : Wording]

def Script.next (s : Script) : Answer × Script :=
  match s.answers with
  | [] => (s.rest, s)
  | a :: answers => (a, { s with answers })

/-! ## The client -/

structure Credentials where
  username : String
  password : String
  /-- Names this client to the API. -/
  deviceId : String
deriving DecidableEq

structure Client where
  credentials : Credentials
  loggedIn : Bool
  /-- The facility to control, once it is known. -/
  serial : Option String
  script : Script
  /-- The requests sent, oldest first. -/
  sent : List Ask

/-- A client that has sent nothing. -/
def Client.new (credentials : Credentials) (serial : Option String) (script : Script) : Client :=
  ⟨credentials, false, serial, script, []⟩

/-- Something done with the client; what was done stays done when it fails. -/
abbrev Exchange := ExceptT ApiError (StateM Client)

namespace Exchange

/-- Sends a request and takes the next answer. -/
def send (a : Ask) : Exchange (Nat × String) := fun c =>
  let (answer, script) := c.script.next
  let c := { c with script, sent := c.sent ++ [a] }
  match answer with
  | .reply status body => (.ok (status, body), c)
  | .failure text => (.error (.transport text), c)

def isSuccess (status : Nat) : Bool := decide (200 ≤ status ∧ status < 300)

def unauthorized : Nat := 401

/-- The body of an answer of success. -/
def check (answer : Nat × String) : Exchange String :=
  if isSuccess answer.1 then pure answer.2
  else throw (.http answer.1 (if answer.2.isEmpty then "<no body>" else answer.2))

/-- What the body of the answer to a request for a path decodes to; an error names the part at
fault. -/
def readBody {α : Type} (wording : Wording) (asked : String) (decoder : Decoder α) (body : String) :
    Except ApiError α :=
  (decoder (Document.read body)).mapError fun part => .json ⟨part, wording.complaint asked body⟩

def decode {α : Type} (asked : String) (decoder : Decoder α) (body : String) : Exchange α :=
  fun c => (readBody c.script.wording asked decoder body, c)

/-! ## Login -/

def tokenPath : String := "/account/authentication/v1/token/new"

def authenticatePath : String := "/account/authentication/v1/authenticate"

def logoutPath : String := "/account/authentication/v1/logout"

def facilitiesPath : String := "/facilities"

def tokenAsk (c : Credentials) : Ask :=
  ⟨.post, tokenPath, some (.object [("password", .text c.password),
    ("smartphoneId", .text c.deviceId), ("username", .text c.username)])⟩

def authenticateAsk (c : Credentials) (token : String) : Ask :=
  ⟨.post, authenticatePath, some (.object [("authToken", .text token),
    ("smartphoneId", .text c.deviceId), ("username", .text c.username)])⟩

/-- The body of an answer of success, in a login. -/
def checkLogin (answer : Nat × String) : Exchange String :=
  if isSuccess answer.1 then pure answer.2
  else throw (.auth ("http " ++ toString answer.1 ++ ": " ++ answer.2))

def setLoggedIn (loggedIn : Bool) : Exchange Unit := modify fun c => { c with loggedIn }

/-- Asks for a token and authenticates with it. -/
def login : Exchange Unit := do
  let credentials := (← get).credentials
  let text ← checkLogin (← send (tokenAsk credentials))
  let token ← decode tokenPath (Wire.envelope Wire.tokenFields.decode) text
  let _ ← checkLogin (← send (authenticateAsk credentials token))
  setLoggedIn true

/-! ## Calls -/

/-- Sends a request of a client that is logged in, and once more if the login has expired. -/
def call (a : Ask) : Exchange String := do
  if !(← get).loggedIn then login
  let answer ← send a
  if answer.1 = unauthorized then
    setLoggedIn false
    login
    check (← send a)
  else check answer

/-- The facility to control: the one given, else the first of the account. -/
def serial : Exchange String := do
  match (← get).serial with
  | some serial => return serial
  | none =>
    let text ← call ⟨.get, facilitiesPath, none⟩
    match ← decode facilitiesPath (Wire.envelope Wire.facilitiesFields.decode) text with
    | [] => throw (.payload "account has no facility")
    | facility :: _ =>
      modify fun c => { c with serial := some facility.serial }
      return facility.serial

/-- Sends a request to the facility. -/
def facilityCall (method : Method) (path : String) (body : Option Value) : Exchange String := do
  let serial ← serial
  call ⟨method, facilitiesPath ++ "/" ++ serial ++ path, body⟩

/-- Reads a part of the facility. -/
def read {α : Type} (path : String) (decoder : Decoder α) : Exchange α := do
  let text ← facilityCall .get path none
  decode path (Wire.envelope decoder) text

/-- Ends the login. Whatever the answer is, the client is logged in no more. -/
def logout : Exchange Unit := do
  let answer ← send ⟨.post, logoutPath, none⟩
  setLoggedIn false
  let _ ← check answer

end Exchange

end HeatingHub

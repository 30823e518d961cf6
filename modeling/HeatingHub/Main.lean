import HeatingHub.CommandLine
import Std.Time

/-!
# The command line

The outer layer of the program: it gathers the invocation, passes requests on to the API and prints
what the run tells. Requests leave through a relay that speaks HTTPS: each is written as a line of
JSON to one named pipe, and the answer is read as a line from another.
-/

namespace HeatingHub.Main

open Calendar (ClockTime Date Moment)
open Json (Document Value)

/-! ## Time -/

/-- The local time, or the first moment of the calendar if the clock is beyond it. -/
def localNow : IO Moment := do
  let now ← Std.Time.PlainDateTime.now
  let date := Date.ofCivil? ⟨now.date.year.toInt, now.date.month.toNat, now.date.day.toNat⟩
  let time := ClockTime.ofParts? now.time.hour.toNat now.time.minute.toNat now.time.second.toNat
    now.time.nanosecond.toNat
  return ⟨date.getD ⟨0⟩, time.getD .midnight⟩

/-- The universal time, to the second. -/
def universalNow : IO String := do
  let now ← Std.Time.Timestamp.now
  let moment := Moment.ofEpochMillis? (1000 * now.toSecondsSinceUnixEpoch.toInt)
  return (moment.map (·.universalText)).getD "-"

/-! ## The relay -/

/-- A request as a line of JSON. -/
def askLine (a : Ask) : String :=
  (Value.object [("method", .text a.method.name), ("url", .text a.url),
    ("body", a.body.getD .null)]).render

/-- Reads an answer: its status and body, or the text of a failure. -/
def readAnswer (line : String) : Answer :=
  match (Document.read line).value? with
  | none => .failure "the relay sent no JSON"
  | some v =>
    match v.member? "status", v.member? "body", v.member? "error" with
    | some (.number (.int status)), some (.text body), _ => .reply status.toNat body
    | _, _, some (.text text) => .failure text
    | _, _, _ => .failure "the relay sent no answer"

/-- Passes a request on and waits for its answer. -/
def relay (a : Ask) : IO Answer := do
  match ← IO.getEnv "MULTIMATIC_RELAY_REQUESTS", ← IO.getEnv "MULTIMATIC_RELAY_ANSWERS" with
  | some requests, some answers =>
    try
      let out ← IO.FS.Handle.mk requests .append
      out.putStrLn (askLine a)
      out.flush
      let line ← (← IO.FS.Handle.mk answers .read).getLine
      return readAnswer line
    catch e => return .failure (toString e)
  | _, _ => return .failure "no relay"

/-- Runs with more and more answers until none is missing. A run depends on its answers alone, so
each run begins as the one before it did. -/
partial def settle {α : Type} (run : Script → α) (requests : α → List Ask)
    (answers : List Answer) : IO α := do
  let result := run ⟨answers, .failure "no answer"⟩
  match (requests result)[answers.length]? with
  | none => return result
  | some a => settle run requests (answers ++ [← relay a])

/-! ## Running -/

/-- The values of the configuration that are set. -/
def environment : IO Environment := do
  let keys := [Config.usernameKey, Config.passwordKey, Config.deviceIdKey, Config.serialKey,
    Config.scanKey, Config.vetoKey, Config.timeoutKey]
  let values ← keys.mapM fun key => do return (key, ← IO.getEnv key)
  return values.filterMap fun v => v.2.map (v.1, ·)

/-- What is done, or what the system says when it refuses to. -/
def attempt {α : Type} (action : IO α) : IO (Except String α) := do
  try return .ok (← action)
  catch e => return .error (toString e)

/-- There is a file with the path, whether or not it can be read. -/
def isFile (path : String) : IO Bool := do
  match ← attempt (System.mkFilePath [path]).metadata with
  | .ok found => return found.type == .file
  | .error _ => return false

/-- A name for this client, different on each run. -/
def freshDeviceId : IO String := do
  let n ← IO.rand 0 (Number.twoTo 64 - 1)
  let digits := Nat.toDigits 16 n
  return "multimatic-hub-" ++ String.ofList (List.replicate (16 - digits.length) '0' ++ digits)

/-- The invocation; of the files only the environment file is read. -/
def invocation (arguments : List String) : IO Invocation := do
  let directory ← attempt do return toString (← IO.currentDir)
  let named := match Options.read arguments with
    | .ok o => o.envFile
    | .error _ => none
  let path := named.getD (Invocation.defaultFile (directory.toOption.getD ""))
  let isFile ← isFile path
  let content ← if isFile then attempt (IO.FS.readFile path) else pure (.ok "")
  let refusal := match named, directory, content with
    | none, .error said, _ | _, _, .error said => said
    | _, _, .ok _ => ""
  return {
    arguments
    environment := ← environment
    directory := directory.toOption
    file? := fun p => if p = path && isFile then content.toOption else none
    isFile := fun p => p = path && isFile
    refusal
    deviceId := ← freshDeviceId
    now := ← localNow }

def tell (d : Diagnostic) : IO Unit := do
  let time ← universalNow
  IO.eprint (d.line fun source => "[" ++ time ++ " ERROR " ++ source ++ "] ")

/-- Polls for ever, once in so many seconds. -/
partial def poll (site : Site Client) (seconds : Nat) : IO Unit := do
  let started ← IO.monoMsNow
  let run (script : Script) :=
    { site with log := [], remote := { site.remote with script, sent := [] } }.tick clientSession
      started
  let (line, site) ← settle run (·.2.remote.sent) []
  site.diagnostics.forM tell
  line.forM IO.eprintln
  let passed := (← IO.monoMsNow) - started
  IO.sleep (min (1000 * seconds - passed) 4000000000).toUInt32
  poll site seconds

end HeatingHub.Main

open HeatingHub HeatingHub.Main in
/-- Runs the program with the given arguments. -/
def main (arguments : List String) : IO UInt32 := do
  let i ← invocation arguments
  let outcome ← settle i.run (·.requests) []
  outcome.diagnostics.forM tell
  IO.print outcome.output
  match outcome.polling with
  | some (site, seconds) =>
    let now ← IO.monoMsNow
    let throttle := { site.hub.throttle with last := some now }
    poll { site with hub := { site.hub with throttle } } seconds
  | none => pure ()
  return (outcome.status.getD 0).toUInt32

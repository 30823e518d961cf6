import HeatingHub.Client.Remote
import HeatingHub.Command
import HeatingHub.Config
import HeatingHub.Environment
import HeatingHub.Text.Terminal

/-!
# The program

A run reads its arguments, loads the environment file, logs in, fetches the installation, executes
the command given and logs out; without a command it goes on polling. What it does is decided by its
invocation and by the answers of the API.
-/

namespace HeatingHub

open Calendar (Moment)

/-! ## Arguments -/

/-- An argument of the program. One that is not Unicode is given as it is shown. -/
inductive Word where
  | unicode (text : String)
  | other (shown : String)

instance : Coe (List String) (List Word) := ⟨List.map .unicode⟩

namespace Word

def shown : Word → String
  | unicode text => text
  | other shown => shown

def text? : Word → Option String
  | unicode text => some text
  | other _ => none

end Word

structure Options where
  envFile : Option String
  words : List String
deriving DecidableEq

namespace Options

inductive Error where
  | notUnicode
  | repeatedEnvFile
  | noPath
  | help
  | unknownOption (option : String)
deriving DecidableEq

def Error.message : Error → String
  | notUnicode => "argument contains invalid UTF-8"
  | repeatedEnvFile => "`--env-file` provided more than once"
  | noPath => "`--env-file` requires a path argument"
  | help => "usage: multimatic-hub [--env-file PATH] [COMMAND ARGS...]\n" ++ usage
  | unknownOption option => "unrecognised option: " ++ option

/-- An argument by its form. -/
inductive Form where
  | envFile
  | envFileIs (path : String)
  | help
  | rest
  | option
  | word

/-- Takes a text from the head of another. -/
def dropText? (head s : String) : Option String :=
  (head.toList.isPrefixOf? s.toList).map String.ofList

def Form.of (argument : String) : Form :=
  if argument = "--env-file" then .envFile
  else match dropText? "--env-file=" argument with
    | some path => .envFileIs path
    | none =>
      if argument = "-h" ∨ argument = "--help" then .help
      else if argument = "--" then .rest
      else if (dropText? "--" argument).isSome then .option
      else .word

def setEnvFile (o : Options) (path : String) : Except Error Options :=
  match o.envFile with
  | some _ => .error .repeatedEnvFile
  | none => .ok { o with envFile := some path }

def addWord (o : Options) (word : String) : Options := { o with words := o.words ++ [word] }

/-- Reads arguments in order. Behind `--` all of them are words of the command. None of them but the
path of a file may be other than Unicode. -/
def readFrom (o : Options) : List Word → Except Error Options
  | [] => .ok o
  | .other _ :: _ => .error .notUnicode
  | .unicode argument :: rest =>
    match Form.of argument with
    | .envFile =>
      match rest with
      | [] => .error .noPath
      | path :: rest =>
        match o.setEnvFile path.shown with
        | .ok o => readFrom o rest
        | .error e => .error e
    | .envFileIs path =>
      if path.isEmpty then .error .noPath
      else match o.setEnvFile path with
        | .ok o => readFrom o rest
        | .error e => .error e
    | .help => .error .help
    | .rest =>
      match rest.mapM Word.text? with
      | some words => .ok { o with words := o.words ++ words }
      | none => .error .notUnicode
    | .option => .error (.unknownOption argument)
    | .word => readFrom (o.addWord argument) rest

def read (arguments : List Word) : Except Error Options := readFrom ⟨none, []⟩ arguments

end Options

/-! ## Invocations -/

/-- What a run depends on, apart from the answers of the API. Paths are given as they are shown. -/
structure Invocation where
  arguments : List Word
  environment : Environment
  /-- The names of further variables, whose values are not Unicode. -/
  foreign : List String := []
  /-- The present directory, if the system tells it. -/
  directory : Option String
  /-- The content of a file that can be read, given its path. -/
  file? : String → Option String
  /-- There is a file with the path, whether or not it can be read. -/
  isFile : String → Bool := fun path => (file? path).isSome
  /-- What the system says when it does not tell the directory or read the file. -/
  refusal : String := EnvFile.noSuchFile
  /-- Names this client to the API unless the configuration does. -/
  deviceId : String
  now : Moment

/-- Why a run fails before it begins. -/
inductive StartError where
  | options (error : Options.Error)
  | command (error : CommandError)
  | noDirectory (refusal : String)
  | noEnvFile (path : String)
  | envFile (error : EnvFile.Error)
  /-- A name or value of the environment file cannot be set, and the program is aborted. -/
  | aborted
deriving DecidableEq

namespace StartError

/-- What is told about it; the words about a program that is aborted are not its own. -/
def message? : StartError → Option String
  | options error => some error.message
  | command error => some error.message
  | noDirectory refusal => some ("unable to read current directory: " ++ refusal)
  | noEnvFile path => some ("env file not found: " ++ path)
  | envFile error => some error.message
  | aborted => none

/-- The exit status; that of a program that is aborted tells the signal. -/
def status : StartError → Nat
  | aborted => 134
  | _ => 1

end StartError

namespace Invocation

/-- The file in the directory that is loaded when none is named. -/
def defaultFile (directory : String) : String :=
  directory ++ if directory.toList.getLast? = some '/' then ".env" else "/.env"

/-- The environment with what the file at the path adds. A variable that is not Unicode is set, and
cannot be read. -/
def loadFile (i : Invocation) (path : String) : Except StartError Environment :=
  let present := i.environment ++ i.foreign.map fun name => (name, "")
  let (loaded, environment) := EnvFile.load path (i.file? path) present i.refusal
  if Environment.hasNul (environment.drop present.length) then .error .aborted
  else match loaded with
    | .ok () => .ok (environment.filter fun v => !i.foreign.contains v.1)
    | .error e => .error (.envFile e)

/-- Where the environment file is looked for: where the arguments say, else in the directory. -/
def envPath? (i : Invocation) (envFile : Option String) : Option String :=
  envFile.or (i.directory.map defaultFile)

/-- Loads the environment file: the one named, which must be there, else `.env` if there is one. -/
def loadEnvironment (i : Invocation) (envFile : Option String) : Except StartError Environment :=
  match i.envPath? envFile with
  | none => .error (.noDirectory i.refusal)
  | some path =>
    if i.isFile path then i.loadFile path
    else if envFile.isSome then .error (.noEnvFile path)
    else .ok i.environment

/-- The command, and the environment in which it is executed. -/
def start (i : Invocation) : Except StartError (Option Command × Environment) :=
  match Options.read i.arguments with
  | .error e => .error (.options e)
  | .ok o =>
    match Command.parse o.words with
    | .error e => .error (.command e)
    | .ok command => (i.loadEnvironment o.envFile).map fun environment => (command, environment)

end Invocation

/-! ## Runs -/

/-- A line, or several, that a run tells about a failure. -/
inductive Diagnostic where
  | fatal (text : String)
  /-- A line of the log, of the part of the program with the given name. -/
  | log (source text : String)
deriving DecidableEq

/-- Further lines of a log text stand back. -/
def Diagnostic.indent (text : String) : String :=
  String.ofList (text.toList.flatMap fun c => if c = '\n' then ['\n', ' ', ' ', ' ', ' '] else [c])

/-- The line, with its line feed. Of a log line, which begins with the stamp of its source, no more
is kept than a terminal shows. -/
def Diagnostic.line (stamp : String → String) : Diagnostic → String
  | fatal text => "fatal: " ++ text ++ "\n"
  | log source text => Text.visible (stamp source ++ indent text ++ "\n")

/-- What a run leaves behind. -/
structure Outcome where
  /-- The exit status; none if the run goes on polling. -/
  status : Option Nat
  output : String
  diagnostics : List Diagnostic
  requests : List Ask
  /-- The hub that goes on polling, and the seconds between its rounds. -/
  polling : Option (Site Client × Nat)

def programLog : String → Diagnostic := .log "multimatic_hub"

def hubLog : String → Diagnostic := .log "multimatic_hub::hub"

/-- The failures that the hub has met with. -/
def Site.diagnostics {σ : Type} (site : Site σ) : List Diagnostic :=
  (site.log.filterMap Event.failure?).map hubLog

/-- A run that failed. -/
def Outcome.failed (diagnostics : List Diagnostic) (client : Client) : Outcome :=
  ⟨some 1, "", diagnostics, client.sent, none⟩

namespace Config

def credentials (c : Config) : Credentials := ⟨c.username, c.password, c.deviceId⟩

/-- A hub with this configuration; its throttle counts in milliseconds. -/
def hub (c : Config) : Hub := .new (1000 * c.scanSeconds) c.vetoMinutes

end Config

/-- Executes the command on a hub that has fetched the installation, and logs out. -/
def runCommand (now : Moment) (command : Command) (site : Site Client) : Outcome :=
  let (answer, site) := site.execute clientSession now command
  let (_, site) := site.logout clientSession
  match answer with
  | .ok text => ⟨some 0, text ++ "\n", site.diagnostics, site.remote.sent, none⟩
  | .error e =>
    .failed (site.diagnostics ++ [programLog ("fatal: " ++ command.label ++ " failed: " ++ e.message)])
      site.remote

/-- Runs with a configuration, from login on. -/
def runConfigured (now : Moment) (command : Option Command) (config : Config) (script : Script) :
    Outcome :=
  match Exchange.login.run (Client.new config.credentials config.serial script) with
  | (.error e, client) =>
    .failed [programLog ("fatal: multiMATIC login failed (credentials wrong?): " ++ e.message)]
      client
  | (.ok (), client) =>
    match (Site.new config.hub client).update clientSession 0 with
    | (false, site) =>
      let (_, site) := site.logout clientSession
      .failed (site.diagnostics ++ [programLog "fatal: Initial system fetch failed"]) site.remote
    | (true, site) =>
      match command with
      | some command => runCommand now command site
      | none => ⟨none, "", site.diagnostics, site.remote.sent, some (site, config.scanSeconds)⟩

/-- Runs the program. -/
def Invocation.run (i : Invocation) (script : Script) : Outcome :=
  match i.start with
  | .error e => ⟨some e.status, "", (e.message?.map .fatal).toList, [], none⟩
  | .ok (command, environment) =>
    match Config.read environment.get? i.deviceId with
    | .error e => ⟨some 1, "", [programLog ("fatal: " ++ e.message)], [], none⟩
    | .ok config => runConfigured i.now command config script

end HeatingHub

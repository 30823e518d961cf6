import HeatingHub.CommandLine
import HeatingHub.Proofs.Hub.Lockstep

/-!
# The logout of a run

A run that ends and has logged in logs out: once, after all else, and whatever it came to before.
Nothing is left to be decided then, so that the answer to the logout is seen neither in the output
nor in the exit status.
-/

namespace HeatingHub

open Calendar (Moment)
open Exchange

/-! ## Answers up to a request -/

/-- The second client differs from the first in its script alone, and gets the same answers to the
requests before the `n`-th. No logout was sent yet. -/
structure SameUpTo (n : Nat) (c d : Client) : Prop where
  script : ∃ script : Script, d = { c with script } ∧ script.wording = c.script.wording ∧
    ∀ m, c.sent.length + m < n → script.answer m = c.script.answer m
  stays : ∀ a ∈ c.sent, a.path ≠ logoutPath

/-- The client has sent more requests than the answers are known to be the same for. -/
def Client.Beyond (n : Nat) (c : Client) : Prop := n < c.sent.length

section

variable {n : Nat} {c d : Client} {a : Ask}

theorem lockstep_send_of_stays (stays : a.path ≠ logoutPath) :
    Lockstep (SameUpTo n) (Client.Beyond n) (send a) where
  together {c d} same := by
    obtain ⟨⟨script, rfl, wording, agree⟩, before⟩ := same
    rw [send_apply, send_apply]
    by_cases known : c.sent.length < n
    · have answer : script.next.1 = c.script.next.1 := by
        rw [script.next_eq, c.script.next_eq]
        exact agree 0 known
      refine .inr ⟨congrArg Answer.received answer, ⟨script.next.2, rfl, ?_, fun m later => ?_⟩, ?_⟩
      · exact script.wording_next.trans (wording.trans c.script.wording_next.symm)
      · have sent : (c.asked a).sent.length = c.sent.length + 1 := List.length_append
        replace later : (c.asked a).sent.length + m < n := later
        show script.next.2.answer m = c.script.next.2.answer m
        rw [script.next_eq, c.script.next_eq, Script.answer_drop, Script.answer_drop]
        exact agree (1 + m) (by omega)
      · show ∀ b ∈ c.sent ++ [a], b.path ≠ logoutPath
        rw [List.forall_mem_append, List.forall_mem_singleton]
        exact ⟨before, stays⟩
    · left
      show n < (c.sent ++ [a]).length
      rw [List.length_append, List.length_singleton]
      omega
  lost {c} gone := by
    rw [send_apply]
    show n < (c.sent ++ [a]).length
    rw [List.length_append]
    exact Nat.lt_add_right _ gone

theorem twins_sameUpTo (n : Nat) : Twins (SameUpTo n) (Client.Beyond n) where
  wording same := by
    obtain ⟨⟨_, rfl, wording, -⟩, -⟩ := same
    exact wording
  loggedIn same := by
    obtain ⟨⟨_, rfl, -⟩, -⟩ := same
    rfl
  serial same := by
    obtain ⟨⟨_, rfl, -⟩, -⟩ := same
    rfl
  setLoggedIn loggedIn := by
    refine ⟨fun same => .inr ⟨rfl, ?_⟩, fun gone => gone⟩
    obtain ⟨⟨script, rfl, agree⟩, stays⟩ := same
    exact ⟨⟨script, rfl, agree⟩, stays⟩
  setSerial serial := by
    refine ⟨fun same => .inr ⟨rfl, ?_⟩, fun gone => gone⟩
    obtain ⟨⟨script, rfl, agree⟩, stays⟩ := same
    exact ⟨⟨script, rfl, agree⟩, stays⟩
  token := by
    refine .depending (f := fun c => send (tokenAsk c)) ?_ fun _ => lockstep_send_of_stays ?_
    · rintro c _ ⟨⟨_, rfl, -⟩, -⟩
      rfl
    · show tokenPath ≠ logoutPath
      decide
  access token := by
    refine .depending (f := fun c => send (authenticateAsk c token)) ?_ fun _ =>
      lockstep_send_of_stays ?_
    · rintro c _ ⟨⟨_, rfl, -⟩, -⟩
      rfl
    · show authenticatePath ≠ logoutPath
      decide
  facilities := lockstep_send_of_stays (show facilitiesPath ≠ logoutPath by decide)
  facility a facility := lockstep_send_of_stays fun path =>
    Ask.isToFacility_toFacility.not_ofAccount (.inr (.inr path))

end

/-! ## Runs by steps -/

/-- What a run has come to when it would log out. -/
inductive Ending where
  /-- The installation was not fetched. -/
  | unfetched
  | answered (command : Command) (answer : Except HubError String)
  /-- The run goes on, and does not log out. -/
  | polling

/-- What a run does once the installation was fetched, or was not. -/
def Site.serving (now : Moment) (command : Option Command) :
    Bool → Site Client → Ending × Site Client
  | true, site =>
    match command with
    | some command => (.answered command (site.execute clientSession now command).1,
        (site.execute clientSession now command).2)
    | none => (.polling, site)
  | false, site => (.unfetched, site)

/-- All that a run does between login and logout. -/
def Site.serve (now : Moment) (command : Option Command) (site : Site Client) :
    Ending × Site Client :=
  serving now command (site.update clientSession 0).1 (site.update clientSession 0).2

namespace Ending

/-- The line in which a run that failed tells why. -/
def complaint : Ending → Option Diagnostic
  | unfetched => some (programLog "fatal: Initial system fetch failed")
  | answered command (.error e) =>
    some (programLog ("fatal: " ++ command.label ++ " failed: " ++ e.message))
  | _ => none

def status : Ending → Option Nat
  | polling => none
  | answered _ (.ok _) => some 0
  | _ => some 1

def output : Ending → String
  | answered _ (.ok text) => text ++ "\n"
  | _ => ""

/-- The outcome of a run that logs out now. -/
def logsOut (e : Ending) (site : Site Client) : Outcome :=
  let site := (site.logout clientSession).2
  ⟨e.status, e.output, site.diagnostics ++ e.complaint.toList, site.remote.sent, none⟩

/-- The outcome of a run, by what it came to before its logout. -/
def outcome (config : Config) (e : Ending) (site : Site Client) : Outcome :=
  match e with
  | polling => ⟨none, "", site.diagnostics, site.remote.sent, some (site, config.scanSeconds)⟩
  | e => e.logsOut site

end Ending

theorem runConfigured_eq (now : Moment) (command : Option Command) (config : Config)
    (script : Script) : runConfigured now command config script =
      match login (.new config.credentials config.serial script) with
      | (.error e, client) =>
        .failed [programLog ("fatal: multiMATIC login failed (credentials wrong?): " ++ e.message)]
          client
      | (.ok _, client) =>
        let (e, site) := (Site.new config.hub client).serve now command
        e.outcome config site := by
  unfold runConfigured
  rw [ExceptT.run]
  rcases login (.new config.credentials config.serial script) with ⟨e | _, client⟩
  · rfl
  · simp only [Site.serve]
    rcases (Site.new config.hub client).update clientSession 0 with ⟨_ | _, site⟩
    · rfl
    · cases command with
      | none => rfl
      | some command =>
        simp only [runCommand, Site.serving]
        rcases site.execute clientSession now command with ⟨e | text, site⟩
        · rfl
        · simp [Ending.outcome, Ending.logsOut, Ending.complaint, Ending.status, Ending.output]

theorem lockstep_serve {R : Client → Client → Prop} {lost : Client → Prop} (twins : Twins R lost)
    (now : Moment) (command : Option Command) : Site.Lockstep R lost (Site.serve now command) := by
  refine (Site.lockstep_update twins.inLockstep 0).andThen (g := Site.serving now command) ?_
  intro fetched
  cases fetched with
  | false => exact .result Ending.unfetched
  | true =>
    cases command with
    | none => exact .result Ending.polling
    | some command =>
      refine (Site.lockstep_execute twins.inLockstep now command).andThen
        (g := fun answer site => (Ending.answered command answer, site)) fun answer => ?_
      exact .result (Ending.answered command answer)

/-- With a command a run does not go on. -/
theorem serve_ne_polling {command : Option Command} (given : command.isSome) (now : Moment)
    (site : Site Client) : (site.serve now command).1 ≠ .polling := by
  obtain ⟨command, rfl⟩ := Option.isSome_iff_exists.mp given
  unfold Site.serve
  cases (site.update clientSession 0).1 <;> exact nofun

theorem sent_logout (site : Site Client) :
    (site.logout clientSession).2.remote.sent = site.remote.sent ++ [logoutAsk] := by
  have sent : (logout site.remote).2.sent = site.remote.sent ++ [logoutAsk] := by
    rcases logout_cases site.remote with ⟨-, done⟩ | done <;> rw [done] <;> rfl
  have done : clientSession.logout site.remote = ((logout site.remote).1, (logout site.remote).2) :=
    rfl
  rw [Site.logout_snd done]
  exact sent

/-! ## The logout -/

section

variable {n : Nat} {credentials : Credentials} {serial : Option String} {script other : Script}
  {client : Client} {outcome : Except ApiError Unit}

theorem sameUpTo_new (wording : other.wording = script.wording)
    (agree : ∀ m < n, other.answer m = script.answer m) :
    SameUpTo n (.new credentials serial script) (.new credentials serial other) where
  script := by
    refine ⟨other, rfl, wording, fun m before => agree m ?_⟩
    rwa [show (Client.new credentials serial script).sent.length = 0 from rfl, Nat.zero_add] at before
  stays := nofun

/-- A login decided by the same answers is the same. -/
theorem login_alike (wording : other.wording = script.wording)
    (agree : ∀ m < n, other.answer m = script.answer m)
    (done : login (.new credentials serial script) = (outcome, client))
    (within : ¬ client.Beyond n) :
    ∃ d, login (.new credentials serial other) = (outcome, d) ∧ SameUpTo n client d := by
  have begun : SameUpTo n (.new credentials serial script) (.new credentials serial other) :=
    sameUpTo_new wording agree
  have started := (twins_sameUpTo n).login.together begun
  rw [done] at started
  obtain ⟨same, next⟩ := started.resolve_left within
  exact ⟨(login (.new credentials serial other)).2, Prod.ext same rfl, next⟩

/-- What is done after a login, decided by the same answers, is the same. -/
theorem serve_alike {now : Moment} {command : Option Command} {hub : Hub} {d : Client}
    {e : Ending} {site : Site Client} (same : SameUpTo n client d)
    (served : (Site.new hub client).serve now command = (e, site))
    (within : ¬ site.remote.Beyond n) :
    ∃ next, (Site.new hub d).serve now command = (e, next) ∧
      SameUpTo n site.remote next.remote := by
  have beside : Site.Alongside (SameUpTo n) (Site.new hub client) (.new hub d) := ⟨rfl, rfl, same⟩
  have steps := (lockstep_serve (twins_sameUpTo n) now command).together beside
  rw [served] at steps
  obtain ⟨same, next⟩ := steps.resolve_left within
  exact ⟨((Site.new hub d).serve now command).2, Prod.ext same rfl, next.remote⟩

theorem beyond_of_serve (gone : client.Beyond n) (now : Moment) (command : Option Command)
    (hub : Hub) : ((Site.new hub client).serve now command).2.remote.Beyond n :=
  (lockstep_serve (twins_sameUpTo n) now command).lost gone

end

/-- The run sends one request for a logout, after all others, and what it prints and its exit
status are the same whatever is answered to it. -/
structure LogsOutLast (run : Script → Outcome) (script : Script) : Prop where
  last : ∃ before, (run script).requests = before ++ [logoutAsk] ∧
    ∀ a ∈ before, a.path ≠ logoutPath
  unheeded : ∀ other : Script, other.wording = script.wording →
    (∀ n, n + 1 ≠ (run script).requests.length → other.answer n = script.answer n) →
      (run other).output = (run script).output ∧ (run other).status = (run script).status

section

variable {now : Moment} {command : Option Command} {config : Config} {script : Script}
  {client : Client}

theorem Ending.outcome_of_ne_polling {e : Ending} (h : e ≠ .polling) (site : Site Client) :
    e.outcome config site = e.logsOut site := by
  cases e with
  | polling => exact absurd rfl h
  | unfetched | answered => rfl

theorem logsOutLast_of_login
    (done : login (.new config.credentials config.serial script) = (.ok (), client))
    (ends : command.isSome ∨ (runConfigured now command config script).polling = none) :
    LogsOutLast (runConfigured now command config) script := by
  rcases served : (Site.new config.hub client).serve now command with ⟨e, site⟩
  have ran : runConfigured now command config script = e.outcome config site := by
    rw [runConfigured_eq, done]
    simp only [served]
  have ended : e ≠ .polling := by
    rcases ends with given | stopped
    · have answered := serve_ne_polling given now (.new config.hub client)
      rwa [served] at answered
    · rintro rfl
      rw [ran] at stopped
      cases stopped
  rw [Ending.outcome_of_ne_polling ended] at ran
  have requests : (runConfigured now command config script).requests =
      site.remote.sent ++ [logoutAsk] := by
    rw [ran]
    exact sent_logout site
  -- The answers before the logout decide the run: no request is sent beyond those.
  have within : ¬ site.remote.Beyond site.remote.sent.length := Nat.lt_irrefl _
  have begun : ¬ client.Beyond site.remote.sent.length := by
    intro gone
    have after := beyond_of_serve gone now command config.hub
    rw [served] at after
    exact within after
  have alike (other : Script) (wording : other.wording = script.wording)
      (agree : ∀ m < site.remote.sent.length, other.answer m = script.answer m) :
      ∃ next, runConfigured now command config other = e.logsOut next ∧
        SameUpTo site.remote.sent.length site.remote next.remote := by
    obtain ⟨d, loggedIn, same⟩ := login_alike wording agree done begun
    obtain ⟨next, servedSame, still⟩ := serve_alike same served within
    refine ⟨next, ?_, still⟩
    rw [runConfigured_eq, loggedIn]
    simp only [servedSame]
    exact Ending.outcome_of_ne_polling ended next
  constructor
  · obtain ⟨_, -, same⟩ := alike script rfl fun _ _ => rfl
    exact ⟨site.remote.sent, requests, same.stays⟩
  · intro other wording agree
    rw [requests, List.length_append, List.length_singleton] at agree
    obtain ⟨next, other, -⟩ := alike other wording fun m before => agree m (by omega)
    rw [other, ran]
    exact ⟨rfl, rfl⟩

end

/-! ## Runs that do not begin -/

section

variable {i : Invocation} {path : String}

theorem run_of_start_error {e : StartError} (h : i.start = .error e) (script : Script) :
    i.run script = ⟨some e.status, "", (e.message?.map .fatal).toList, [], none⟩ := by
  unfold Invocation.run
  rw [h]

theorem loadFile_of_unreadable (unread : i.file? path = none) :
    i.loadFile path = .error (.envFile (.unreadable path i.refusal)) := by
  unfold Invocation.loadFile
  rw [unread]
  simp only [EnvFile.load, List.drop_length]
  rfl

/-- An environment file that is there must be readable, be it named or not. -/
theorem start_of_unreadable {o : Options} {command : Option Command}
    (options : Options.read i.arguments = .ok o) (parsed : Command.parse o.words = .ok command)
    (place : i.envPath? o.envFile = some path) (there : i.isFile path = true)
    (unread : i.file? path = none) :
    i.start = .error (.envFile (.unreadable path i.refusal)) := by
  unfold Invocation.start Invocation.loadEnvironment
  simp only [options, parsed, place]
  rw [if_pos there, loadFile_of_unreadable unread]
  rfl

end

/-! ## The end of a run -/

/-- A run that is rejected for its arguments, command, environment file or configuration sends
nothing, and one whose login fails does not log out. One that has logged in, and does not go on
polling, logs out once and at the very end, and the answer to that decides nothing. -/
theorem run_logs_out_last (i : Invocation) (script : Script) :
    match i.start with
    | .error _ => (i.run script).requests = []
    | .ok (command, environment) =>
      match Config.read environment.get? i.deviceId with
      | .error _ => (i.run script).requests = []
      | .ok config =>
        match login (.new config.credentials config.serial script) with
        | (.error _, _) => ∀ a ∈ (i.run script).requests, a.path ≠ logoutPath
        | (.ok _, _) =>
          command.isSome ∨ (i.run script).polling = none → LogsOutLast i.run script := by
  rcases started : i.start with e | ⟨command, environment⟩
  · exact congrArg Outcome.requests (run_of_start_error started script)
  · dsimp only
    rcases read : Config.read environment.get? i.deviceId with e | config
    · have ran : i.run script = ⟨some 1, "", [programLog ("fatal: " ++ e.message)], [], none⟩ := by
        unfold Invocation.run
        rw [started]
        simp only [read]
      exact congrArg Outcome.requests ran
    · have ran : i.run = runConfigured i.now command config := by
        funext script
        unfold Invocation.run
        rw [started]
        simp only [read]
      rw [ran]
      dsimp only
      rcases done : login (.new config.credentials config.serial script) with ⟨e | _, client⟩
      · obtain ⟨_, -, same⟩ := login_alike rfl (fun _ _ => rfl) done (Nat.lt_irrefl client.sent.length)
        have requests : (runConfigured i.now command config script).requests = client.sent := by
          rw [runConfigured_eq, done]
          rfl
        show ∀ a ∈ (runConfigured i.now command config script).requests, a.path ≠ logoutPath
        rw [requests]
        exact same.stays
      · exact logsOutLast_of_login done

/-- The installation is not fetched, and so the command is not executed. With an environment file
that cannot be read nothing is sent at all. -/
theorem run_logs_out_last_of_unfetched :
    let i : Invocation := {
      arguments := [.unicode "status"]
      environment := [(Config.usernameKey, "owner"), (Config.passwordKey, "secret")]
      directory := "/"
      file? := fun _ => none
      deviceId := "device"
      now := ⟨⟨0⟩, .midnight⟩ }
    let unreadable : Invocation := { i with isFile := fun path => path == "/.env" }
    let granted : Answer := .reply 200 "\x7b\"body\":\x7b\"authToken\":\"t\"\x7d\x7d"
    let script : Script := ⟨[granted, .reply 200 ""], .reply 500 ""⟩
    LogsOutLast i.run script ∧ (unreadable.run script).requests = [] := by
  intro i unreadable granted script
  have options : Options.read unreadable.arguments = .ok ⟨none, ["status"]⟩ := by decide +kernel
  have parsed : Command.parse ["status"] = .ok (some .status) := by decide +kernel
  have place : unreadable.envPath? none = some "/.env" := by decide +kernel
  have rejected := start_of_unreadable options parsed place rfl rfl
  have silent := run_logs_out_last unreadable script
  rw [rejected] at silent
  refine ⟨?_, silent⟩
  let config : Config := ⟨"owner", "secret", "device", none, 60, 180, 30⟩
  have started : i.start = .ok (some .status, i.environment) := by decide +kernel
  have read : Config.read i.environment.get? i.deviceId = .ok config := by decide +kernel
  have entered : (login (.new config.credentials config.serial script)).1 = .ok () := by
    decide +kernel
  -- What is in the arguments, the answers and the configuration does not matter from here on.
  clear_value config script
  clear silent rejected place options unreadable
  clear_value i
  have outcome := run_logs_out_last i script
  rw [started] at outcome
  dsimp only at outcome
  rw [read] at outcome
  dsimp only at outcome
  rcases done : login (.new config.credentials config.serial script) with ⟨e | _, client⟩
  · rw [done] at entered
    cases entered
  · rw [done] at outcome
    exact outcome (.inl rfl)

end HeatingHub

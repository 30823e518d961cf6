import HeatingHub.Proofs.Client.Vetoes
import HeatingHub.Proofs.CommandLine.Grammar
import HeatingHub.Proofs.CommandLine.Logout
import HeatingHub.Proofs.Config.Validation

/-!
# Durations of quick vetoes

A run vetoes what its command says. The veto of a room has a duration of at least a minute: the one
given, or the one configured, and neither can be zero. The veto of a zone has none if the command
sets a temperature.
-/

namespace HeatingHub

open Calendar (Moment)
open Exchange
open Json (Value)
open Number (twoTo)

/-! ## Durations given and configured -/

/-- The minutes of a veto, by the words behind its entity and temperature: those given, else those
configured, and 180 if there are none. -/
inductive VetoMinutes (lookup : String → Option String) : List String → Nat → Prop
  | given {word : String} {minutes : Nat}
      (reads : Number.unsigned? (twoTo 32) word.toList = some minutes) :
      VetoMinutes lookup [word] minutes
  | configured {word : String} {minutes : Nat}
      (present : Config.present? lookup Config.vetoKey = some word)
      (reads : Number.unsigned? (twoTo 32) word.toList = some minutes) :
      VetoMinutes lookup [] minutes
  | unset (absent : Config.present? lookup Config.vetoKey = none) : VetoMinutes lookup [] 180

theorem vetoMinutes_of_number {lookup : String → Option String} {minutes : Nat}
    (h : Config.number lookup Config.vetoKey (twoTo 32) 180 = .ok minutes) :
    VetoMinutes lookup [] minutes := by
  unfold Config.number at h
  split at h
  case h_1 absent =>
    cases h
    exact .unset absent
  case h_2 word present =>
    split at h
    case h_1 n reads =>
      cases h
      exact .configured present reads
    case h_2 => cases h

theorem vetoMinutes_of_read {lookup : String → Option String} {deviceId : String} {config : Config}
    (h : Config.read lookup deviceId = .ok config) :
    VetoMinutes lookup [] config.vetoMinutes ∧ 1 ≤ config.vetoMinutes := by
  unfold Config.read at h
  obtain ⟨_, _, h⟩ := bind_eq_ok.1 h
  obtain ⟨_, _, h⟩ := bind_eq_ok.1 h
  obtain ⟨_, _, h⟩ := bind_eq_ok.1 h
  obtain ⟨_, _, h⟩ := bind_eq_ok.1 h
  obtain ⟨minutes, number, h⟩ := bind_eq_ok.1 h
  obtain ⟨_, positive, h⟩ := bind_eq_ok.1 h
  obtain ⟨_, _, h⟩ := bind_eq_ok.1 h
  cases h
  obtain ⟨rfl, least⟩ := Config.positive_eq_ok.1 positive
  exact ⟨vetoMinutes_of_number number, least⟩

/-! ## Words of commands -/

section Words

variable {v : Verb} {words arguments : List String} {entity : String} {target : Float}
  {duration : Option Nat} {c : Command}

theorem arguments_of_setTemperature
    (h : Command.readArguments v arguments = .ok (.setTemperature entity target)) :
    v = .setTemperature ∧ ∃ word, arguments = [entity, word] := by
  unfold Command.readArguments at h
  split at h
  case h_9 =>
    obtain ⟨_, _, same⟩ := bind_eq_ok.1 h
    cases same
    exact ⟨rfl, _, rfl⟩
  -- No other verb gives this command.
  all_goals simp [bind_eq_ok, map_eq_ok] at h

theorem arguments_of_setVeto
    (h : Command.readArguments v arguments = .ok (.setVeto entity target duration)) :
    v = .setVeto ∧ ∃ word given, arguments = entity :: word :: given ∧
      (given = [] ∧ duration = none ∨
        ∃ text minutes, given = [text] ∧ duration = some minutes ∧
          readDuration text = .ok minutes) := by
  unfold Command.readArguments at h
  split at h
  case h_6 =>
    obtain ⟨_, _, same⟩ := bind_eq_ok.1 h
    cases same
    exact ⟨rfl, _, [], rfl, .inl ⟨rfl, rfl⟩⟩
  case h_7 =>
    obtain ⟨minutes, read, h⟩ := bind_eq_ok.1 h
    obtain ⟨_, _, same⟩ := bind_eq_ok.1 h
    cases same
    exact ⟨rfl, _, _, rfl, .inr ⟨_, minutes, rfl, rfl, read⟩⟩
  all_goals simp [bind_eq_ok, map_eq_ok] at h

theorem words_of_setTemperature
    (h : Command.parse words = .ok (some (.setTemperature entity target))) :
    ∃ word, words = ["set_temperature", entity, word] := by
  obtain ⟨v, arguments, rfl, read⟩ := words_of_parse h
  obtain ⟨rfl, word, rfl⟩ := arguments_of_setTemperature read
  exact ⟨word, rfl⟩

/-- The veto has the minutes that the words or the configuration say. -/
theorem words_of_setVeto {lookup : String → Option String} {minutes : Nat}
    (h : Command.parse words = .ok (some (.setVeto entity target duration)))
    (configured : VetoMinutes lookup [] minutes) (least : 1 ≤ minutes) :
    ∃ word given, words = "set_quick_veto" :: entity :: word :: given ∧
      VetoMinutes lookup given (duration.getD minutes) ∧ 1 ≤ duration.getD minutes := by
  obtain ⟨v, arguments, rfl, read⟩ := words_of_parse h
  obtain ⟨rfl, word, given, rfl, said⟩ := arguments_of_setVeto read
  refine ⟨word, given, rfl, ?_⟩
  rcases said with ⟨rfl, rfl⟩ | ⟨text, n, rfl, rfl, said⟩
  · exact ⟨configured, least⟩
  · obtain ⟨reads, positive⟩ := readDuration_eq_ok.1 said
    exact ⟨.given reads, positive⟩

end Words

/-! ## Runs -/

/-- The requests of a run; if it goes on polling, with those of its first rounds. -/
def Outcome.sentThrough (o : Outcome) (rounds : List Int) : List Ask :=
  match o.polling with
  | some (site, _) =>
    (rounds.foldl (fun site instant => (site.tick clientSession instant).2) site).remote.sent
  | none => o.requests

/-- A call for a command, by a hub that vetoes for the given minutes if nothing else is said. -/
def Command.Makes (c : Command) (minutes : Nat) (call : Call) : Prop :=
  ∃ request, c.request? = some request ∧ call.Accords request minutes

section Makes

variable {c : Command} {minutes : Nat} {id : String} {veto : QuickVeto}

/-- A room is vetoed for a target or for a veto, and always for some time. -/
theorem Command.Makes.roomVeto (makes : c.Makes minutes (.setRoomVeto id veto)) :
    ∃ n, veto.duration = some n ∧
      ((∃ entity target, c = .setTemperature entity target ∧ n = minutes) ∨
        ∃ entity target duration, c = .setVeto entity target duration ∧
          n = duration.getD minutes) := by
  obtain ⟨request, asks, n, planned, said⟩ := makes
  refine ⟨n, planned, ?_⟩
  cases c with
  | setTemperature entity target =>
    cases asks
    exact .inl ⟨entity, target, rfl, (Option.some.inj said).symm⟩
  | setVeto entity target duration =>
    cases asks
    exact .inr ⟨entity, target, duration, rfl, (Option.some.inj said).symm⟩
  | setHoliday _ _ _ | removeHoliday | setQuickMode _ | removeQuickMode _ | removeVeto _
  | setHvac _ _ => cases asks; cases said
  | status => cases asks

/-- A zone is vetoed for a target without an end, or for a veto. -/
theorem Command.Makes.zoneVeto (makes : c.Makes minutes (.setZoneVeto id veto)) :
    (∃ entity target, c = .setTemperature entity target ∧ veto.duration = none) ∨
      ∃ entity target duration, c = .setVeto entity target duration ∧
        veto.duration = some (duration.getD minutes) := by
  obtain ⟨request, asks, said⟩ := makes
  cases c with
  | setTemperature entity target =>
    cases asks
    exact .inl ⟨entity, target, rfl, (Option.some.inj said).symm⟩
  | setVeto entity target duration =>
    cases asks
    exact .inr ⟨entity, target, duration, rfl, (Option.some.inj said).symm⟩
  | setHoliday _ _ _ | removeHoliday | setQuickMode _ | removeQuickMode _ | removeVeto _
  | setHvac _ _ => cases asks; cases said
  | status => cases asks

end Makes

section Runs

variable {allowed : Call → Prop} {site : Site Client} {now : Moment}

theorem vetoMinutes_update {σ : Type} (session : Session σ) (site : Site σ) (instant : Int) :
    (site.update session instant).2.hub.vetoMinutes = site.hub.vetoMinutes := by
  rcases Site.update_cases session instant site with
    ⟨_, h⟩ | ⟨_, ⟨events, remote, _, h⟩ | ⟨i, remote, h⟩⟩
  · rw [h]
  · rw [h]
  · rw [h]
    rfl

theorem only_rounds (rounds : List Int) (only : site.remote.Only allowed) :
    (rounds.foldl (fun site instant => (site.tick clientSession instant).2) site).remote.Only
      allowed := by
  induction rounds generalizing site with
  | nil => exact only
  | cons instant rounds ih =>
    exact ih (Site.kept_tick (clientSession_keeps allowed) only instant)

theorem only_execute {c : Command}
    (all : ∀ call, c.Makes site.hub.vetoMinutes call → allowed call)
    (only : site.remote.Only allowed) :
    (site.execute clientSession now c).2.remote.Only allowed := by
  refine Site.kept_execute (clientSession_keeps allowed) ?_ only
  intro request calls asks plan call mem
  obtain ⟨_, _, planned⟩ := planned_of_plan plan
  exact all call ⟨request, asks, planned.accords call mem⟩

/-- What is sent besides the requests of every run is for calls that the command makes. -/
theorem serves_of_runConfigured (now : Moment) (command : Option Command) (config : Config)
    (script : Script) (rounds : List Int) :
    ∀ a ∈ (runConfigured now command config script).sentThrough rounds,
      a.Serves fun call => ∃ c, command = some c ∧ c.Makes config.vetoMinutes call := by
  have begun := keeps_login _ (only_new (fun call => ∃ c, command = some c ∧
    c.Makes config.vetoMinutes call) config.credentials config.serial script)
  rw [runConfigured_eq]
  rcases done : login (.new config.credentials config.serial script) with ⟨e | _, client⟩ <;>
    rw [done] at begun
  · exact begun
  · have site : (Site.new config.hub client).remote.Only _ := begun
    have updated := Site.kept_update (clientSession_keeps _) site 0
    have minutes := vetoMinutes_update clientSession (Site.new config.hub client) 0
    simp only [Site.serve]
    rcases hu : (Site.new config.hub client).update clientSession 0 with ⟨_ | _, site⟩ <;>
      rw [hu] at updated minutes
    · exact Site.kept_logout (clientSession_keeps _) updated
    · cases command with
      | none => exact only_rounds rounds updated
      | some c =>
        refine Site.kept_logout (clientSession_keeps _) (only_execute ?_ updated)
        intro call makes
        rw [minutes] at makes
        exact ⟨c, rfl, makes⟩

end Runs

section Invocations

variable {i : Invocation} {script : Script}

theorem start_eq_ok {command : Option Command} {environment : Environment}
    (h : i.start = .ok (command, environment)) :
    ∃ o, Options.read i.arguments = .ok o ∧ Command.parse o.words = .ok command ∧
      i.loadEnvironment o.envFile = .ok environment := by
  unfold Invocation.start at h
  split at h
  case h_1 => cases h
  case h_2 o options =>
    split at h
    case h_1 => cases h
    case h_2 command parsed =>
      obtain ⟨environment, loaded, same⟩ := map_eq_ok.1 h
      cases same
      exact ⟨o, options, parsed, loaded⟩

/-- A run that sends anything was not rejected. -/
theorem configured_of_sent {rounds : List Int} {a : Ask}
    (sent : a ∈ (i.run script).sentThrough rounds) :
    ∃ command environment config, i.start = .ok (command, environment) ∧
      Config.read environment.get? i.deviceId = .ok config ∧
      i.run script = runConfigured i.now command config script := by
  unfold Invocation.run at sent
  split at sent
  case h_1 => cases sent
  case h_2 command environment started =>
    split at sent
    case h_1 => cases sent
    case h_2 config read =>
      refine ⟨command, environment, config, started, read, ?_⟩
      unfold Invocation.run
      rw [started]
      simp only [read]

end Invocations

/-- Every request of a run for the veto of a room has a duration of at least a minute. A request for
the veto of a zone is sent by `set_temperature`, without a duration, or by `set_quick_veto`, for the
minutes of its argument, or else those configured. -/
theorem veto_durations (i : Invocation) (script : Script) (rounds : List Int) {a : Ask}
    (sent : a ∈ (i.run script).sentThrough rounds) :
    (a.VetoesRoom → ∃ minutes, a.duration? = some (.ofNat minutes) ∧ 1 ≤ minutes) ∧
    (a.VetoesZone → ∃ o environment, Options.read i.arguments = .ok o ∧
      i.loadEnvironment o.envFile = .ok environment ∧
      ((∃ entity target, o.words = ["set_temperature", entity, target] ∧ a.duration? = none) ∨
        ∃ entity target given minutes, o.words = "set_quick_veto" :: entity :: target :: given ∧
          VetoMinutes environment.get? given minutes ∧ 1 ≤ minutes ∧
          a.duration? = some (.ofNat minutes))) := by
  obtain ⟨command, environment, config, started, read, ran⟩ := configured_of_sent sent
  rw [ran] at sent
  have serves := serves_of_runConfigured i.now command config script rounds a sent
  obtain ⟨o, options, parsed, loaded⟩ := start_eq_ok started
  obtain ⟨configured, least⟩ := vetoMinutes_of_read read
  constructor
  · intro vetoes
    obtain ⟨id, veto, facility, ⟨c, rfl, makes⟩, rfl⟩ := call_of_vetoesRoom serves vetoes
    obtain ⟨minutes, timed, said⟩ := makes.roomVeto
    refine ⟨minutes, by rw [duration?_setRoomVeto, timed, Option.map_some], ?_⟩
    rcases said with ⟨_, _, rfl, rfl⟩ | ⟨_, _, _, rfl, rfl⟩
    · exact least
    · obtain ⟨_, _, _, _, positive⟩ := words_of_setVeto parsed configured least
      exact positive
  · intro vetoes
    obtain ⟨id, veto, facility, ⟨c, rfl, makes⟩, rfl⟩ := call_of_vetoesZone serves vetoes
    refine ⟨o, environment, options, loaded, ?_⟩
    rw [duration?_setZoneVeto]
    rcases makes.zoneVeto with ⟨entity, _, rfl, endless⟩ | ⟨entity, _, _, rfl, timed⟩
    · obtain ⟨word, words⟩ := words_of_setTemperature parsed
      exact .inl ⟨entity, word, words, by rw [endless, Option.map_none]⟩
    · obtain ⟨word, given, words, minutes, positive⟩ := words_of_setVeto parsed configured least
      refine .inr ⟨entity, word, given, _, words, minutes, positive, ?_⟩
      rw [timed, Option.map_some]

/-- The minutes of the veto are those configured. -/
theorem veto_durations_of_configured :
    let words := ["set_quick_veto", "climate.multimatic_hall", "20"]
    let i : Invocation := {
      arguments := words
      environment := [(Config.usernameKey, "owner"), (Config.passwordKey, "secret"),
        (Config.serialKey, "F1"), (Config.vetoKey, "45")]
      directory := "/"
      file? := fun _ => none
      deviceId := "device"
      now := ⟨⟨0⟩, .midnight⟩ }
    let body (v : Value) : Answer := .reply 200 (Value.object [("body", v)]).render
    let empty : Answer := .reply 200 ""
    let heating : Value := .object [("configuration", .object [("mode", .text "DAY"),
      ("setpoint_temperature", .ofNat 21), ("setback_temperature", .ofNat 18)])]
    let zone : Value := .object [("_id", .text "hall"),
      ("configuration", .object [("name", .text "Hall")]), ("heating", heating)]
    let script : Script := ⟨[body (.object [("authToken", .text "t")]), empty, empty,
      body (.object [("zones", .array [zone])]), body (.object []), body (.object []),
      body (.array [])], empty⟩
    ∃ a ∈ (i.run script).sentThrough [], a.VetoesZone ∧ a.duration? = some (.ofNat 45) := by
  intro words i body empty heating zone script
  let path := "/facilities/F1/systemcontrol/v1/zones/hall/configuration/quick_veto"
  have vetoed : ((i.run script).sentThrough []).any
      (fun a => a.method == .put && a.path == path) = true := by decide +kernel
  obtain ⟨a, sent, asked⟩ := List.any_eq_true.1 vetoed
  -- What is in the answers does not matter from here on.
  clear_value script
  rw [Bool.and_eq_true, beq_iff_eq, beq_iff_eq] at asked
  have vetoes : a.VetoesZone := ⟨asked.1, "F1", "hall", asked.2.trans (by decide +kernel)⟩
  obtain ⟨o, environment, options, loaded, said⟩ := (veto_durations i script [] sent).2 vetoes
  have read : Options.read i.arguments = .ok ⟨none, words⟩ := by decide +kernel
  rw [read] at options
  cases options
  have same : environment = i.environment := (Except.ok.inj loaded).symm
  have present : Config.present? environment.get? Config.vetoKey = some "45" := by
    rw [same]
    decide +kernel
  refine ⟨a, sent, vetoes, ?_⟩
  rcases said with ⟨_, _, words, _⟩ | ⟨_, _, given, minutes, words, said, _, duration⟩
  · exact absurd (List.cons.inj words).1 (by decide)
  · cases words
    cases said with
    | unset absent =>
      rw [present] at absent
      cases absent
    | configured found reads =>
      rw [present] at found
      cases found
      have value : Number.unsigned? (twoTo 32) "45".toList = some 45 := by decide +kernel
      rw [value] at reads
      cases reads
      exact duration
end HeatingHub

import HeatingHub.Proofs.Client.Run

/-!
# Clients in lockstep

Two clients are run side by side. What relates them is kept by whatever they do, and both get the
same results, as soon as this holds of the few steps that all exchanges are made of (`Twins`). A
relation may hold only up to some point: the first client is then `lost` behind it, and nothing is
said of the second one any more.
-/

namespace HeatingHub

open Exchange
open Json (Decoder Document)

/-! ## Two states side by side -/

/-- Related states come to the same result and are related after it, unless the first gets lost.
Once lost it stays so. -/
structure Lockstep {σ β : Type} (R : σ → σ → Prop) (lost : σ → Prop) (f : σ → β × σ) : Prop where
  together {s t : σ} (related : R s t) :
    lost (f s).2 ∨ ((f t).1 = (f s).1 ∧ R (f s).2 (f t).2)
  lost {s : σ} (gone : lost s) : lost (f s).2

namespace Lockstep

variable {σ α β γ : Type} {R : σ → σ → Prop} {lost : σ → Prop}

theorem result (b : β) : Lockstep R lost fun s => (b, s) where
  together related := .inr ⟨rfl, related⟩
  lost gone := gone

theorem andThen {f : σ → α × σ} {g : α → σ → β × σ} (first : Lockstep R lost f)
    (rest : ∀ a, Lockstep R lost (g a)) : Lockstep R lost fun s => g (f s).1 (f s).2 where
  together {s t} related := by
    rcases first.together related with gone | ⟨same, between⟩
    · exact .inl ((rest _).lost gone)
    · rw [same]
      exact (rest _).together between
  lost gone := (rest _).lost (first.lost gone)

/-- What is done may depend on what related states have in common. -/
theorem depending {view : σ → γ} {f : γ → σ → β × σ} (same : ∀ {s t}, R s t → view t = view s)
    (each : ∀ v, Lockstep R lost (f v)) : Lockstep R lost fun s => f (view s) s where
  together {s t} related := by
    rw [same related]
    exact (each _).together related
  lost gone := (each _).lost gone

end Lockstep

/-! ## Exchanges -/

namespace Exchange

variable {α β : Type} {R : Client → Client → Prop} {lost : Client → Prop}

theorem lockstep_pure (a : α) : Lockstep R lost (pure a : Exchange α) := .result (Except.ok a)

theorem lockstep_throw (e : ApiError) : Lockstep R lost (throw e : Exchange α) :=
  .result (Except.error e)

/-- What comes after the result of an exchange. -/
def onward (f : α → Exchange β) : Except ApiError α → Exchange β
  | .ok a => f a
  | .error e => throw e

theorem lockstep_bind {x : Exchange α} {f : α → Exchange β} (first : Lockstep R lost x)
    (rest : ∀ a, Lockstep R lost (f a)) : Lockstep R lost (x >>= f) := by
  have split : (x >>= f) = fun c => onward f (x c).1 (x c).2 := by
    funext c
    rw [bind_apply]
    rcases x c with ⟨_ | _, _⟩ <;> rfl
  rw [split]
  refine first.andThen fun result => ?_
  cases result with
  | ok a => exact rest a
  | error e => exact lockstep_throw e

theorem lockstep_decode (same : ∀ {c d}, R c d → d.script.wording = c.script.wording)
    (asked : String) (decoder : Decoder α) (text : String) :
    Lockstep R lost (decode asked decoder text) := by
  unfold decode
  exact .depending (f := fun wording c => (readBody wording asked decoder text, c)) same fun _ =>
    .result _

theorem Checks.lockstep {f : Nat × String → Exchange String} (checks : Checks f)
    (answer : Nat × String) : Lockstep R lost (f answer) := by
  rcases checks answer.1 answer.2 with ⟨-, done⟩ | ⟨-, e, done⟩ <;> rw [done]
  · exact lockstep_pure _
  · exact lockstep_throw e

/-! ## Exchanges by steps -/

/-- Asks for a token in the name of whoever the client is of. -/
def askToken : Exchange (Nat × String) := fun c => send (tokenAsk c.credentials) c

/-- Authenticates with the token in the name of whoever the client is of. -/
def askAccess (token : String) : Exchange (Nat × String) := fun c =>
  send (authenticateAsk c.credentials token) c

/-- A login takes the credentials at its beginning, and has them still when it authenticates. -/
theorem login_eq_steps : login = (do
    let text ← askToken >>= checkLogin
    let token ← decode tokenPath (Wire.envelope Wire.tokenFields.decode) text
    let _ ← askAccess token >>= checkLogin
    setLoggedIn true) := by
  funext c
  have steps : (do
      let text ← askToken >>= checkLogin
      let token ← decode tokenPath (Wire.envelope Wire.tokenFields.decode) text
      let _ ← askAccess token >>= checkLogin
      setLoggedIn true) c = (grant c.credentials >>= fun token =>
        (askAccess token >>= checkLogin) >>= fun _ => setLoggedIn true) c := by
    unfold grant
    simp only [bind_assoc]
    rw [bind_apply, bind_apply]
    rfl
  rw [login_eq, steps]
  rcases grant_cases c.credentials c with ⟨token, -, granted⟩ | ⟨-, e, refused⟩
  · rw [bind_ok granted, bind_ok granted]
    rfl
  · rw [bind_error refused, bind_error refused]

/-- A call by whether the client is logged in. -/
def attemptAfterLogin (a : Ask) : Bool → Exchange String
  | true => attempt a
  | false => login >>= fun _ => attempt a

/-- The facility by what is known of it. -/
def searchUnless : Option String → Exchange String
  | some facility => pure facility
  | none => call facilitiesAsk >>= resolve

end Exchange

/-! ## Clients that do the same -/

/-- A relation between clients that is kept by each step of an exchange. -/
structure Twins (R : Client → Client → Prop) (lost : Client → Prop) : Prop where
  wording {c d : Client} (related : R c d) : d.script.wording = c.script.wording
  loggedIn {c d : Client} (related : R c d) : d.loggedIn = c.loggedIn
  serial {c d : Client} (related : R c d) : d.serial = c.serial
  setLoggedIn (loggedIn : Bool) : Lockstep R lost (setLoggedIn loggedIn)
  setSerial (serial : Option String) :
    Lockstep R lost (modify fun c => { c with serial } : Exchange Unit)
  token : Lockstep R lost askToken
  access (token : String) : Lockstep R lost (askAccess token)
  facilities : Lockstep R lost (send facilitiesAsk)
  facility (a : Ask) (facility : String) : Lockstep R lost (send (a.toFacility facility))

namespace Twins

variable {R : Client → Client → Prop} {lost : Client → Prop} {a : Ask}

theorem login (twins : Twins R lost) : Lockstep R lost login := by
  rw [login_eq_steps]
  refine lockstep_bind (lockstep_bind twins.token checks_checkLogin.lockstep) fun text => ?_
  refine lockstep_bind (lockstep_decode twins.wording _ _ text) fun token => ?_
  refine lockstep_bind (lockstep_bind (twins.access token) checks_checkLogin.lockstep) fun _ => ?_
  exact twins.setLoggedIn true

theorem attempt (twins : Twins R lost) (sent : Lockstep R lost (send a)) :
    Lockstep R lost (attempt a) := by
  unfold Exchange.attempt
  refine lockstep_bind sent fun answer => ?_
  split
  · refine lockstep_bind (twins.setLoggedIn false) fun _ => lockstep_bind twins.login fun _ => ?_
    exact lockstep_bind sent checks_check.lockstep
  · exact checks_check.lockstep answer

theorem call (twins : Twins R lost) (sent : Lockstep R lost (send a)) :
    Lockstep R lost (call a) := by
  have byLogin : Exchange.call a = fun c => attemptAfterLogin a c.loggedIn c := by
    funext c
    rw [call_eq]
    cases c.loggedIn <;> rfl
  rw [byLogin]
  refine .depending twins.loggedIn fun loggedIn => ?_
  cases loggedIn with
  | true => exact twins.attempt sent
  | false => exact lockstep_bind twins.login fun _ => twins.attempt sent

theorem resolve (twins : Twins R lost) (text : String) : Lockstep R lost (resolve text) := by
  unfold Exchange.resolve
  refine lockstep_bind (lockstep_decode twins.wording _ _ text) fun facilities => ?_
  cases facilities with
  | nil => exact lockstep_throw _
  | cons facility _ => exact lockstep_bind (twins.setSerial _) fun _ => lockstep_pure _

theorem search (twins : Twins R lost) : Lockstep R lost Exchange.serial := by
  have bySerial : Exchange.serial = fun c => searchUnless c.serial c := by
    funext c
    cases known : c.serial with
    | some facility => exact serial_of_known known
    | none => exact serial_of_unknown known
  rw [bySerial]
  refine .depending twins.serial fun serial => ?_
  cases serial with
  | some facility => exact lockstep_pure facility
  | none => exact lockstep_bind (twins.call twins.facilities) twins.resolve

theorem facilityCall (twins : Twins R lost) (method : Method) (path : String)
    (body : Option Json.Value) : Lockstep R lost (facilityCall method path body) :=
  lockstep_bind twins.search fun facility => twins.call (twins.facility ⟨method, path, body⟩ facility)

theorem read (twins : Twins R lost) {α : Type} (path : String) (decoder : Decoder α) :
    Lockstep R lost (read path decoder) :=
  lockstep_bind (twins.facilityCall .get path none) fun text => lockstep_decode twins.wording _ _ text

theorem fetch (twins : Twins R lost) : Lockstep R lost Exchange.fetch :=
  lockstep_bind (twins.read ..) fun control =>
  lockstep_bind (twins.read ..) fun rooms =>
  lockstep_bind (twins.read ..) fun liveReport =>
  lockstep_bind (twins.read ..) fun hvacStates => by
    cases Wire.assemble ⟨control, rooms, liveReport, hvacStates⟩ with
    | ok i => exact lockstep_pure i
    | error e => exact lockstep_throw _

theorem perform (twins : Twins R lost) (c : Call) : Lockstep R lost (perform c) :=
  lockstep_bind (twins.facilityCall ..) fun _ => lockstep_pure ()

theorem requestUpdate (twins : Twins R lost) : Lockstep R lost requestUpdate :=
  lockstep_bind (twins.facilityCall ..) fun _ => lockstep_pure ()

theorem logout (twins : Twins R lost) (sent : Lockstep R lost (send logoutAsk)) :
    Lockstep R lost logout :=
  lockstep_bind sent fun answer => lockstep_bind (twins.setLoggedIn false) fun _ =>
    lockstep_bind (checks_check.lockstep answer) fun _ => lockstep_pure ()

end Twins

end HeatingHub

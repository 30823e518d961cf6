import HeatingHub.Proofs.Client.Lockstep

/-!
# The password

A password is sent in requests for tokens and decides nothing. Two clients that differ in it alone
return the same whatever is asked of them, and send the same requests but for that one member.
-/

namespace HeatingHub

open Exchange
open Json (Value)

/-! ## Another password -/

/-- An object with another value for the key, in each member that has it. -/
def Json.Value.replacing (v : Value) (key : String) (value : Value) : Value :=
  match v with
  | .object members => .object (members.map fun m => if m.1 = key then (key, value) else m)
  | other => other

/-- The request with another password, if it is one for a token; any other request as it is. -/
def Ask.withPassword (password : String) (a : Ask) : Ask :=
  if a.method = .post ∧ a.path = tokenPath then
    { a with body := a.body.map (·.replacing "password" (.text password)) }
  else a

/-- The client of one whose password is another, and always was. -/
def Client.withPassword (password : String) (c : Client) : Client :=
  { c with
    credentials := { c.credentials with password }
    sent := c.sent.map (Ask.withPassword password) }

section

variable {password : String} {a : Ask}

theorem Ask.withPassword_tokenAsk (credentials : Credentials) :
    (tokenAsk credentials).withPassword password = tokenAsk { credentials with password } := by
  unfold withPassword
  rw [if_pos ⟨rfl, rfl⟩]
  rfl

theorem Ask.withPassword_of_path_ne (path : a.path ≠ tokenPath) : a.withPassword password = a :=
  if_neg fun token => path token.2

end

/-! ## Exchanges -/

/-- The second client differs from the first in the password alone. -/
def ApartInPassword (password : String) (c d : Client) : Prop := d = c.withPassword password

section

variable {password : String} {c d : Client} {a b : Ask}

/-- The clients send requests that are the same but for the password. -/
theorem ApartInPassword.send (apart : ApartInPassword password c d)
    (same : b = a.withPassword password) :
    (send b d).1 = (send a c).1 ∧ ApartInPassword password (send a c).2 (send b d).2 := by
  subst same apart
  rw [send_apply, send_apply]
  refine ⟨rfl, ?_⟩
  show Client.asked _ _ = Client.withPassword _ _
  unfold Client.asked Client.withPassword
  rw [List.map_append]
  rfl

theorem lockstep_send_of_path_ne (path : a.path ≠ tokenPath) :
    Lockstep (ApartInPassword password) (fun _ => False) (send a) where
  together apart := .inr (apart.send (Ask.withPassword_of_path_ne path).symm)
  lost gone := gone

theorem twins_apartInPassword (password : String) :
    Twins (ApartInPassword password) fun _ => False where
  wording apart := by
    subst apart
    rfl
  loggedIn apart := by
    subst apart
    rfl
  serial apart := by
    subst apart
    rfl
  setLoggedIn loggedIn := ⟨fun apart => .inr ⟨rfl, by subst apart; rfl⟩, id⟩
  setSerial serial := ⟨fun apart => .inr ⟨rfl, by subst apart; rfl⟩, id⟩
  token := ⟨fun apart => .inr (apart.send (by
    subst apart
    exact (Ask.withPassword_tokenAsk _).symm)), id⟩
  access token := ⟨fun apart => .inr (apart.send (by
    subst apart
    exact (Ask.withPassword_of_path_ne (show authenticatePath ≠ tokenPath by decide)).symm)), id⟩
  facilities := lockstep_send_of_path_ne (show facilitiesPath ≠ tokenPath by decide)
  facility a facility := lockstep_send_of_path_ne fun path =>
    Ask.isToFacility_toFacility.not_ofAccount (.inl path)

end

/-! ## Runs -/

/-- What a use of the session returns: the installation, if it is fetched. -/
def Use.reply {σ : Type} (session : Session σ) (s : σ) :
    Use → Except ApiError (Option Installation)
  | perform c => (session.perform c s).1.map fun _ => none
  | requestUpdate => (session.requestUpdate s).1.map fun _ => none
  | fetch => (session.fetch s).1.map some
  | logout => (session.logout s).1.map fun _ => none

namespace Client

/-- What the uses return, one after the other. -/
def replies (c : Client) : List Use → List (Except ApiError (Option Installation))
  | [] => []
  | u :: uses => u.reply clientSession c :: (c.use u).replies uses

/-- What a run returns, the login first; if that fails there is nothing else. -/
def runReplies (credentials : Credentials) (serial : Option String) (script : Script)
    (uses : List Use) : List (Except ApiError (Option Installation)) :=
  match login (new credentials serial script) with
  | (.ok (), c) => .ok none :: c.replies uses
  | (.error e, _) => [.error e]

variable {password : String} {c d : Client}

theorem use_apart (apart : ApartInPassword password c d) (u : Use) :
    u.reply clientSession d = u.reply clientSession c ∧
      ApartInPassword password (c.use u) (d.use u) := by
  have twins := twins_apartInPassword password
  have step {α : Type} {x : Exchange α} (f : α → Option Installation)
      (steps : Lockstep (ApartInPassword password) (fun _ => False) x) :
      (x d).1.map f = (x c).1.map f ∧ ApartInPassword password (x c).2 (x d).2 := by
    obtain ⟨same, next⟩ := (steps.together apart).resolve_left id
    exact ⟨congrArg (Except.map f) same, next⟩
  cases u with
  | perform call => exact step _ (twins.perform call)
  | requestUpdate => exact step _ twins.requestUpdate
  | fetch => exact step _ twins.fetch
  | logout =>
    have path : logoutAsk.path ≠ tokenPath := by decide
    exact step _ (twins.logout (lockstep_send_of_path_ne path))

theorem uses_apart (apart : ApartInPassword password c d) (uses : List Use) :
    d.replies uses = c.replies uses ∧
      ApartInPassword password (uses.foldl use c) (uses.foldl use d) := by
  induction uses generalizing c d with
  | nil => exact ⟨rfl, apart⟩
  | cons u uses ih =>
    obtain ⟨same, next⟩ := use_apart apart u
    obtain ⟨rest, last⟩ := ih next
    refine ⟨?_, last⟩
    unfold replies
    rw [same, rest]

theorem run_apart (owner : Credentials) (password : String) (serial : Option String)
    (script : Script) (uses : List Use) :
    runReplies { owner with password } serial script uses = runReplies owner serial script uses ∧
      ApartInPassword password (run owner serial script uses)
        (run { owner with password } serial script uses) := by
  have begun : ApartInPassword password (new owner serial script)
      (new { owner with password } serial script) := rfl
  have started := ((twins_apartInPassword password).login.together begun).resolve_left id
  unfold runReplies run
  revert started
  rcases login (new owner serial script) with ⟨result, c⟩
  rcases login (new { owner with password } serial script) with ⟨result', d⟩
  intro started
  obtain ⟨same, apart⟩ : result' = result ∧ ApartInPassword password c d := started
  subst same
  cases result' with
  | error e => exact ⟨rfl, apart⟩
  | ok _ =>
    obtain ⟨same, last⟩ := uses_apart apart uses
    exact ⟨congrArg _ same, last⟩

/-- The password of a client is seen in its requests for tokens only. Two clients that differ in it
return the same from each use, and send the same requests but for the password in those: from their
first login on, and just as well from any state on. -/
theorem password_unseen (password : String) (uses : List Use) :
    (∀ (owner : Credentials) (serial : Option String) (script : Script),
      let other : Credentials := { owner with password }
      runReplies other serial script uses = runReplies owner serial script uses ∧
        (run other serial script uses).sent =
          (run owner serial script uses).sent.map (Ask.withPassword password)) ∧
    ∀ c : Client,
      (c.withPassword password).replies uses = c.replies uses ∧
        (uses.foldl use (c.withPassword password)).sent =
          (uses.foldl use c).sent.map (Ask.withPassword password) := by
  constructor
  · intro owner serial script other
    obtain ⟨same, apart⟩ := run_apart owner password serial script uses
    exact ⟨same, congrArg Client.sent apart⟩
  · intro c
    have apart : ApartInPassword password c (c.withPassword password) := rfl
    obtain ⟨same, last⟩ := uses_apart apart uses
    exact ⟨same, congrArg Client.sent last⟩

end Client

end HeatingHub

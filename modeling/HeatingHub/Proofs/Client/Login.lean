import HeatingHub.Proofs.Client.Run

/-!
# Logins

A client takes itself to be logged in or not. That it is right is read off the turns alone: the
last login was completed, and nothing after it has ended it. So a request that needs a login is
never sent without one.
-/

namespace HeatingHub

open Exchange

/-! ## Turns of a client that is logged in -/

/-- The request was answered that the login has expired, and just now a new login was completed. -/
def Retried (credentials : Credentials) (before : List Turn) (a : Ask) : Prop :=
  ∃ early expired login, before = early ++ ⟨a, expired⟩ :: login ∧ expired.IsUnauthorized ∧
    Login credentials login

/-- A turn that is not of a login, and leaves the client logged in. -/
structure KeepsLogin (credentials : Credentials) (before : List Turn) (turn : Turn) : Prop where
  token : turn.ask.path ≠ tokenPath
  authenticate : turn.ask.path ≠ authenticatePath
  logout : turn.ask.path = logoutPath → turn.answer.IsMissing
  /-- Only the first attempt of a call finds out that the login has expired. -/
  expired : turn.answer.IsUnauthorized → Retried credentials before turn.ask

/-- The last login was completed, and no turn after it has ended it. -/
def LoggedIn (credentials : Credentials) (trace : List Turn) : Prop :=
  ∃ early login late, trace = early ++ login ++ late ∧ Login credentials login ∧
    Throughout (KeepsLogin credentials) (early ++ login) late

/-- What is due of a turn, given those before it. -/
structure Due (credentials : Credentials) (before : List Turn) (turn : Turn) : Prop where
  loggedIn : ¬ turn.ask.OfAccount → LoggedIn credentials before
  /-- The token is the one just granted. -/
  token : turn.ask.path = authenticatePath → ∃ early granted token,
    before = early ++ [⟨tokenAsk credentials, granted⟩] ∧ granted.token? = some token ∧
      turn.ask = authenticateAsk credentials token

section

variable {credentials : Credentials} {before login turns : List Turn} {turn : Turn} {a : Ask}

theorem Login.loggedIn (completed : Login credentials login) (before : List Turn) :
    LoggedIn credentials (before ++ login) :=
  ⟨before, login, [], (List.append_nil _).symm, completed, trivial⟩

theorem LoggedIn.append (h : LoggedIn credentials before) (keeps : KeepsLogin credentials before turn) :
    LoggedIn credentials (before ++ [turn]) := by
  obtain ⟨early, login, late, rfl, completed, kept⟩ := h
  refine ⟨early, login, late ++ [turn], List.append_assoc .., completed, ?_⟩
  exact throughout_append.mpr ⟨kept, throughout_singleton.mpr keeps⟩

theorem due_token (answer : Answer) : Due credentials before ⟨tokenAsk credentials, answer⟩ where
  loggedIn other := absurd (.inl rfl) other
  token path := absurd (show tokenPath = authenticatePath from path) (by decide)

theorem due_authenticate {granted : Answer} {token : String} (grant : granted.token? = some token)
    (answer : Answer) :
    Due credentials (before ++ [⟨tokenAsk credentials, granted⟩])
      ⟨authenticateAsk credentials token, answer⟩ where
  loggedIn other := absurd (.inr (.inl rfl)) other
  token _ := ⟨before, granted, token, rfl, grant, rfl⟩

theorem Login.due (completed : Login credentials login) :
    Throughout (Due credentials) before login := by
  obtain ⟨grant, -⟩ := completed
  exact ⟨due_token _, due_authenticate grant _, trivial⟩

theorem FailedLogin.due (failed : FailedLogin credentials login) :
    Throughout (Due credentials) before login := by
  cases failed with
  | ungranted => exact ⟨due_token _, trivial⟩
  | unaccepted grant => exact ⟨due_token _, due_authenticate grant _, trivial⟩

/-- A request that needs a login, sent with one. -/
theorem LoggedIn.due (h : LoggedIn credentials before) (needs : ¬ a.OfAccount) (answer : Answer) :
    Due credentials before ⟨a, answer⟩ where
  loggedIn _ := h
  token path := absurd (.inr (.inl path)) needs

theorem keepsLogin_of_call (needs : ¬ a.OfAccount) {answer : Answer}
    (expired : answer.IsUnauthorized → Retried credentials before a) :
    KeepsLogin credentials before ⟨a, answer⟩ where
  token path := needs (.inl path)
  authenticate path := needs (.inr (.inl path))
  logout path := absurd (.inr (.inr path)) needs
  expired := expired

end

/-! ## Calls -/

section

variable {credentials : Credentials} {before turns : List Turn} {a : Ask} {body : Option String}
  {loggedIn after : Bool}

theorem Attempt.due (attempt : Attempt credentials a turns body after)
    (h : LoggedIn credentials before) (needs : ¬ a.OfAccount) :
    Throughout (Due credentials) before turns ∧
      (after = true → LoggedIn credentials (before ++ turns)) := by
  cases attempt with
  | answered valid =>
    refine ⟨throughout_singleton.mpr (h.due needs _), fun _ => h.append ?_⟩
    exact keepsLogin_of_call needs fun expired => absurd expired valid
  | @repeated expired again login unauthorized completed =>
    -- From here on the new login is the last one, and the request sent again may be answered 401
    -- without ending it.
    have renewed := completed.loggedIn (before ++ [⟨a, expired⟩])
    have retried : Retried credentials (before ++ [⟨a, expired⟩] ++ login) a :=
      ⟨before, expired, login, List.append_assoc .., unauthorized, completed⟩
    refine ⟨⟨h.due needs _, throughout_append.mpr
      ⟨completed.due, throughout_singleton.mpr (renewed.due needs _)⟩⟩, fun _ => ?_⟩
    have keeps : KeepsLogin credentials (before ++ [⟨a, expired⟩] ++ login) ⟨a, again⟩ :=
      keepsLogin_of_call needs fun _ => retried
    have kept := renewed.append keeps
    simpa only [List.append_assoc, List.cons_append, List.nil_append] using kept
  | expired _ failed =>
    exact ⟨⟨h.due needs _, failed.due⟩, fun done => absurd done Bool.false_ne_true⟩

theorem Called.due (called : Called credentials a loggedIn turns body after)
    (h : loggedIn = true → LoggedIn credentials before) (needs : ¬ a.OfAccount) :
    Throughout (Due credentials) before turns ∧
      (after = true → LoggedIn credentials (before ++ turns)) := by
  cases called with
  | ready attempt => exact attempt.due (h rfl) needs
  | admitted completed attempt =>
    obtain ⟨due, kept⟩ := attempt.due (completed.loggedIn before) needs
    rw [List.append_assoc] at kept
    exact ⟨throughout_append.mpr ⟨completed.due, due⟩, kept⟩
  | refused failed => exact ⟨failed.due, fun done => absurd done Bool.false_ne_true⟩

end

/-! ## Runs -/

namespace Client

/-- A client of which everything due was done, and that is logged in if it takes itself to be. -/
structure Orderly (owner : Credentials) (script : Script) (c : Client) : Prop
    extends c.Began owner script where
  due : Throughout (Due owner) [] (c.transcript script)
  loggedIn : c.loggedIn = true → LoggedIn owner (c.transcript script)

variable {credentials : Credentials} {script : Script} {c next : Client} {turns : List Turn}
  {a : Ask}

theorem Orderly.took (h : c.Orderly credentials script) (took : c.Took script turns next)
    (due : Throughout (Due credentials) (c.transcript script) turns)
    (loggedIn : next.loggedIn = true → LoggedIn credentials (c.transcript script ++ turns)) :
    next.Orderly credentials script where
  toBegan := h.toBegan.took took
  due := by
    rw [took.transcript]
    exact throughout_append.mpr ⟨h.due, due⟩
  loggedIn := by
    rw [took.transcript]
    exact loggedIn

theorem Orderly.setSerial (h : c.Orderly credentials script) (serial : Option String) :
    Client.Orderly credentials script { c with serial } :=
  ⟨⟨h.follows, h.credentials⟩, h.due, h.loggedIn⟩

theorem Orderly.call (h : c.Orderly credentials script) (needs : ¬ a.OfAccount) :
    (call a c).2.Orderly credentials script := by
  obtain ⟨turns, next, result, done, took, -, called⟩ := call_cases h.follows a
  rw [h.credentials] at called
  obtain ⟨due, kept⟩ := called.due h.loggedIn needs
  rw [done]
  exact h.took took due kept

theorem Orderly.login (h : c.Orderly credentials script) (out : c.loggedIn = false) :
    (login c).2.Orderly credentials script := by
  rcases login_cases h.follows with
    ⟨turns, next, completed, took, done, -⟩ | ⟨turns, next, e, failed, took, done, now, -⟩
  · rw [h.credentials] at completed
    rw [done]
    exact h.took took completed.due fun _ => completed.loggedIn _
  · rw [h.credentials] at failed
    rw [done]
    refine h.took took failed.due fun loggedIn => ?_
    rw [now, out] at loggedIn
    exact absurd loggedIn Bool.false_ne_true

theorem Orderly.logout (h : c.Orderly credentials script) :
    (logout c).2.Orderly credentials script := by
  have took := h.follows.took_asked logoutAsk
  have due : Due credentials (c.transcript script) ⟨logoutAsk, c.script.next.1⟩ :=
    ⟨fun other => absurd (.inr (.inr rfl)) other,
      fun path => absurd (show logoutPath = authenticatePath from path) (by decide)⟩
  rcases logout_cases c with ⟨missing, state⟩ | state
  -- no answer came, so that the client takes the login to go on
  · rw [state]
    refine h.took took (throughout_singleton.mpr due) fun loggedIn => ?_
    refine (h.loggedIn loggedIn).append ⟨?_, ?_, fun _ => missing, ?_⟩
    · show logoutPath ≠ tokenPath
      decide
    · show logoutPath ≠ authenticatePath
      decide
    · rintro ⟨_, answered⟩
      obtain ⟨_, missed⟩ := missing
      cases missed.symm.trans answered
  · rw [state]
    exact h.took (took.setLoggedIn false) (throughout_singleton.mpr due) fun loggedIn =>
      absurd loggedIn Bool.false_ne_true

theorem kept_orderly : Kept (Orderly credentials script) where
  serial := keeps_serial (fun _ h => h.call Ask.not_ofAccount_facilitiesAsk)
    fun _ _ h => h.setSerial _
  call h _ _ := h.call Ask.isToFacility_toFacility.not_ofAccount
  logout _ h := h.logout

theorem orderly_new (credentials : Credentials) (serial : Option String) (script : Script) :
    (new credentials serial script).Orderly credentials script :=
  ⟨began_new credentials serial script, trivial, fun loggedIn =>
    absurd loggedIn Bool.false_ne_true⟩

/-- Every request of a run that needs a login is sent with one: the last login before it was
completed, and neither a logout that was answered nor a call found to have an expired login has
ended it. And each login is with the token that was granted just before. -/
theorem login_before_use (credentials : Credentials) (serial : Option String) (script : Script)
    (uses : List Use) :
    Throughout (Due credentials) [] ((run credentials serial script uses).transcript script) :=
  (kept_orderly.run ((orderly_new credentials serial script).login rfl) uses).due

end Client

end HeatingHub

import HeatingHub.Client.Remote

/-!
# Transcripts of clients

A client gets one answer to each request before it sends the next, so that what passed between it
and the API is a list of turns. `Called` lists all that a call can come to, with the turns that it
takes: some logins, and the request of the call once or twice. What holds of clients is shown by
cases of it.
-/

namespace HeatingHub

open Exchange
open Json (Decoder Document Value)

/-! ## Turns -/

/-- A request with its answer. -/
structure Turn where
  ask : Ask
  answer : Answer

/-- Of each of the turns the property holds, given those before it. -/
def Throughout (P : List Turn → Turn → Prop) : List Turn → List Turn → Prop
  | _, [] => True
  | before, turn :: rest => P before turn ∧ Throughout P (before ++ [turn]) rest

section Throughout

variable {P : List Turn → Turn → Prop} {before first second turns : List Turn}

theorem throughout_append : Throughout P before (first ++ second) ↔
    Throughout P before first ∧ Throughout P (before ++ first) second := by
  induction first generalizing before with
  | nil => simp [Throughout]
  | cons turn rest ih =>
    have here := @ih (before ++ [turn])
    rw [List.append_assoc, List.singleton_append] at here
    simp only [List.cons_append, Throughout, here, and_assoc]

theorem throughout_singleton {turn : Turn} : Throughout P before [turn] ↔ P before turn :=
  and_iff_left trivial

end Throughout

namespace Script

/-- The answer to the request with the number, counted from zero. -/
def answer (s : Script) (n : Nat) : Answer := s.answers[n]?.getD s.rest

/-- What is left after some answers. -/
def drop (s : Script) (n : Nat) : Script := { s with answers := s.answers.drop n }

theorem next_drop (s : Script) (n : Nat) : (s.drop n).next = (s.answer n, s.drop (n + 1)) := by
  have later : s.answers.drop (n + 1) = (s.answers.drop n).drop 1 := List.drop_drop.symm
  have first : s.answers[n]? = (s.answers.drop n).head? := List.head?_drop.symm
  unfold next answer drop
  rw [later, first]
  cases s.answers.drop n <;> rfl

theorem next_eq (s : Script) : s.next = (s.answer 0, s.drop 1) := s.next_drop 0

theorem wording_next (s : Script) : s.next.2.wording = s.wording := by
  rw [next_eq]
  rfl

theorem answer_drop (s : Script) (n m : Nat) : (s.drop n).answer m = s.answer (n + m) := by
  unfold answer drop
  rw [List.getElem?_drop]

theorem drop_drop (s : Script) (n m : Nat) : (s.drop n).drop m = s.drop (n + m) := by
  unfold drop
  rw [List.drop_drop]

end Script

namespace Client

/-- What passed between the API and a client that began with the script. -/
def transcript (script : Script) (c : Client) : List Turn :=
  c.sent.mapIdx fun n a => ⟨a, script.answer n⟩

/-- The client has used up one answer of the script for each request. -/
def Follows (script : Script) (c : Client) : Prop := c.script = script.drop c.sent.length

/-- The client is the owner's, and has used up one answer of the script for each request. -/
structure Began (owner : Credentials) (script : Script) (c : Client) : Prop where
  follows : c.Follows script
  credentials : c.credentials = owner

/-- The client took the turns, and is now the other one. -/
structure Took (script : Script) (c : Client) (turns : List Turn) (next : Client) : Prop where
  follows : next.Follows script
  credentials : next.credentials = c.credentials
  transcript : next.transcript script = c.transcript script ++ turns

/-- The client when its request has been answered. -/
def asked (c : Client) (a : Ask) : Client :=
  { c with script := c.script.next.2, sent := c.sent ++ [a] }

variable {owner : Credentials} {script : Script} {c mid next : Client} {turns more : List Turn}

theorem began_new (owner : Credentials) (serial : Option String) (script : Script) :
    (new owner serial script).Began owner script := ⟨rfl, rfl⟩

theorem Began.took (h : c.Began owner script) (took : c.Took script turns next) :
    next.Began owner script := ⟨took.follows, took.credentials.trans h.credentials⟩

theorem Follows.took_nil (follows : c.Follows script) : c.Took script [] c :=
  ⟨follows, rfl, (List.append_nil _).symm⟩

theorem Follows.took_asked (follows : c.Follows script) (a : Ask) :
    c.Took script [⟨a, c.script.next.1⟩] (c.asked a) where
  follows := by
    unfold Follows asked
    rw [follows, Script.next_drop, List.length_append, List.length_singleton]
  credentials := rfl
  transcript := by
    unfold Client.transcript asked
    rw [follows, Script.next_drop, List.mapIdx_concat]

theorem Took.trans (first : c.Took script turns mid) (second : mid.Took script more next) :
    c.Took script (turns ++ more) next where
  follows := second.follows
  credentials := second.credentials.trans first.credentials
  transcript := by rw [second.transcript, first.transcript, List.append_assoc]

theorem Took.sent (took : c.Took script turns next) :
    next.sent = c.sent ++ turns.map Turn.ask := by
  have asks (d : Client) : (d.transcript script).map Turn.ask = d.sent := by
    apply List.ext_getElem?
    intro n
    unfold Client.transcript
    rw [List.getElem?_map, List.getElem?_mapIdx]
    cases d.sent[n]? <;> rfl
  have same := congrArg (List.map Turn.ask) took.transcript
  rwa [List.map_append, asks, asks] at same

/-- Whatever was answered before, a client has begun with some script. -/
theorem exists_follows (c : Client) : ∃ script, c.Follows script := by
  refine ⟨{ c.script with
    answers := List.replicate c.sent.length (.failure "") ++ c.script.answers }, ?_⟩
  unfold Follows Script.drop
  rw [List.drop_left' List.length_replicate]

theorem Took.setLoggedIn (took : c.Took script turns mid) (loggedIn : Bool) :
    c.Took script turns { mid with loggedIn } :=
  ⟨took.follows, took.credentials, took.transcript⟩

theorem Took.setSerial (took : c.Took script turns mid) (serial : Option String) :
    c.Took script turns { mid with serial } :=
  ⟨took.follows, took.credentials, took.transcript⟩

end Client

/-! ## Answers -/

namespace Answer

/-- The body of an answer of success. -/
def success? : Answer → Option String
  | reply status text => if isSuccess status then some text else none
  | failure _ => none

/-- The token that the answer grants. -/
def token? (a : Answer) : Option String :=
  a.success?.bind fun text =>
    (Wire.envelope Wire.tokenFields.decode (Document.read text)).toOption

/-- The login has expired. -/
def IsUnauthorized (a : Answer) : Prop := ∃ text, a = reply unauthorized text

/-- No answer came. -/
def IsMissing (a : Answer) : Prop := ∃ text, a = failure text

/-- What the sender gets to know. -/
def received : Answer → Except ApiError (Nat × String)
  | reply status text => .ok (status, text)
  | failure text => .error (.transport text)

theorem IsUnauthorized.success? {a : Answer} (h : a.IsUnauthorized) : a.success? = none := by
  obtain ⟨text, rfl⟩ := h
  rfl

end Answer

/-! ## Steps of an exchange -/

namespace Exchange

variable {α β : Type} {c next : Client}

theorem bind_apply (x : Exchange α) (f : α → Exchange β) (c : Client) :
    (x >>= f) c = match x c with
      | (.ok a, next) => f a next
      | (.error e, next) => (.error e, next) := by
  simp only [bind, ExceptT.bind, ExceptT.mk, StateT.bind, ExceptT.bindCont]
  cases x c with
  | mk result next => cases result <;> rfl

theorem bind_ok {x : Exchange α} {a : α} (h : x c = (.ok a, next)) (f : α → Exchange β) :
    (x >>= f) c = f a next := by
  rw [bind_apply, h]

theorem bind_error {x : Exchange α} {e : ApiError} (h : x c = (.error e, next))
    (f : α → Exchange β) : (x >>= f) c = (.error e, next) := by
  rw [bind_apply, h]

theorem send_apply (a : Ask) (c : Client) :
    send a c = (c.script.next.1.received, c.asked a) := by
  unfold send
  cases h : c.script.next with
  | mk answer rest => cases answer <;> simp [Client.asked, Answer.received, h]

theorem decode_apply (asked : String) (decoder : Decoder α) (text : String) (c : Client) :
    (∃ x, decoder (Document.read text) = .ok x ∧ decode asked decoder text c = (.ok x, c)) ∨
      ∃ part, decoder (Document.read text) = .error part ∧ decode asked decoder text c =
        (.error (.json ⟨part, c.script.wording.complaint asked text⟩), c) := by
  unfold decode readBody
  cases decoder (Document.read text) with
  | ok x => exact .inl ⟨x, rfl, rfl⟩
  | error part => exact .inr ⟨part, rfl, rfl⟩

/-- The body of an answer of success, and nothing but an error of any other. -/
def Checks (f : Nat × String → Exchange String) : Prop :=
  ∀ status text, (isSuccess status = true ∧ f (status, text) = pure text) ∨
    (isSuccess status = false ∧ ∃ e, f (status, text) = throw e)

theorem checks_check : Checks check := by
  intro status text
  by_cases h : isSuccess status = true
  · exact .inl ⟨h, if_pos h⟩
  · exact .inr ⟨Bool.eq_false_iff.mpr h, _, if_neg h⟩

theorem checks_checkLogin : Checks checkLogin := by
  intro status text
  by_cases h : isSuccess status = true
  · exact .inl ⟨h, if_pos h⟩
  · exact .inr ⟨Bool.eq_false_iff.mpr h, _, if_neg h⟩

theorem send_checked {f : Nat × String → Exchange String} (checks : Checks f) (a : Ask)
    (c : Client) :
    (∃ text, c.script.next.1.success? = some text ∧
        (send a >>= f) c = (.ok text, c.asked a)) ∨
      (c.script.next.1.success? = none ∧ ∃ e, (send a >>= f) c = (.error e, c.asked a)) := by
  have sent := send_apply a c
  cases h : c.script.next.1 with
  | failure text =>
    rw [h] at sent
    exact .inr ⟨rfl, _, bind_error sent f⟩
  | reply status text =>
    rw [h] at sent
    rw [bind_ok sent]
    rcases checks status text with ⟨success, body⟩ | ⟨failed, e, error⟩
    · rw [body]
      exact .inl ⟨text, if_pos success, rfl⟩
    · rw [error]
      exact .inr ⟨if_neg (Bool.eq_false_iff.mp failed), e, rfl⟩

theorem send_check (a : Ask) (c : Client) :
    ∃ result, (send a >>= check) c = (result, c.asked a) ∧
      result.toOption = c.script.next.1.success? := by
  rcases send_checked checks_check a c with ⟨text, success, sent⟩ | ⟨failed, e, sent⟩
  · exact ⟨_, sent, success.symm⟩
  · exact ⟨_, sent, failed.symm⟩

end Exchange

/-! ## Logins -/

/-- The turns of a login that was completed. -/
inductive Login (credentials : Credentials) : List Turn → Prop
  | completed {granted accepted : Answer} {token : String} (grant : granted.token? = some token)
      (accept : accepted.success?.isSome) :
    Login credentials
      [⟨tokenAsk credentials, granted⟩, ⟨authenticateAsk credentials token, accepted⟩]

/-- The turns of a login that was not completed. -/
inductive FailedLogin (credentials : Credentials) : List Turn → Prop
  | ungranted {answer : Answer} (refusal : answer.token? = none) :
    FailedLogin credentials [⟨tokenAsk credentials, answer⟩]
  | unaccepted {granted answer : Answer} {token : String} (grant : granted.token? = some token)
      (refusal : answer.success? = none) :
    FailedLogin credentials
      [⟨tokenAsk credentials, granted⟩, ⟨authenticateAsk credentials token, answer⟩]

namespace Exchange

variable {script : Script} {c : Client}

/-- Asks for a token. -/
def grant (credentials : Credentials) : Exchange String := do
  let text ← send (tokenAsk credentials) >>= checkLogin
  decode tokenPath (Wire.envelope Wire.tokenFields.decode) text

theorem grant_cases (credentials : Credentials) (c : Client) :
    (∃ token, c.script.next.1.token? = some token ∧
        grant credentials c = (.ok token, c.asked (tokenAsk credentials))) ∨
      (c.script.next.1.token? = none ∧
        ∃ e, grant credentials c = (.error e, c.asked (tokenAsk credentials))) := by
  unfold grant Answer.token?
  rcases send_checked checks_checkLogin (tokenAsk credentials) c with
    ⟨text, success, sent⟩ | ⟨failed, e, sent⟩
  · rw [bind_ok sent, success, Option.bind_some]
    rcases decode_apply tokenPath (Wire.envelope Wire.tokenFields.decode) text
      (c.asked (tokenAsk credentials)) with ⟨token, read, decoded⟩ | ⟨part, read, decoded⟩
    · rw [read]
      exact .inl ⟨token, rfl, decoded⟩
    · rw [read]
      exact .inr ⟨rfl, _, decoded⟩
  · rw [bind_error sent, failed]
    exact .inr ⟨rfl, e, rfl⟩

theorem login_eq (c : Client) :
    login c = (grant c.credentials >>= fun token =>
      (send (authenticateAsk c.credentials token) >>= checkLogin) >>= fun _ =>
        setLoggedIn true) c := by
  unfold login grant
  rw [bind_apply]
  simp only [bind_assoc]
  rfl

/-- A login is completed, or else the client is left as logged in as it was. -/
theorem login_cases (follows : c.Follows script) :
    (∃ turns next, Login c.credentials turns ∧ c.Took script turns next ∧
        login c = (.ok (), next) ∧ next.loggedIn = true ∧ next.serial = c.serial) ∨
      ∃ turns next e, FailedLogin c.credentials turns ∧ c.Took script turns next ∧
        login c = (.error e, next) ∧ next.loggedIn = c.loggedIn ∧ next.serial = c.serial := by
  have first := follows.took_asked (tokenAsk c.credentials)
  rw [login_eq]
  rcases grant_cases c.credentials c with ⟨token, granted, asked⟩ | ⟨refusal, e, asked⟩
  · have second := first.trans (first.follows.took_asked (authenticateAsk c.credentials token))
    rw [bind_ok asked]
    rcases send_checked checks_checkLogin (authenticateAsk c.credentials token)
      (c.asked (tokenAsk c.credentials)) with ⟨text, success, sent⟩ | ⟨refusal, e, sent⟩
    · rw [bind_ok sent]
      exact .inl ⟨_, _, .completed granted (Option.isSome_of_mem success),
        second.setLoggedIn true, rfl, rfl, rfl⟩
    · rw [bind_error sent]
      exact .inr ⟨_, _, e, .unaccepted granted refusal, second, rfl, rfl, rfl⟩
  · rw [bind_error asked]
    exact .inr ⟨_, _, e, .ungranted refusal, first, rfl, rfl, rfl⟩

end Exchange

/-! ## Calls -/

/-- What sending the request of a call comes to, for a client that is logged in: the turns, the
body of the answer in the end, and whether the client is logged in still. -/
inductive Attempt (credentials : Credentials) (a : Ask) : List Turn → Option String → Bool → Prop
  | answered {answer : Answer} (h : ¬ answer.IsUnauthorized) :
    Attempt credentials a [⟨a, answer⟩] answer.success? true
  | repeated {expired again : Answer} {login : List Turn} (h : expired.IsUnauthorized)
      (completed : Login credentials login) :
    Attempt credentials a (⟨a, expired⟩ :: (login ++ [⟨a, again⟩])) again.success? true
  | expired {answer : Answer} {login : List Turn} (h : answer.IsUnauthorized)
      (failed : FailedLogin credentials login) :
    Attempt credentials a (⟨a, answer⟩ :: login) none false

/-- What a call comes to, for a client that is logged in or not. -/
inductive Called (credentials : Credentials) (a : Ask) :
    Bool → List Turn → Option String → Bool → Prop
  | ready {turns : List Turn} {body : Option String} {after : Bool}
      (attempt : Attempt credentials a turns body after) : Called credentials a true turns body after
  | admitted {login turns : List Turn} {body : Option String} {after : Bool}
      (completed : Login credentials login) (attempt : Attempt credentials a turns body after) :
    Called credentials a false (login ++ turns) body after
  | refused {login : List Turn} (failed : FailedLogin credentials login) :
    Called credentials a false login none false

namespace Exchange

variable {script : Script} {c : Client}

/-- What is left of a call once the client is logged in. -/
def attempt (a : Ask) : Exchange String := do
  let answer ← send a
  if answer.1 = unauthorized then
    setLoggedIn false
    login
    send a >>= check
  else check answer

theorem call_eq (a : Ask) (c : Client) :
    call a c = if c.loggedIn then attempt a c else (login >>= fun _ => attempt a) c := by
  unfold call
  rw [bind_apply]
  show (if (!c.loggedIn) = true then _ else _ : Exchange String) c = _
  cases c.loggedIn <;> rfl

theorem attempt_of_unauthorized (a : Ask) (h : c.script.next.1.IsUnauthorized) :
    attempt a c = (login >>= fun _ => send a >>= check)
      { c.asked a with loggedIn := false } := by
  obtain ⟨text, h⟩ := h
  have sent := send_apply a c
  rw [h] at sent
  unfold attempt
  rw [bind_ok sent]
  show (if unauthorized = unauthorized then _ else _ : Exchange String) _ = _
  rw [if_pos rfl]
  rfl

theorem attempt_of_not_unauthorized (a : Ask) (h : ¬ c.script.next.1.IsUnauthorized) :
    attempt a c = (send a >>= check) c := by
  unfold attempt
  have sent := send_apply a c
  cases answer : c.script.next.1 with
  | failure text =>
    rw [answer] at sent
    rw [bind_error sent, bind_error sent]
  | reply status text =>
    rw [answer] at sent
    rw [bind_ok sent, bind_ok sent]
    have other : ¬ status = unauthorized := fun same => h ⟨text, same ▸ answer⟩
    show (if status = unauthorized then _ else _ : Exchange String) _ = _
    rw [if_neg other]

theorem attempt_cases (follows : c.Follows script) (loggedIn : c.loggedIn = true) (a : Ask) :
    ∃ turns next result, attempt a c = (result, next) ∧ c.Took script turns next ∧
      next.serial = c.serial ∧
      Attempt c.credentials a turns result.toOption next.loggedIn := by
  have first := follows.took_asked a
  by_cases h : c.script.next.1.IsUnauthorized
  -- the client takes itself to be logged out before it tries a new login, which may fail
  · have expired := first.setLoggedIn false
    rw [attempt_of_unauthorized a h]
    rcases login_cases expired.follows with
      ⟨turns, next, completed, took, done, now, same⟩ | ⟨turns, next, e, failed, took, done, now, same⟩
    · obtain ⟨result, sent, body⟩ := send_check a next
      rw [bind_ok done]
      refine ⟨_, _, result, sent, expired.trans (took.trans (took.follows.took_asked a)), same, ?_⟩
      rw [body, show (next.asked a).loggedIn = true from now]
      exact .repeated h completed
    · rw [bind_error done]
      refine ⟨_, _, _, rfl, expired.trans took, same, ?_⟩
      rw [now]
      exact .expired h failed
  · obtain ⟨result, sent, body⟩ := send_check a c
    rw [attempt_of_not_unauthorized a h]
    refine ⟨_, _, result, sent, first, rfl, ?_⟩
    rw [body, show (c.asked a).loggedIn = true from loggedIn]
    exact .answered h

/-- Whatever a call comes to, it is one of those listed. -/
theorem call_cases (follows : c.Follows script) (a : Ask) :
    ∃ turns next result, call a c = (result, next) ∧ c.Took script turns next ∧
      next.serial = c.serial ∧
      Called c.credentials a c.loggedIn turns result.toOption next.loggedIn := by
  rw [call_eq]
  cases loggedIn : c.loggedIn with
  | true =>
    obtain ⟨turns, next, result, done, took, same, attempt⟩ := attempt_cases follows loggedIn a
    exact ⟨turns, next, result, done, took, same, .ready attempt⟩
  | false =>
    rw [if_neg Bool.false_ne_true]
    rcases login_cases follows with
      ⟨turns, mid, completed, took, done, now, same⟩ | ⟨turns, next, e, failed, took, done, now, same⟩
    · obtain ⟨more, next, result, ended, rest, kept, attempt⟩ := attempt_cases took.follows now a
      rw [took.credentials] at attempt
      rw [bind_ok done]
      exact ⟨_, next, result, ended, took.trans rest, kept.trans same, .admitted completed attempt⟩
    · rw [bind_error done]
      refine ⟨turns, next, _, rfl, took, same, ?_⟩
      rw [now, loggedIn]
      exact .refused failed

end Exchange

end HeatingHub

import HeatingHub.Proofs.Client.Transcript

/-!
# Calls with their results

`CallCourse` lists the courses that a call can take, with the requests that are sent and the result
that it has, be it an error. A client that is not logged in logs in first; and a request that is
answered 401 is sent once more, and not again, if a new login succeeds.
-/

namespace HeatingHub

open Exchange
open Json (Document)

/-! ## What answers come to -/

namespace Answer

/-- The body of an answer of success; of any other answer an error. -/
def accepted (refusal : Nat → String → ApiError) : Answer → Except ApiError String
  | reply status text => if isSuccess status then .ok text else .error (refusal status text)
  | failure text => .error (.transport text)

/-- What an answer to the request of a call comes to. -/
def outcome : Answer → Except ApiError String :=
  accepted fun status text => .http status (if text.isEmpty then "<no body>" else text)

/-- What an answer in a login comes to. -/
def admission : Answer → Except ApiError String :=
  accepted fun status text => .auth ("http " ++ toString status ++ ": " ++ text)

/-- The token that the answer grants, or why it grants none. -/
def granted (wording : Wording) (a : Answer) : Except ApiError String :=
  a.admission.bind (readBody wording tokenPath (Wire.envelope Wire.tokenFields.decode))

end Answer

/-! ## Courses -/

/-- The turns of a login, and its result. -/
inductive LoginCourse (wording : Wording) (credentials : Credentials) :
    List Turn → Except ApiError Unit → Prop
  | ungranted {answer : Answer} {e : ApiError} (refusal : answer.granted wording = .error e) :
    LoginCourse wording credentials [⟨tokenAsk credentials, answer⟩] (.error e)
  | unadmitted {first second : Answer} {token : String} {e : ApiError}
      (grant : first.granted wording = .ok token) (refusal : second.admission = .error e) :
    LoginCourse wording credentials
      [⟨tokenAsk credentials, first⟩, ⟨authenticateAsk credentials token, second⟩] (.error e)
  | admitted {first second : Answer} {token text : String}
      (grant : first.granted wording = .ok token) (admission : second.admission = .ok text) :
    LoginCourse wording credentials
      [⟨tokenAsk credentials, first⟩, ⟨authenticateAsk credentials token, second⟩] (.ok ())

/-- The turns of a client that is logged in and sends the request of a call, and the result. -/
inductive AttemptCourse (wording : Wording) (credentials : Credentials) (a : Ask) :
    List Turn → Except ApiError String → Prop
  | answered {answer : Answer} (h : ¬ answer.IsUnauthorized) :
    AttemptCourse wording credentials a [⟨a, answer⟩] answer.outcome
  | repeated {expired again : Answer} {login : List Turn} (h : expired.IsUnauthorized)
      (renewed : LoginCourse wording credentials login (.ok ())) :
    AttemptCourse wording credentials a (⟨a, expired⟩ :: (login ++ [⟨a, again⟩])) again.outcome
  | unrenewed {expired : Answer} {login : List Turn} {e : ApiError} (h : expired.IsUnauthorized)
      (failed : LoginCourse wording credentials login (.error e)) :
    AttemptCourse wording credentials a (⟨a, expired⟩ :: login) (.error e)

/-- The turns of a call, of a client that is logged in or not, and its result. -/
inductive CallCourse (wording : Wording) (credentials : Credentials) (a : Ask) :
    Bool → List Turn → Except ApiError String → Prop
  | ready {turns : List Turn} {result : Except ApiError String}
      (attempt : AttemptCourse wording credentials a turns result) :
    CallCourse wording credentials a true turns result
  | admitted {login turns : List Turn} {result : Except ApiError String}
      (first : LoginCourse wording credentials login (.ok ()))
      (attempt : AttemptCourse wording credentials a turns result) :
    CallCourse wording credentials a false (login ++ turns) result
  | refused {login : List Turn} {e : ApiError}
      (failed : LoginCourse wording credentials login (.error e)) :
    CallCourse wording credentials a false login (.error e)

section

variable {wording : Wording} {credentials : Credentials} {a : Ask} {turns : List Turn}
  {loggedIn : Bool} {result : Except ApiError String}

theorem LoginCourse.length_le {result : Except ApiError Unit}
    (course : LoginCourse wording credentials turns result) : turns.length ≤ 2 := by
  cases course <;> simp

theorem AttemptCourse.length_le (course : AttemptCourse wording credentials a turns result) :
    turns.length ≤ 4 := by
  cases course with
  | answered => simp
  | repeated _ renewed =>
    have := renewed.length_le
    simp
    omega
  | unrenewed _ failed =>
    have := failed.length_le
    simp
    omega

theorem CallCourse.length_le (course : CallCourse wording credentials a loggedIn turns result) :
    turns.length ≤ 6 := by
  cases course with
  | ready attempt =>
    have := attempt.length_le
    omega
  | admitted first attempt =>
    have := first.length_le
    have := attempt.length_le
    rw [List.length_append]
    omega
  | refused failed =>
    have := failed.length_le
    omega

end

/-! ## Turns of a client -/

/-- The requests with the answers that the script has for them. -/
def Script.turns (s : Script) (asks : List Ask) : List Turn :=
  asks.mapIdx fun n a => ⟨a, s.answer n⟩

theorem Script.turns_append (s : Script) (asks more : List Ask) :
    s.turns (asks ++ more) = s.turns asks ++ (s.drop asks.length).turns more := by
  unfold turns
  simp only [List.mapIdx_append, answer_drop, Nat.add_comm]

theorem Script.turns_concat (s : Script) (asks : List Ask) (a : Ask) :
    s.turns (asks ++ [a]) = s.turns asks ++ [⟨a, s.answer asks.length⟩] := List.mapIdx_concat

/-- The client when the requests have been answered; it then takes itself to be logged in or not. -/
def Client.after (c : Client) (asks : List Ask) (loggedIn : Bool) : Client :=
  { c with script := c.script.drop asks.length, sent := c.sent ++ asks, loggedIn }

namespace Client

theorem asked_eq (c : Client) (a : Ask) : c.asked a = c.after [a] c.loggedIn := by
  unfold asked after
  rw [Script.next_eq]
  rfl

theorem after_after (c : Client) (asks more : List Ask) (before loggedIn : Bool) :
    (c.after asks before).after more loggedIn = c.after (asks ++ more) loggedIn := by
  unfold after
  simp only [Script.drop_drop, List.append_assoc, List.length_append]

theorem next_after (c : Client) (asks : List Ask) (loggedIn : Bool) :
    (c.after asks loggedIn).script.next.1 = c.script.answer asks.length :=
  congrArg Prod.fst (c.script.next_drop asks.length)

end Client

/-! ## Courses of a client -/

namespace Exchange

theorem send_accepted {f : Nat × String → Exchange String} {refusal : Nat → String → ApiError}
    (h : ∀ status text,
      f (status, text) = if isSuccess status then pure text else throw (refusal status text))
    (a : Ask) (c : Client) :
    (send a >>= f) c = (c.script.next.1.accepted refusal, c.asked a) := by
  have sent := send_apply a c
  cases answer : c.script.next.1 with
  | failure text =>
    rw [answer] at sent
    exact bind_error sent f
  | reply status text =>
    rw [answer] at sent
    rw [bind_ok sent, h]
    show _ = (if isSuccess status then Except.ok text else Except.error _, c.asked a)
    by_cases success : isSuccess status = true
    · rw [if_pos success, if_pos success]
      rfl
    · rw [if_neg success, if_neg success]
      rfl

theorem send_check_eq (a : Ask) (c : Client) :
    (send a >>= check) c = (c.script.next.1.outcome, c.asked a) :=
  send_accepted (fun _ _ => rfl) a c

theorem send_checkLogin_eq (a : Ask) (c : Client) :
    (send a >>= checkLogin) c = (c.script.next.1.admission, c.asked a) :=
  send_accepted (fun _ _ => rfl) a c

theorem grant_eq (credentials : Credentials) (c : Client) :
    grant credentials c =
      (c.script.next.1.granted c.script.wording, c.asked (tokenAsk credentials)) := by
  have sent := send_checkLogin_eq (tokenAsk credentials) c
  unfold grant Answer.granted
  cases admission : c.script.next.1.admission with
  | error e =>
    rw [admission] at sent
    exact bind_error sent _
  | ok text =>
    rw [admission] at sent
    have wording : (c.asked (tokenAsk credentials)).script.wording = c.script.wording :=
      c.script.wording_next
    rw [bind_ok sent, decode, wording]
    rfl

theorem login_course (c : Client) : ∃ asks result loggedIn,
    login c = (result, c.after asks loggedIn) ∧
      LoginCourse c.script.wording c.credentials (c.script.turns asks) result := by
  have asked := grant_eq c.credentials c
  rw [Client.asked_eq, Script.next_eq] at asked
  rw [login_eq]
  cases grant : (c.script.answer 0).granted c.script.wording with
  | error e =>
    rw [grant] at asked
    exact ⟨_, _, _, bind_error asked _, .ungranted grant⟩
  | ok token =>
    rw [grant] at asked
    have sent := send_checkLogin_eq (authenticateAsk c.credentials token)
      (c.after [tokenAsk c.credentials] c.loggedIn)
    rw [Client.next_after, List.length_singleton, Client.asked_eq, Client.after_after] at sent
    rw [bind_ok asked]
    cases admission : (c.script.answer 1).admission with
    | error e =>
      rw [admission] at sent
      exact ⟨_, _, _, bind_error sent _, .unadmitted grant admission⟩
    | ok text =>
      rw [admission] at sent
      rw [bind_ok sent]
      exact ⟨[_, _], .ok (), true, rfl, .admitted grant admission⟩

theorem attempt_course (a : Ask) (c : Client) : ∃ asks result loggedIn,
    attempt a c = (result, c.after asks loggedIn) ∧
      AttemptCourse c.script.wording c.credentials a (c.script.turns asks) result := by
  by_cases h : c.script.next.1.IsUnauthorized
  · rw [attempt_of_unauthorized a h, Client.asked_eq]
    show ∃ asks result loggedIn, (login >>= fun _ => send a >>= check) (c.after [a] false) = _ ∧ _
    obtain ⟨asks, result, loggedIn, done, course⟩ := login_course (c.after [a] false)
    rw [Client.after_after] at done
    have turns (more : List Ask) : c.script.turns ([a] ++ more) =
        ⟨a, c.script.answer 0⟩ :: (c.script.drop 1).turns more := c.script.turns_append [a] more
    rw [Script.next_eq] at h
    cases result with
    | error e =>
      refine ⟨_, _, _, bind_error done _, ?_⟩
      rw [turns]
      exact .unrenewed h course
    | ok _ =>
      have sent := send_check_eq a (c.after ([a] ++ asks) loggedIn)
      rw [Client.next_after, Client.asked_eq, Client.after_after] at sent
      rw [bind_ok done]
      refine ⟨_, _, _, sent, ?_⟩
      rw [Script.turns_concat, turns]
      exact .repeated h course
  · rw [attempt_of_not_unauthorized a h, send_check_eq, Client.asked_eq]
    rw [Script.next_eq] at h ⊢
    exact ⟨_, _, _, rfl, .answered h⟩

theorem call_course (c : Client) (a : Ask) : ∃ asks result loggedIn,
    call a c = (result, c.after asks loggedIn) ∧
      CallCourse c.script.wording c.credentials a c.loggedIn (c.script.turns asks) result := by
  rw [call_eq]
  cases c.loggedIn with
  | true =>
    obtain ⟨asks, result, loggedIn, done, course⟩ := attempt_course a c
    exact ⟨asks, result, loggedIn, done, .ready course⟩
  | false =>
    rw [if_neg Bool.false_ne_true]
    obtain ⟨asks, result, loggedIn, done, first⟩ := login_course c
    cases result with
    | error e => exact ⟨asks, _, _, bind_error done _, .refused first⟩
    | ok _ =>
      obtain ⟨more, result, after, ended, course⟩ := attempt_course a (c.after asks loggedIn)
      rw [Client.after_after] at ended
      refine ⟨asks ++ more, result, after, (bind_ok done _).trans ended, ?_⟩
      rw [Script.turns_append]
      exact .admitted first course

/-- Of the courses that there are a call takes the one that its answers say. It sends six requests
at most. -/
theorem call_retries_once (c : Client) (a : Ask) : ∃ asks result loggedIn,
    call a c = (result, c.after asks loggedIn) ∧
      CallCourse c.script.wording c.credentials a c.loggedIn (c.script.turns asks) result ∧ asks.length ≤ 6 := by
  obtain ⟨asks, result, loggedIn, done, course⟩ := call_course c a
  have six := course.length_le
  rw [Script.turns, List.length_mapIdx] at six
  exact ⟨asks, result, loggedIn, done, course, six⟩

end Exchange

end HeatingHub

import HeatingHub.Proofs.Client.Run
import HeatingHub.Proofs.Hub.Lockstep

/-!
# What a client sends

Besides the requests by which a client logs in and out and reads an installation, a session sends
only those of the calls it is asked for (`Ask.Serves`). The hub asks for the calls of its plan, so
from a request that was sent one gets back to a call that was planned.
-/

namespace HeatingHub

open Calendar (Moment)
open Exchange
open Json (Decoder)

/-! ## Requests and the calls behind them -/

/-- The requests of a session that makes none but some calls. -/
inductive Ask.Serves (allowed : Call → Prop) : Ask → Prop
  | account {a : Ask} (h : a.OfAccount) : Serves allowed a
  | facilities : Serves allowed facilitiesAsk
  | update (facility : String) :
    Serves allowed (toFacility ⟨.put, "/hvacstate/v1/hvacMessages/update", none⟩ facility)
  | read (path facility : String) : Serves allowed (toFacility ⟨.get, path, none⟩ facility)
  | call {c : Call} (h : allowed c) (facility : String) : Serves allowed (c.ask.toFacility facility)

/-- The client has sent no other requests. -/
def Client.Only (allowed : Call → Prop) (c : Client) : Prop := ∀ a ∈ c.sent, a.Serves allowed

theorem only_new (allowed : Call → Prop) (credentials : Credentials) (serial : Option String)
    (script : Script) : (Client.new credentials serial script).Only allowed :=
  List.forall_mem_nil _

theorem Client.Only.asked {allowed : Call → Prop} {c : Client} {a : Ask} (only : c.Only allowed)
    (h : a.Serves allowed) : (c.asked a).Only allowed := by
  show ∀ b ∈ c.sent ++ [a], b.Serves allowed
  rw [List.forall_mem_append, List.forall_mem_singleton]
  exact ⟨only, h⟩

/-! ## Exchanges -/

namespace Exchange

variable {allowed : Call → Prop} {a : Ask}

theorem keeps_checked {P : Client → Prop} {f : Nat × String → Exchange String} (checks : Checks f)
    (answer : Nat × String) : Keeps P (f answer) := by
  obtain ⟨status, text⟩ := answer
  rcases checks status text with ⟨-, body⟩ | ⟨-, e, error⟩
  · rw [body]
    exact keeps_pure _
  · rw [error]
    exact keeps_throw e

theorem keeps_send (h : a.Serves allowed) : Keeps (Client.Only allowed) (send a) := by
  intro c only
  rw [send_apply]
  exact only.asked h

theorem keeps_setLoggedIn (loggedIn : Bool) :
    Keeps (Client.Only allowed) (setLoggedIn loggedIn) := fun _ only => only

theorem keeps_login : Keeps (Client.Only allowed) login := by
  intro c only
  rw [login_eq]
  refine Keeps.bind ?_ (fun token => ?_) c only
  · refine ((keeps_send (.account (.inl rfl))).bind ?_).bind fun text => keeps_decode _ _ text
    exact keeps_checked checks_checkLogin
  · refine ((keeps_send (.account (.inr (.inl rfl)))).bind ?_).bind fun _ => keeps_setLoggedIn true
    exact keeps_checked checks_checkLogin

theorem keeps_attempt (h : a.Serves allowed) : Keeps (Client.Only allowed) (attempt a) := by
  refine (keeps_send h).bind fun answer => ?_
  split
  · refine (keeps_setLoggedIn false).bind fun _ => keeps_login.bind fun _ => ?_
    exact (keeps_send h).bind (keeps_checked checks_check)
  · exact keeps_checked checks_check answer

theorem keeps_call (h : a.Serves allowed) : Keeps (Client.Only allowed) (call a) := by
  intro c only
  rw [call_eq]
  split
  · exact keeps_attempt h c only
  · exact keeps_login.bind (fun _ => keeps_attempt h) c only

theorem keeps_facilityCall (h : ∀ facility, (a.toFacility facility).Serves allowed) :
    Keeps (Client.Only allowed) (facilityCall a.method a.path a.body) :=
  (keeps_serial (keeps_call .facilities) fun _ _ only => only).bind fun facility =>
    keeps_call (h facility)

theorem keeps_read {α : Type} (path : String) (decoder : Decoder α) :
    Keeps (Client.Only allowed) (read path decoder) :=
  (keeps_facilityCall (.read path)).bind fun text => keeps_decode _ _ text

theorem keeps_fetch : Keeps (Client.Only allowed) fetch :=
  (keeps_read _ _).bind fun control =>
  (keeps_read _ _).bind fun rooms =>
  (keeps_read _ _).bind fun liveReport =>
  (keeps_read _ _).bind fun hvacStates => by
    cases Wire.assemble ⟨control, rooms, liveReport, hvacStates⟩ with
    | ok i => exact keeps_pure i
    | error e => exact keeps_throw _

theorem keeps_logout : Keeps (Client.Only allowed) logout := by
  intro c only
  have asked : (c.asked logoutAsk).Only allowed := only.asked (.account (.inr (.inr rfl)))
  rcases logout_cases c with ⟨-, done⟩ | done <;> rw [done] <;> exact asked

end Exchange

/-! ## Sessions -/

/-- The property of the remote state is kept, if no other calls are made than those allowed. -/
structure Session.Keeps {σ : Type} (session : Session σ) (P : σ → Prop) (allowed : Call → Prop) :
    Prop where
  perform {call : Call} (h : allowed call) (s : σ) : P s → P (session.perform call s).2
  requestUpdate (s : σ) : P s → P (session.requestUpdate s).2
  fetch (s : σ) : P s → P (session.fetch s).2
  logout (s : σ) : P s → P (session.logout s).2

theorem clientSession_keeps (allowed : Call → Prop) :
    clientSession.Keeps (Client.Only allowed) allowed where
  perform h c only :=
    (keeps_facilityCall (.call h)).bind (fun _ => keeps_pure ()) c only
  requestUpdate c only := (keeps_facilityCall .update).bind (fun _ => keeps_pure ()) c only
  fetch c only := keeps_fetch c only
  logout c only := keeps_logout c only

namespace Site

variable {σ : Type} {session : Session σ} {P : σ → Prop} {allowed : Call → Prop} {site : Site σ}

theorem remote_announcing (calls : List Call) (entity : Option String)
    (outcome : Except HubError Unit) (site : Site σ) :
    (announcing calls entity outcome site).2.remote = site.remote := by
  cases outcome <;> rfl

theorem remote_answering (c : Command) (outcome : Except HubError Bool) (site : Site σ) :
    (answering c outcome site).2.remote = site.remote := by
  cases outcome <;> rfl

variable (kept : session.Keeps P allowed)

include kept

theorem kept_refresh (h : P site.remote) : P (site.refresh session).2.remote := by
  have asked := kept.requestUpdate _ h
  rcases hu : session.requestUpdate site.remote with ⟨e | _, remote⟩ <;> rw [hu] at asked
  · rw [refresh_unasked hu]
    exact asked
  · have fetched := kept.fetch _ asked
    rcases hf : session.fetch remote with ⟨e | i, last⟩ <;> rw [hf] at fetched
    · rw [refresh_unfetched hu hf]
      exact fetched
    · rw [refresh_fetched hu hf]
      exact fetched

theorem kept_update (h : P site.remote) (instant : Int) :
    P (site.update session instant).2.remote := by
  unfold update
  rcases site.hub.throttle.tryAcquire instant with ⟨_ | _, throttle⟩
  · exact h
  · exact kept_refresh kept h

theorem kept_tick (h : P site.remote) (instant : Int) : P (site.tick session instant).2.remote := by
  have updated := kept_update kept h instant
  unfold tick
  rcases hu : site.update session instant with ⟨_ | _, next⟩ <;> rw [hu] at updated
  · exact updated
  · exact updated

theorem kept_carryOut {calls : List Call} (all : ∀ call ∈ calls, allowed call)
    (h : P site.remote) : P (carryOut session calls site).2.remote := by
  induction calls generalizing site with
  | nil => exact h
  | cons call calls ih =>
    rw [List.forall_mem_cons] at all
    have performed := kept.perform all.1 _ h
    rcases hp : session.perform call site.remote with ⟨e | _, remote⟩ <;> rw [hp] at performed
    · rw [carryOut_cons_error hp]
      exact performed
    · rw [carryOut_cons_ok hp]
      exact ih all.2 performed

theorem kept_submit {now : Moment} {request : Request}
    (all : ∀ calls, site.hub.plan now request = .ok calls → ∀ call ∈ calls, allowed call)
    (h : P site.remote) : P (site.submit session now request).2.remote := by
  rw [submit_eq]
  cases planned : site.hub.plan now request with
  | error e => exact h
  | ok calls =>
    show P (announcing calls _ _ _).2.remote
    rw [remote_announcing]
    exact kept_carryOut kept (all calls planned) h

/-- A command makes the calls of its plan. -/
theorem kept_execute {now : Moment} {c : Command}
    (all : ∀ request calls, c.request? = some request → site.hub.plan now request = .ok calls →
      ∀ call ∈ calls, allowed call)
    (h : P site.remote) : P (site.execute session now c).2.remote := by
  rw [execute_eq]
  cases asks : c.request? with
  | none => exact h
  | some request =>
    show P (answering c _ _).2.remote
    rw [remote_answering]
    exact kept_submit kept (all request · asks) h

theorem kept_logout (h : P site.remote) : P (site.logout session).2.remote := by
  have left := kept.logout _ h
  rcases hl : session.logout site.remote with ⟨outcome, remote⟩
  rw [hl] at left
  rw [logout_snd hl]
  exact left

end Site

end HeatingHub

import HeatingHub.Proofs.Client.Lockstep
import HeatingHub.Proofs.Hub.Refresh

/-!
# Hubs in lockstep

Two hubs that know the same and whose sessions go in lockstep do the same: what a hub does next
depends on its session through the results of its calls alone.
-/

namespace HeatingHub

open Calendar (Moment)

/-- The sessions go in lockstep, whatever the hub has them do. -/
structure Session.InLockstep {σ : Type} (session : Session σ) (R : σ → σ → Prop)
    (lost : σ → Prop) : Prop where
  perform (call : Call) : Lockstep R lost (session.perform call)
  requestUpdate : Lockstep R lost session.requestUpdate
  fetch : Lockstep R lost session.fetch

theorem Twins.inLockstep {R : Client → Client → Prop} {lost : Client → Prop}
    (twins : Twins R lost) : clientSession.InLockstep R lost :=
  ⟨twins.perform, twins.requestUpdate, twins.fetch⟩

/-! ## Sites side by side -/

/-- The same hub with the same log, the sessions related. -/
structure Site.Alongside {σ : Type} (R : σ → σ → Prop) (s t : Site σ) : Prop where
  hub : t.hub = s.hub
  log : t.log = s.log
  remote : R s.remote t.remote

/-- Sites go in lockstep, up to the point where the session of the first is lost. -/
abbrev Site.Lockstep {σ β : Type} (R : σ → σ → Prop) (lost : σ → Prop)
    (f : Site σ → β × Site σ) : Prop :=
  HeatingHub.Lockstep (Alongside R) (fun site => lost site.remote) f

/-- Has the session do something; the hub and its log stay as they are. -/
def Site.exchanging {σ β : Type} (f : σ → β × σ) (site : Site σ) : β × Site σ :=
  ((f site.remote).1, { site with remote := (f site.remote).2 })

namespace Site

variable {σ β : Type} {R : σ → σ → Prop} {lost : σ → Prop} {session : Session σ}

theorem lockstep_exchanging {f : σ → β × σ} (steps : HeatingHub.Lockstep R lost f) :
    Lockstep R lost (exchanging f) where
  together alongside := by
    refine (steps.together alongside.remote).imp_right fun ⟨same, related⟩ => ⟨same, ?_⟩
    exact ⟨alongside.hub, alongside.log, related⟩
  lost gone := steps.lost gone

/-- What is done to the hub and its log, without the session. -/
theorem lockstep_edit (value : Hub → β) (hub : Hub → Hub) (log : Hub → List Event) :
    Lockstep R lost fun site =>
      (value site.hub, ⟨hub site.hub, site.remote, site.log ++ log site.hub⟩) where
  together {s t} alongside := by
    refine .inr ⟨congrArg value alongside.hub, congrArg hub alongside.hub, ?_, alongside.remote⟩
    show t.log ++ log t.hub = s.log ++ log s.hub
    rw [alongside.hub, alongside.log]
  lost gone := gone

/-- What is done may depend on what the hub knows. -/
theorem lockstep_knowing {f : Hub → Site σ → β × Site σ} (each : ∀ hub, Lockstep R lost (f hub)) :
    Lockstep R lost fun site => f site.hub site :=
  .depending (fun alongside => alongside.hub) each

/-! ## Refreshing -/

/-- The end of a refresh, by what was fetched. -/
def received : Except ApiError Installation → Site σ → Bool × Site σ
  | .ok i, site => (true, ⟨site.hub.loading i, site.remote, site.log ++ fetching i⟩)
  | .error e, site => (false, ⟨{ site.hub with refreshFailed := true }, site.remote,
      site.log ++ [.updateRequested (.ok ()), .fetched (.error e)]⟩)

/-- A refresh once the installation was asked to report. -/
def receiving (session : Session σ) : Except ApiError Unit → Site σ → Bool × Site σ
  | .ok _, site => received (exchanging session.fetch site).1 (exchanging session.fetch site).2
  | .error e, site => (false, ⟨{ site.hub with refreshFailed := true }, site.remote,
      site.log ++ [.updateRequested (.error e)]⟩)

theorem refresh_eq (session : Session σ) (site : Site σ) : site.refresh session =
    receiving session (exchanging session.requestUpdate site).1
      (exchanging session.requestUpdate site).2 := by
  unfold exchanging
  rcases hu : session.requestUpdate site.remote with ⟨e | _, asked⟩
  · rw [refresh_unasked hu]
    rfl
  · show _ = received (session.fetch asked).1 { site with remote := (session.fetch asked).2 }
    rcases hf : session.fetch asked with ⟨e | i, remote⟩
    · rw [refresh_unfetched hu hf, List.append_assoc]
      rfl
    · rw [refresh_fetched hu hf, List.append_assoc]
      rfl

theorem lockstep_refresh (steps : session.InLockstep R lost) :
    Lockstep R lost (refresh session) := by
  rw [funext (refresh_eq session)]
  refine (lockstep_exchanging steps.requestUpdate).andThen fun asked => ?_
  cases asked with
  | error e =>
    exact lockstep_edit (fun _ => false) (fun hub => { hub with refreshFailed := true }) fun _ => _
  | ok _ =>
    refine (lockstep_exchanging steps.fetch).andThen (g := received) fun fetched => ?_
    cases fetched with
    | error e =>
      exact lockstep_edit (fun _ => false) (fun hub => { hub with refreshFailed := true }) fun _ => _
    | ok i => exact lockstep_edit (fun _ => true) (·.loading i) fun _ => _

theorem lockstep_update (steps : session.InLockstep R lost) (instant : Int) :
    Lockstep R lost (update session instant) where
  together {s t} alongside := by
    unfold update
    rw [alongside.hub]
    rcases s.hub.throttle.tryAcquire instant with ⟨_ | _, throttle⟩
    · exact .inr ⟨rfl, alongside⟩
    · exact (lockstep_refresh steps).together ⟨rfl, alongside.log, alongside.remote⟩
  lost {s} gone := by
    unfold update
    rcases s.hub.throttle.tryAcquire instant with ⟨_ | _, throttle⟩
    · exact gone
    · exact (lockstep_refresh steps).lost gone

/-! ## Requests and commands -/

/-- Calls after the first of them, by its outcome. -/
def carrying (session : Session σ) (call : Call) (calls : List Call) :
    Except ApiError Unit → Site σ → Except HubError Unit × Site σ
  | .ok _, site => carryOut session calls
      ⟨site.hub.patched [call], site.remote, site.log ++ [.done call]⟩
  | .error e, site =>
    (.error (.api e), ⟨site.hub, site.remote, site.log ++ [.called call (.error e)]⟩)

theorem carryOut_cons_eq (session : Session σ) (call : Call) (calls : List Call) (site : Site σ) :
    carryOut session (call :: calls) site =
      carrying session call calls (exchanging (session.perform call) site).1
        (exchanging (session.perform call) site).2 := by
  unfold exchanging
  rcases hp : session.perform call site.remote with ⟨e | _, remote⟩
  · exact carryOut_cons_error hp calls
  · exact carryOut_cons_ok hp calls

theorem lockstep_carryOut (steps : session.InLockstep R lost) (calls : List Call) :
    Lockstep R lost (carryOut session calls) := by
  induction calls with
  | nil => exact .result (Except.ok ())
  | cons call calls ih =>
    rw [funext (carryOut_cons_eq session call calls)]
    refine (lockstep_exchanging (steps.perform call)).andThen fun outcome => ?_
    cases outcome with
    | error e =>
      exact lockstep_edit (fun _ => Except.error (HubError.api e)) id fun _ => [.called call (.error e)]
    | ok _ =>
      exact (lockstep_edit (fun _ => ()) (·.patched [call]) fun _ => [.done call]).andThen fun _ => ih

/-- The end of a request, by how its calls ended. -/
def announcing (calls : List Call) (entity : Option String) :
    Except HubError Unit → Site σ → Except HubError Bool × Site σ
  | .ok _, site => (.ok !calls.isEmpty, site.schedule (site.hub.affected calls entity))
  | .error e, site => (.error e, site)

/-- A request by what is planned for it. -/
def meeting (session : Session σ) (request : Request) :
    Except HubError (List Call) → Site σ → Except HubError Bool × Site σ
  | .ok calls, site => announcing calls request.entity? (carryOut session calls site).1
      (carryOut session calls site).2
  | .error e, site => (.error e, site)

theorem submit_eq (session : Session σ) (now : Moment) (request : Request) (site : Site σ) :
    site.submit session now request = meeting session request (site.hub.plan now request) site := by
  unfold submit
  cases site.hub.plan now request with
  | error e => rfl
  | ok calls =>
    simp only [meeting]
    rcases carryOut session calls site with ⟨_ | _, _⟩ <;> rfl

theorem lockstep_submit (steps : session.InLockstep R lost) (now : Moment) (request : Request) :
    Lockstep R lost (submit session now request) := by
  rw [funext (submit_eq session now request)]
  refine lockstep_knowing (f := fun hub => meeting session request (hub.plan now request)) ?_
  intro hub
  cases hub.plan now request with
  | error e => exact .result (Except.error e)
  | ok calls =>
    refine (lockstep_carryOut steps calls).andThen (g := announcing _ _) fun outcome => ?_
    cases outcome with
    | error e => exact .result (Except.error e)
    | ok _ => exact lockstep_edit (fun _ => Except.ok _) id fun hub =>
        (hub.affected calls request.entity?).map .scheduled

/-- The answer to a command, by how its request ended. -/
def answering (c : Command) : Except HubError Bool → Site σ → Except HubError String × Site σ
  | .ok done, site => (.ok (c.answer done), site)
  | .error e, site => (.error e, site)

theorem execute_eq (session : Session σ) (now : Moment) (c : Command) (site : Site σ) :
    site.execute session now c = match c.request? with
      | none => (site.hub.status now, site)
      | some request => answering c (site.submit session now request).1
          (site.submit session now request).2 := by
  unfold execute
  cases c.request? with
  | none => rfl
  | some request =>
    simp only
    rcases site.submit session now request with ⟨_ | _, _⟩ <;> rfl

theorem lockstep_execute (steps : session.InLockstep R lost) (now : Moment) (c : Command) :
    Lockstep R lost (execute session now c) := by
  rw [funext (execute_eq session now c)]
  cases c.request? with
  | none =>
    exact lockstep_knowing (f := fun hub site => (hub.status now, site)) fun hub =>
      .result (hub.status now)
  | some request =>
    refine (lockstep_submit steps now request).andThen (g := answering c) fun outcome => ?_
    cases outcome with
    | ok done => exact .result (Except.ok (c.answer done))
    | error e => exact .result (Except.error e)

end Site

end HeatingHub

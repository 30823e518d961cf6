import HeatingHub.Hub.Request

/-!
# Running the hub

A `Site` is a hub together with the session it holds and a log of what was done. A request is
carried out call by call, and the snapshot is patched after each call that succeeded. The first call
that fails ends the request: what succeeded before stays, and nothing is scheduled.
-/

namespace HeatingHub

open Calendar (Moment)

/-! ## Sites -/

/-- Something the hub did. -/
inductive Event where
  | called (call : Call) (outcome : Except ApiError Unit)
  | updateRequested (outcome : Except ApiError Unit)
  | fetched (outcome : Except ApiError Installation)
  | loggedOut (outcome : Except ApiError Unit)
  /-- An entity is to be rendered again. -/
  | scheduled (entity : String)

/-- The failure that is worth a line in the program's log. -/
def Event.failure? : Event → Option String
  | updateRequested (.error e) | fetched (.error e) =>
    some ("Cannot update system, keeping previous snapshot: " ++ e.message)
  | loggedOut (.error e) => some ("Cannot logout: " ++ e.message)
  | _ => none

structure Site (σ : Type) where
  hub : Hub
  remote : σ
  log : List Event

namespace Site

variable {σ : Type}

def new (hub : Hub) (remote : σ) : Site σ := ⟨hub, remote, []⟩

/-- Asks for entities to be rendered again. -/
def schedule (site : Site σ) (entities : List String) : Site σ :=
  { site with log := site.log ++ entities.map .scheduled }

/-! ## Refreshing -/

/-- Fetches the installation. A failure leaves snapshot and registry as they are. -/
def refresh (session : Session σ) (site : Site σ) : Bool × Site σ :=
  let failed (site : Site σ) : Bool × Site σ :=
    (false, { site with hub := { site.hub with refreshFailed := true } })
  match session.requestUpdate site.remote with
  | (.error e, remote) =>
    failed { site with remote, log := site.log ++ [.updateRequested (.error e)] }
  | (.ok (), remote) =>
    let log := site.log ++ [.updateRequested (.ok ())]
    match session.fetch remote with
    | (.error e, remote) => failed { site with remote, log := log ++ [.fetched (.error e)] }
    | (.ok i, remote) =>
      let hub := { site.hub with
        snapshot := site.hub.snapshot.replace i
        registry := (site.hub.registry.sync i).2
        refreshFailed := false }
      (true, ⟨hub, remote, log ++ [.fetched (.ok i)]⟩)

/-- Refreshes unless that was done too shortly before; true if an installation was loaded. A refresh
that fails counts for the throttle. -/
def update (session : Session σ) (instant : Int) (site : Site σ) : Bool × Site σ :=
  match site.hub.throttle.tryAcquire instant with
  | (false, _) => (false, site)
  | (true, throttle) => refresh session { site with hub := { site.hub with throttle } }

/-- Has every entity rendered again. -/
def notifyAll (site : Site σ) : Site σ := site.schedule site.hub.registry.ids

/-- One round of polling; a summary if an installation was loaded. -/
def tick (session : Session σ) (instant : Int) (site : Site σ) : Option String × Site σ :=
  match site.update session instant with
  | (false, site) => (none, site)
  | (true, site) => (site.hub.snapshot.installation.map (·.summary), site.notifyAll)

/-! ## Requests -/

/-- Carries out calls in order, up to the first that fails. -/
def carryOut (session : Session σ) : List Call → Site σ → Except HubError Unit × Site σ
  | [], site => (.ok (), site)
  | call :: rest, site =>
    match session.perform call site.remote with
    | (.ok (), remote) =>
      let hub := { site.hub with snapshot := (site.hub.snapshot.apply call.patch).2 }
      carryOut session rest ⟨hub, remote, site.log ++ [.called call (.ok ())]⟩
    | (.error e, remote) =>
      (.error (.api e), { site with remote, log := site.log ++ [.called call (.error e)] })

/-- Meets a request; true if a call was made. -/
def submit (session : Session σ) (now : Moment) (request : Request) (site : Site σ) :
    Except HubError Bool × Site σ :=
  match site.hub.plan now request with
  | .error e => (.error e, site)
  | .ok calls =>
    match carryOut session calls site with
    | (.error e, site) => (.error e, site)
    | (.ok (), site) =>
      (.ok !calls.isEmpty, site.schedule (site.hub.affected calls request.entity?))

/-- Removes the override that hides changes of components of the kind; true if there was one. -/
def clearOverrides (session : Session σ) (now : Moment) (kind : Kind) (site : Site σ) :
    Except HubError Bool × Site σ :=
  match site.hub.installation with
  | .error e => (.error e, site)
  | .ok i =>
    let conflict := i.conflict kind now.date
    match carryOut session conflict.toList site with
    | (.error e, site) => (.error e, site)
    | (.ok (), site) => (.ok conflict.isSome, site)

/-- Takes an entity out of the registry. -/
def unregister (entity : String) (site : Site σ) : Option Handle × Site σ :=
  (site.hub.registry.get? entity,
    { site with hub := { site.hub with registry := site.hub.registry.unregister entity } })

/-- Ends the session; true if the API agreed. -/
def logout (session : Session σ) (site : Site σ) : Bool × Site σ :=
  match session.logout site.remote with
  | (.ok (), remote) => (true, { site with remote, log := site.log ++ [.loggedOut (.ok ())] })
  | (.error e, remote) => (false, { site with remote, log := site.log ++ [.loggedOut (.error e)] })

end Site

end HeatingHub

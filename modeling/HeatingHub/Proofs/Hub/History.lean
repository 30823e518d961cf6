import HeatingHub.Proofs.Hub.Operation

/-!
# Runs and what a session records

A run is any sequence of the steps that a hub can take. `Session.recorded` has a session write down
what it was asked and what came of it; it changes nothing else (`run_recorded`), and what it writes
is what the hub logs. A trace is such a record, and facts about runs are stated over traces.
-/

namespace HeatingHub

open Calendar (Moment)

/-! ## Steps -/

/-- Something that a host has a hub do. -/
inductive Step where
  | update (instant : Int)
  | tick (instant : Int)
  | notifyAll
  | operate (now : Moment) (op : Operation)
  | unregister (entity : String)
  | logout

namespace Site

variable {σ : Type}

def step (session : Session σ) (site : Site σ) : Step → Site σ
  | .update instant => (site.update session instant).2
  | .tick instant => (site.tick session instant).2
  | .notifyAll => site.notifyAll
  | .operate now op => (site.operate session now op).2
  | .unregister entity => (site.unregister entity).2
  | .logout => (site.logout session).2

def run (session : Session σ) (steps : List Step) (site : Site σ) : Site σ :=
  steps.foldl (step session) site

/-- What every step keeps holds after every run. -/
theorem run_invariant {session : Session σ} {P : Site σ → Prop}
    (keeps : ∀ site step, P site → P (site.step session step)) (steps : List Step) {site : Site σ}
    (start : P site) : P (site.run session steps) := by
  induction steps generalizing site with
  | nil => exact start
  | cons step steps ih => exact ih (keeps site step start)

end Site

/-! ## Refreshing and logging out -/

/-- The hub once it fetched the installation. -/
def Hub.loading (h : Hub) (i : Installation) : Hub :=
  { h with
    snapshot := h.snapshot.replace i
    registry := (h.registry.sync i).2
    refreshFailed := false }

namespace Site

variable {σ : Type} {session : Session σ} {site : Site σ} {asked remote : σ}

theorem refresh_unasked {e : ApiError}
    (hu : session.requestUpdate site.remote = (.error e, remote)) :
    site.refresh session = (false, ⟨{ site.hub with refreshFailed := true }, remote,
      site.log ++ [.updateRequested (.error e)]⟩) := by
  simp only [refresh, hu]

theorem refresh_unfetched {e : ApiError}
    (hu : session.requestUpdate site.remote = (.ok (), asked))
    (hf : session.fetch asked = (.error e, remote)) :
    site.refresh session = (false, ⟨{ site.hub with refreshFailed := true }, remote,
      site.log ++ [.updateRequested (.ok ())] ++ [.fetched (.error e)]⟩) := by
  simp only [refresh, hu, hf]

theorem refresh_fetched {i : Installation}
    (hu : session.requestUpdate site.remote = (.ok (), asked))
    (hf : session.fetch asked = (.ok i, remote)) :
    site.refresh session = (true, ⟨site.hub.loading i, remote,
      site.log ++ [.updateRequested (.ok ())] ++ [.fetched (.ok i)]⟩) := by
  simp only [refresh, hu, hf]
  rfl

theorem logout_snd {outcome : Except ApiError Unit}
    (hl : session.logout site.remote = (outcome, remote)) :
    (site.logout session).2 = ⟨site.hub, remote, site.log ++ [.loggedOut outcome]⟩ := by
  unfold logout
  rw [hl]
  cases outcome <;> rfl

end Site

/-! ## Traces -/

/-- The event is an exchange with the API. -/
def Event.isExchange : Event → Bool
  | scheduled _ => false
  | _ => true

/-- The installation that a fetch brought. -/
def Event.loaded? : Event → Option Installation
  | fetched (.ok i) => some i
  | _ => none

/-- The call that was made. -/
def Event.call? : Event → Option Call
  | called call _ => some call
  | _ => none

/-- The call that was made and succeeded. -/
def Event.success? : Event → Option Call
  | called call (.ok _) => some call
  | _ => none

/-- The installations fetched. -/
def loaded (trace : List Event) : List Installation := trace.filterMap Event.loaded?

/-- The calls made. -/
def made (trace : List Event) : List Call := trace.filterMap Event.call?

/-- The calls that succeeded. -/
def succeeded (trace : List Event) : List Call := trace.filterMap Event.success?

section LikeEvents

variable {α β : Type} (event : α → Event)

/-- From events of a kind that says nothing, nothing can be read. -/
theorem filterMap_of_silent {reading : Event → Option β} (silent : ∀ a, reading (event a) = none)
    (told : List α) : (told.map event).filterMap reading = [] := by
  rw [List.filterMap_map, List.filterMap_eq_nil_iff]
  exact fun a _ => silent a

/-- From events of a kind that says all, all can be read. -/
theorem filterMap_of_telling {reading : Event → Option α}
    (telling : ∀ a, reading (event a) = some a) (told : List α) :
    (told.map event).filterMap reading = told := by
  have same : reading ∘ event = some := funext telling
  rw [List.filterMap_map, same, List.filterMap_some]

end LikeEvents

theorem made_append (trace more : List Event) : made (trace ++ more) = made trace ++ made more :=
  List.filterMap_append

/-- Calls are exchanges. -/
theorem made_filter (trace : List Event) : made (trace.filter (·.isExchange)) = made trace := by
  induction trace with
  | nil => rfl
  | cons e trace ih =>
    cases e with
    | called call _ => exact congrArg (call :: ·) ih
    | scheduled _ | updateRequested _ | fetched _ | loggedOut _ => exact ih

theorem made_scheduled (entities : List String) : made (entities.map .scheduled) = [] :=
  filterMap_of_silent .scheduled (fun _ => rfl) entities

theorem loaded_append (trace more : List Event) :
    loaded (trace ++ more) = loaded trace ++ loaded more := List.filterMap_append

/-- The session, with a record of every exchange after its state. -/
def Session.recorded {σ : Type} (session : Session σ) : Session (σ × List Event) where
  perform call s :=
    let (outcome, remote) := session.perform call s.1
    (outcome, remote, s.2 ++ [.called call outcome])
  requestUpdate s :=
    let (outcome, remote) := session.requestUpdate s.1
    (outcome, remote, s.2 ++ [.updateRequested outcome])
  fetch s :=
    let (outcome, remote) := session.fetch s.1
    (outcome, remote, s.2 ++ [.fetched outcome])
  logout s :=
    let (outcome, remote) := session.logout s.1
    (outcome, remote, s.2 ++ [.loggedOut outcome])

theorem Session.Willing.recorded {σ : Type} {session : Session σ} (h : session.Willing) :
    session.recorded.Willing :=
  fun call state => h call state.1

/-! ## Recording changes nothing -/

section Recorded

variable {σ : Type} {session : Session σ} {state next : σ}

theorem perform_recorded {call : Call} {outcome : Except ApiError Unit}
    (h : session.perform call state = (outcome, next)) (trace : List Event) :
    session.recorded.perform call (state, trace) =
      (outcome, next, trace ++ [.called call outcome]) := by
  simp only [Session.recorded, h]

theorem requestUpdate_recorded {outcome : Except ApiError Unit}
    (h : session.requestUpdate state = (outcome, next)) (trace : List Event) :
    session.recorded.requestUpdate (state, trace) =
      (outcome, next, trace ++ [.updateRequested outcome]) := by
  simp only [Session.recorded, h]

theorem fetch_recorded {outcome : Except ApiError Installation}
    (h : session.fetch state = (outcome, next)) (trace : List Event) :
    session.recorded.fetch (state, trace) = (outcome, next, trace ++ [.fetched outcome]) := by
  simp only [Session.recorded, h]

theorem logout_recorded {outcome : Except ApiError Unit}
    (h : session.logout state = (outcome, next)) (trace : List Event) :
    session.recorded.logout (state, trace) = (outcome, next, trace ++ [.loggedOut outcome]) := by
  simp only [Session.recorded, h]

end Recorded

namespace Site

variable {σ : Type}

/-- The site as it is if its session is recorded. -/
def recorded (site : Site σ) : Site (σ × List Event) :=
  ⟨site.hub, (site.remote, site.log.filter (·.isExchange)), site.log⟩

/-- An exchange is recorded and logged alike. -/
theorem recorded_exchange (hub : Hub) (remote : σ) (log : List Event) {e : Event}
    (he : e.isExchange = true) : recorded ⟨hub, remote, log ++ [e]⟩ =
      ⟨hub, (remote, log.filter (·.isExchange) ++ [e]), log ++ [e]⟩ := by
  unfold recorded
  rw [List.filter_append, List.filter_cons_of_pos he, List.filter_nil]

@[simp] theorem recorded_schedule (site : Site σ) (entities : List String) :
    (site.schedule entities).recorded = site.recorded.schedule entities := by
  have silent : (entities.map Event.scheduled).filter (·.isExchange) = [] := by
    rw [List.filter_eq_nil_iff]
    intro e he
    obtain ⟨_, _, rfl⟩ := List.mem_map.1 he
    exact Bool.false_ne_true
  unfold schedule recorded
  rw [List.filter_append, silent, List.append_nil]

theorem carryOut_recorded (session : Session σ) (calls : List Call) (site : Site σ) :
    carryOut session.recorded calls site.recorded =
      ((carryOut session calls site).1, (carryOut session calls site).2.recorded) := by
  induction calls generalizing site with
  | nil => rfl
  | cons call calls ih =>
    rcases hp : session.perform call site.remote with ⟨e | _, remote⟩
    · rw [carryOut_cons_error hp, carryOut_cons_error (perform_recorded hp _),
        recorded_exchange _ _ _ rfl]
      rfl
    · rw [carryOut_cons_ok hp, carryOut_cons_ok (perform_recorded hp _), ← ih,
        recorded_exchange _ _ _ rfl]
      rfl

theorem operate_recorded (session : Session σ) (now : Moment) (site : Site σ) (op : Operation) :
    site.recorded.operate session.recorded now op =
      ((site.operate session now op).1, (site.operate session now op).2.recorded) := by
  have planned : op.plan site.recorded.hub now = op.plan site.hub now := rfl
  rw [operate_eq, operate_eq, planned]
  cases op.plan site.hub now with
  | error e => rfl
  | ok calls =>
    simp only [carryOut_recorded]
    rcases carryOut session calls site with ⟨e | _, next⟩
    · rfl
    · simp only [recorded_schedule]
      rfl

theorem refresh_recorded (session : Session σ) (site : Site σ) :
    site.recorded.refresh session.recorded =
      ((site.refresh session).1, (site.refresh session).2.recorded) := by
  rcases hu : session.requestUpdate site.remote with ⟨e | _, asked⟩
  · rw [refresh_unasked hu, refresh_unasked (requestUpdate_recorded hu _),
      recorded_exchange _ _ _ rfl]
    rfl
  · rcases hf : session.fetch asked with ⟨e | i, remote⟩
    · rw [refresh_unfetched hu hf,
        refresh_unfetched (requestUpdate_recorded hu _) (fetch_recorded hf _),
        recorded_exchange _ _ _ rfl, List.filter_append, List.filter_cons_of_pos rfl]
      rfl
    · rw [refresh_fetched hu hf,
        refresh_fetched (requestUpdate_recorded hu _) (fetch_recorded hf _),
        recorded_exchange _ _ _ rfl, List.filter_append, List.filter_cons_of_pos rfl]
      rfl

theorem update_recorded (session : Session σ) (instant : Int) (site : Site σ) :
    site.recorded.update session.recorded instant =
      ((site.update session instant).1, (site.update session instant).2.recorded) := by
  have acquired : site.recorded.hub.throttle.tryAcquire instant =
    site.hub.throttle.tryAcquire instant := rfl
  unfold update
  rw [acquired]
  rcases site.hub.throttle.tryAcquire instant with ⟨_ | _, throttle⟩
  · rfl
  · exact refresh_recorded session { site with hub := { site.hub with throttle } }

theorem step_recorded (session : Session σ) (site : Site σ) (step : Step) :
    site.recorded.step session.recorded step = (site.step session step).recorded := by
  cases step with
  | update instant => exact congrArg Prod.snd (update_recorded session instant site)
  | tick instant =>
    show (site.recorded.tick session.recorded instant).2 = (site.tick session instant).2.recorded
    unfold tick
    rw [update_recorded]
    rcases site.update session instant with ⟨_ | _, next⟩
    · rfl
    · exact (recorded_schedule next _).symm
  | notifyAll => exact (recorded_schedule site _).symm
  | operate now op => exact congrArg Prod.snd (operate_recorded session now site op)
  | unregister entity => rfl
  | logout =>
    show (site.recorded.logout session.recorded).2 = (site.logout session).2.recorded
    rcases hl : session.logout site.remote with ⟨outcome, remote⟩
    rw [logout_snd hl, logout_snd (logout_recorded hl _), recorded_exchange _ _ _ rfl]
    rfl

/-- A run with a recorded session is the run without, recorded. -/
theorem run_recorded (session : Session σ) (steps : List Step) (site : Site σ) :
    site.recorded.run session.recorded steps = (site.run session steps).recorded := by
  induction steps generalizing site with
  | nil => rfl
  | cons step steps ih =>
    show (site.recorded.step session.recorded step).run session.recorded steps = _
    rw [step_recorded, ih]
    rfl

/-- A recorded session and the hub that holds it agree on what happened. -/
theorem trace_run (session : Session σ) (steps : List Step) (hub : Hub) (remote : σ) :
    ((new hub (remote, [])).run session.recorded steps).remote.2 =
      ((new hub (remote, [])).run session.recorded steps).log.filter (·.isExchange) := by
  have recorded : (new hub (remote, [])).run session.recorded steps =
      ((new hub remote).run session steps).recorded := run_recorded session steps (new hub remote)
  rw [recorded]
  rfl

end Site

end HeatingHub

import HeatingHub.Proofs.Hub.History

/-!
# No call is made that makes no sense

`Site.calling` pairs every call that an operation makes with the hub as it is at that moment, after
the patches of the calls before it. The calls in these pairs are all that the API is asked for
(`made_step`), and each is admissible for the installation that its hub knows
(`admissible_calling`).
-/

namespace HeatingHub

open Calendar (Moment)

/-- A call that makes sense for what the hub knows. -/
def Hub.Admits (h : Hub) (call : Call) : Prop :=
  ∃ i, h.snapshot.installation = some i ∧ call.Admissible i

namespace Site

variable {σ : Type}

/-! ## Moments of calls -/

/-- The calls that are made, each with the hub that makes it. -/
def calling (session : Session σ) : List Call → Site σ → List (Hub × Call)
  | [], _ => []
  | call :: rest, site =>
    (site.hub, call) ::
      match carryOut session [call] site with
      | (.ok (), site) => calling session rest site
      | (.error _, _) => []

/-- The calls that an operation makes. -/
def operateCalling (session : Session σ) (now : Moment) (site : Site σ) (op : Operation) :
    List (Hub × Call) :=
  match op.plan site.hub now with
  | .ok calls => calling session calls site
  | .error _ => []

/-- The calls that a step makes. -/
def stepCalling (session : Session σ) (site : Site σ) : Step → List (Hub × Call)
  | .operate now op => site.operateCalling session now op
  | .update _ | .tick _ | .notifyAll | .unregister _ | .logout => []

/-- The calls that a run makes. -/
def runCalling (session : Session σ) : List Step → Site σ → List (Hub × Call)
  | [], _ => []
  | step :: steps, site =>
    site.stepCalling session step ++ runCalling session steps (site.step session step)

section Calling

variable {session : Session σ} {site : Site σ} {call : Call} {remote : σ}

theorem calling_cons_ok (h : session.perform call site.remote = (.ok (), remote))
    (calls : List Call) : calling session (call :: calls) site = (site.hub, call) ::
      calling session calls ⟨site.hub.patched [call], remote, site.log ++ [.done call]⟩ := by
  rw [calling, carryOut_cons_ok h]
  rfl

theorem calling_cons_error {e : ApiError}
    (h : session.perform call site.remote = (.error e, remote)) (calls : List Call) :
    calling session (call :: calls) site = [(site.hub, call)] := by
  rw [calling, carryOut_cons_error h]

end Calling

/-! ## All calls are among them -/

theorem made_schedule (site : Site σ) (entities : List String) :
    made (site.schedule entities).log = made site.log := by
  show made (site.log ++ entities.map .scheduled) = _
  rw [made_append, made_scheduled, List.append_nil]

theorem made_carryOut (session : Session σ) (calls : List Call) (site : Site σ) :
    made (carryOut session calls site).2.log =
      made site.log ++ (calling session calls site).map Prod.snd := by
  induction calls generalizing site with
  | nil => exact (List.append_nil _).symm
  | cons call calls ih =>
    rcases hp : session.perform call site.remote with ⟨e | _, remote⟩
    · rw [carryOut_cons_error hp, calling_cons_error hp, made_append]
      rfl
    · rw [carryOut_cons_ok hp, calling_cons_ok hp, ih, made_append, List.append_assoc]
      rfl

theorem made_refresh (session : Session σ) (site : Site σ) :
    made (site.refresh session).2.log = made site.log := by
  rcases hu : session.requestUpdate site.remote with ⟨e | _, asked⟩
  · rw [refresh_unasked hu, made_append]
    exact List.append_nil _
  · rcases hf : session.fetch asked with ⟨e | i, remote⟩
    · rw [refresh_unfetched hu hf, List.append_assoc, made_append]
      exact List.append_nil _
    · rw [refresh_fetched hu hf, List.append_assoc, made_append]
      exact List.append_nil _

theorem made_update (session : Session σ) (instant : Int) (site : Site σ) :
    made (site.update session instant).2.log = made site.log := by
  unfold update
  rcases site.hub.throttle.tryAcquire instant with ⟨_ | _, throttle⟩
  · rfl
  · exact made_refresh session { site with hub := { site.hub with throttle } }

theorem made_operate (session : Session σ) (now : Moment) (site : Site σ) (op : Operation) :
    made (site.operate session now op).2.log =
      made site.log ++ (site.operateCalling session now op).map Prod.snd := by
  rw [operate_eq, operateCalling]
  cases op.plan site.hub now with
  | error e => exact (List.append_nil _).symm
  | ok calls =>
    have carried := made_carryOut session calls site
    rcases hc : carryOut session calls site with ⟨e | _, next⟩ <;> rw [hc] at carried
    · simp only [hc]
      exact carried
    · simp only [hc]
      rw [made_schedule, carried]

/-- A step makes no other calls. -/
theorem made_step (session : Session σ) (site : Site σ) (step : Step) :
    made (site.step session step).log =
      made site.log ++ (site.stepCalling session step).map Prod.snd := by
  cases step with
  | operate now op => exact made_operate session now site op
  | update instant => exact (made_update session instant site).trans (List.append_nil _).symm
  | tick instant =>
    have updated := made_update session instant site
    refine Eq.trans ?_ (List.append_nil _).symm
    show made (site.tick session instant).2.log = made site.log
    unfold tick
    rcases hu : site.update session instant with ⟨_ | _, next⟩ <;> rw [hu] at updated
    · exact updated
    · exact (made_schedule next _).trans updated
  | notifyAll => exact (made_schedule site _).trans (List.append_nil _).symm
  | unregister entity => exact (List.append_nil _).symm
  | logout =>
    refine Eq.trans ?_ (List.append_nil _).symm
    show made (site.logout session).2.log = made site.log
    rw [logout_snd rfl, made_append]
    exact List.append_nil _

theorem made_run (session : Session σ) (steps : List Step) (site : Site σ) :
    made (site.run session steps).log =
      made site.log ++ (runCalling session steps site).map Prod.snd := by
  induction steps generalizing site with
  | nil => exact (List.append_nil _).symm
  | cons step steps ih =>
    show made ((site.step session step).run session steps).log = _
    rw [ih, made_step, runCalling, List.map_append, List.append_assoc]

/-! ## Each of them makes sense -/

theorem admissible_calling (session : Session σ) {calls : List Call} {site : Site σ}
    {i : Installation} (hi : site.hub.snapshot.installation = some i) (ho : Orderly i calls) :
    ∀ p ∈ calling session calls site, p.1.Admits p.2 := by
  induction calls generalizing site i with
  | nil => exact List.forall_mem_nil _
  | cons call calls ih =>
    have first : (site.hub, call).1.Admits (site.hub, call).2 := ⟨i, hi, ho.1⟩
    rcases hp : session.perform call site.remote with ⟨e | _, remote⟩
    · rw [calling_cons_error hp]
      exact List.forall_mem_singleton.2 first
    · rw [calling_cons_ok hp]
      refine List.forall_mem_cons.2 ⟨first, ih ?_ ho.2⟩
      show (site.hub.patched [call]).snapshot.installation = some (call.effect i)
      rw [snapshot_patched hi (orderly_singleton.2 ho.1)]
      rfl

theorem admissible_operateCalling (session : Session σ) (now : Moment) (site : Site σ)
    (op : Operation) : ∀ p ∈ site.operateCalling session now op, p.1.Admits p.2 := by
  unfold operateCalling
  cases hp : op.plan site.hub now with
  | error e => exact List.forall_mem_nil _
  | ok calls =>
    obtain ⟨i, hi, ho⟩ := op.orderly_of_plan hp
    exact admissible_calling session hi ho

theorem admissible_stepCalling (session : Session σ) (site : Site σ) (step : Step) :
    ∀ p ∈ site.stepCalling session step, p.1.Admits p.2 := by
  cases step with
  | operate now op => exact admissible_operateCalling session now site op
  | update _ | tick _ | notifyAll | unregister _ | logout => exact List.forall_mem_nil _

theorem admissible_runCalling (session : Session σ) (steps : List Step) (site : Site σ) :
    ∀ p ∈ runCalling session steps site, p.1.Admits p.2 := by
  induction steps generalizing site with
  | nil => exact List.forall_mem_nil _
  | cons step steps ih =>
    intro p hp
    rcases List.mem_append.1 hp with hp | hp
    · exact admissible_stepCalling session site step p hp
    · exact ih _ p hp

/-- Whatever a hub is asked to do, and whatever the API answers, every call that reaches the API is
made by a hub that knows an installation for which it is admissible. -/
theorem recorded_calls_admissible (session : Session σ) (hub : Hub) (remote : σ)
    (steps : List Step) :
    let start : Site (σ × List Event) := new hub (remote, [])
    let calls := runCalling session.recorded steps start
    made (start.run session.recorded steps).remote.2 = calls.map Prod.snd ∧
      ∀ p ∈ calls, ∃ i, p.1.snapshot.installation = some i ∧ p.2.Admissible i := by
  intro start calls
  refine ⟨?_, admissible_runCalling session.recorded steps start⟩
  rw [trace_run, made_filter]
  exact made_run session.recorded steps start

end Site

end HeatingHub

import HeatingHub.Proofs.Hub.Mirror

/-!
# Refreshing is all or nothing

A refresh that the throttle holds back does nothing. One that is let through fails, and then the hub
knows what it knew before, or brings an installation, and then snapshot and registry are renewed
together (`Site.update_cases`). What a hub tells of its last refresh can be read off its log
(`Site.tellsRefresh_run`).
-/

namespace HeatingHub

open Calendar (Moment)

/-! ## Refreshes in a trace -/

/-- The exchanges of a refresh that failed. -/
inductive FailedRefresh : List Event → Prop where
  /-- After a failed request nothing is fetched. -/
  | unasked (e : ApiError) : FailedRefresh [.updateRequested (.error e)]
  | unfetched (e : ApiError) : FailedRefresh [.updateRequested (.ok ()), .fetched (.error e)]

/-- The exchanges of a refresh that brought the installation. -/
def fetching (i : Installation) : List Event := [.updateRequested (.ok ()), .fetched (.ok i)]

/-- The end of a refresh; true if it failed. -/
def Event.refreshFailed? : Event → Option Bool
  | updateRequested (.error _) | fetched (.error _) => some true
  | fetched (.ok _) => some false
  | _ => none

/-- How the refreshes of a trace ended. -/
def refreshes (trace : List Event) : List Bool := trace.filterMap Event.refreshFailed?

/-- The last refresh of the trace failed. -/
def lastRefreshFailed (trace : List Event) : Bool := (refreshes trace).getLast?.getD false

section Refreshes

variable {trace more : List Event}

theorem refreshes_append (trace more : List Event) :
    refreshes (trace ++ more) = refreshes trace ++ refreshes more := List.filterMap_append

/-- Refreshes are exchanges. -/
theorem refreshes_filter (trace : List Event) :
    refreshes (trace.filter (·.isExchange)) = refreshes trace := by
  unfold refreshes
  rw [List.filterMap_filter]
  congr 1
  funext event
  cases event <;> rfl

theorem refreshes_scheduled (entities : List String) :
    refreshes (entities.map .scheduled) = [] := filterMap_of_silent .scheduled (fun _ => rfl) entities

theorem refreshes_done (calls : List Call) : refreshes (calls.map .done) = [] :=
  filterMap_of_silent .done (fun _ => rfl) calls

theorem lastRefreshFailed_append_of_silent (h : refreshes more = []) :
    lastRefreshFailed (trace ++ more) = lastRefreshFailed trace := by
  unfold lastRefreshFailed
  rw [refreshes_append, h, List.append_nil]

theorem lastRefreshFailed_append {failed : Bool} (h : refreshes more = [failed]) :
    lastRefreshFailed (trace ++ more) = failed := by
  unfold lastRefreshFailed
  rw [refreshes_append, h, List.getLast?_concat, Option.getD_some]

theorem FailedRefresh.refreshes_eq (h : FailedRefresh more) : refreshes more = [true] := by
  cases h <;> rfl

theorem FailedRefresh.isExchange (h : FailedRefresh more) :
    more.filter (·.isExchange) = more := by
  cases h <;> rfl

end Refreshes

/-! ## What a refresh comes to -/

namespace Site

variable {σ : Type}

/-- All that a refresh can come to. -/
theorem refresh_cases (session : Session σ) (site : Site σ) :
    (∃ events remote, FailedRefresh events ∧ site.refresh session =
      (false, ⟨{ site.hub with refreshFailed := true }, remote, site.log ++ events⟩)) ∨
    ∃ i remote, site.refresh session =
      (true, ⟨site.hub.loading i, remote, site.log ++ fetching i⟩) := by
  rcases hu : session.requestUpdate site.remote with ⟨e | _, asked⟩
  · exact .inl ⟨_, asked, .unasked e, refresh_unasked hu⟩
  · rcases hf : session.fetch asked with ⟨e | i, remote⟩
    · refine .inl ⟨_, remote, .unfetched e, ?_⟩
      rw [refresh_unfetched hu hf, List.append_assoc]
      rfl
    · refine .inr ⟨i, remote, ?_⟩
      rw [refresh_fetched hu hf, List.append_assoc]
      rfl

/-- All that a refresh can come to that the throttle may hold back. -/
theorem update_cases (session : Session σ) (instant : Int) (site : Site σ) :
    (site.hub.throttle.admits instant = false ∧ site.update session instant = (false, site)) ∨
    (site.hub.throttle.admits instant = true ∧
      ((∃ events remote, FailedRefresh events ∧ site.update session instant =
        (false, ⟨{ site.hub with
          throttle := site.hub.throttle.acquired instant, refreshFailed := true }, remote,
            site.log ++ events⟩)) ∨
      ∃ i remote, site.update session instant =
        (true, ⟨{ site.hub.loading i with throttle := site.hub.throttle.acquired instant }, remote,
          site.log ++ fetching i⟩))) := by
  cases admitted : site.hub.throttle.admits instant with
  | false =>
    refine .inl ⟨rfl, ?_⟩
    rw [update, Throttle.tryAcquire_of_not_admits admitted]
  | true =>
    refine .inr ⟨rfl, ?_⟩
    rw [update, Throttle.tryAcquire_of_admits admitted]
    exact refresh_cases session _

/-- A refresh that was let through holds back those that come too shortly after it. -/
theorem update_of_acquired {session : Session σ} {site : Site σ} {interval : Nat} {instant later : Int}
    (acquired : site.hub.throttle = ⟨interval, some instant⟩)
    (soon : (later - instant).toNat < interval) : site.update session later = (false, site) := by
  have refused : site.hub.throttle.admits later = false := by
    rw [acquired]
    exact decide_eq_false (Nat.not_le.2 soon)
  rw [update, Throttle.tryAcquire_of_not_admits refused]

/-- A round of polling that brought nothing ends with the refresh. -/
theorem tick_of_not_loaded {session : Session σ} {instant : Int} {site next : Site σ}
    (h : site.update session instant = (false, next)) :
    site.tick session instant = (none, next) := by
  rw [tick, h]

theorem tick_of_loaded {session : Session σ} {instant : Int} {site next : Site σ}
    (h : site.update session instant = (true, next)) :
    site.tick session instant =
      (next.hub.snapshot.installation.map (·.summary), next.schedule next.hub.registry.ids) := by
  rw [tick, h]
  rfl

/-! ## What the hub tells of its last refresh -/

/-- The hub tells how the last refresh in its log ended, and its throttle has the interval. -/
structure TellsRefresh (interval : Nat) (site : Site σ) : Prop where
  flag : site.hub.refreshFailed = lastRefreshFailed site.log
  interval : site.hub.throttle.interval = interval

variable {interval : Nat} {site : Site σ}

/-- What leaves flag and throttle alone may go on in the log, but must not refresh. -/
theorem TellsRefresh.append (h : site.TellsRefresh interval) (hub : Hub) {more : List Event}
    (flag : hub.refreshFailed = site.hub.refreshFailed)
    (throttle : hub.throttle = site.hub.throttle) (silent : refreshes more = []) (remote : σ) :
    (⟨hub, remote, site.log ++ more⟩ : Site σ).TellsRefresh interval where
  flag := by rw [flag, h.flag, lastRefreshFailed_append_of_silent silent]
  interval := by rw [throttle, h.interval]

theorem TellsRefresh.schedule (h : site.TellsRefresh interval) (entities : List String) :
    (site.schedule entities).TellsRefresh interval :=
  h.append site.hub rfl rfl (refreshes_scheduled entities) site.remote

theorem TellsRefresh.update (h : site.TellsRefresh interval) (session : Session σ)
    (instant : Int) : (site.update session instant).2.TellsRefresh interval := by
  rcases update_cases session instant site with ⟨_, hr⟩ | ⟨_, ⟨events, remote, failed, hr⟩ |
    ⟨i, remote, hr⟩⟩ <;> rw [hr]
  · exact h
  · exact ⟨(lastRefreshFailed_append failed.refreshes_eq).symm, h.interval⟩
  · exact ⟨(lastRefreshFailed_append rfl).symm, h.interval⟩

theorem TellsRefresh.operate (h : site.TellsRefresh interval) (session : Session σ)
    (now : Moment) (op : Operation) : (site.operate session now op).2.TellsRefresh interval := by
  rcases operate_cases session now site op with ⟨_, _, _, hr⟩ | ⟨calls, remote, _, hr⟩ |
    ⟨before, call, _, e, remote, _, hr⟩ <;> rw [hr]
  · exact h
  · have done := h.append (site.hub.patched calls) rfl rfl (refreshes_done calls) remote
    exact done.schedule _
  · have silent : refreshes (before.map .done ++ [.called call (.error e)]) = [] := by
      rw [refreshes_append, refreshes_done]
      rfl
    rw [List.append_assoc]
    exact h.append (site.hub.patched before) rfl rfl silent remote

theorem TellsRefresh.step (h : site.TellsRefresh interval) (session : Session σ) (step : Step) :
    (site.step session step).TellsRefresh interval := by
  cases step with
  | update instant => exact h.update session instant
  | tick instant =>
    have updated := h.update session instant
    show (site.tick session instant).2.TellsRefresh interval
    rcases hu : site.update session instant with ⟨_ | _, next⟩ <;> rw [hu] at updated
    · rw [tick_of_not_loaded hu]
      exact updated
    · rw [tick_of_loaded hu]
      exact updated.schedule _
  | notifyAll => exact h.schedule _
  | operate now op => exact h.operate session now op
  | unregister entity => exact ⟨h.flag, h.interval⟩
  | logout =>
    show (site.logout session).2.TellsRefresh interval
    rw [logout_snd rfl]
    exact h.append site.hub rfl rfl rfl _

theorem tellsRefresh_run (session : Session σ) (interval minutes : Nat) (remote : σ)
    (steps : List Step) :
    ((new (.new interval minutes) remote).run session steps).TellsRefresh interval := by
  have keeps (site : Site σ) (step : Step) (h : site.TellsRefresh interval) :
      (site.step session step).TellsRefresh interval := h.step session step
  exact run_invariant keeps steps ⟨rfl, rfl⟩

/-! ## All or nothing -/

/-- Exchanges are recorded and logged alike. -/
theorem recorded_exchanges (hub : Hub) (remote : σ) (log : List Event) {events : List Event}
    (exchanges : events.filter (·.isExchange) = events) :
    recorded ⟨hub, remote, log ++ events⟩ =
      ⟨hub, (remote, log.filter (·.isExchange) ++ events), log ++ events⟩ := by
  unfold recorded
  rw [List.filter_append, exchanges]

/-- In every run a hub tells how its last refresh ended. A refresh that the throttle holds back asks
the API for nothing and changes nothing. One that is let through holds back others for the interval,
whatever comes of it. If it fails, all else that the hub knows stays, and nothing is scheduled; if it
brings an installation, this is the snapshot, in its next version, and the registry is synchronised
with it. A round of polling then has a summary of it, and every entity is rendered again, once and in
the order of ids; otherwise there is no summary and nothing is rendered again. -/
theorem refresh_all_or_nothing (session : Session σ) (remote : σ) (interval minutes : Nat)
    (steps : List Step) (instant : Int) :
    let site := (fresh interval minutes remote).run session.recorded steps
    let update := site.update session.recorded instant
    let poll := site.tick session.recorded instant
    site.hub.refreshFailed = lastRefreshFailed site.remote.2 ∧
      (site.hub.throttle.admits instant = false → update = (false, site) ∧ poll = (none, site)) ∧
      (site.hub.throttle.admits instant = true →
        (∀ later, (later - instant).toNat < interval →
          update.2.update session.recorded later = (false, update.2)) ∧
        ∃ events, update.2.remote.2 = site.remote.2 ++ events ∧ update.2.log = site.log ++ events ∧
          ((FailedRefresh events ∧ update.1 = false ∧ poll = (none, update.2) ∧
            update.2.hub = { site.hub with
              throttle := ⟨interval, some instant⟩
              refreshFailed := true }) ∨
          ∃ i, events = fetching i ∧ update.1 = true ∧
            update.2.hub = { site.hub with
              snapshot := ⟨some i, site.hub.snapshot.version + 1⟩
              registry := (site.hub.registry.sync i).2
              throttle := ⟨interval, some instant⟩
              refreshFailed := false } ∧
            poll = (some i.summary, update.2.schedule update.2.hub.registry.ids) ∧
            update.2.hub.registry.ids.Pairwise (· < ·))) := by
  have tells := tellsRefresh_run session interval minutes remote steps
  have recorded : (fresh interval minutes remote).run session.recorded steps =
      ((new (.new interval minutes) remote).run session steps).recorded :=
    run_recorded session steps (new (.new interval minutes) remote)
  rw [recorded]
  generalize (new (.new interval minutes) remote).run session steps = home at tells
  intro site update poll
  have flag : site.hub.refreshFailed = lastRefreshFailed site.remote.2 := by
    show home.hub.refreshFailed = _
    rw [tells.flag]
    exact (congrArg (·.getLast?.getD false) (refreshes_filter home.log)).symm
  have acquired : home.hub.throttle.acquired instant = ⟨interval, some instant⟩ :=
    congrArg (Throttle.mk · (some instant)) tells.interval
  have updated : update = ((home.update session instant).1,
      (home.update session instant).2.recorded) := update_recorded session instant home
  refine ⟨flag, ?_⟩
  rcases update_cases session instant home with ⟨refused, hr⟩ |
    ⟨admitted, ⟨events, remote, failed, hr⟩ | ⟨i, remote, hr⟩⟩ <;> rw [hr] at updated
  · have polled : poll = (none, site) := tick_of_not_loaded updated
    refine ⟨fun _ => ⟨updated, polled⟩, ?_⟩
    intro admitted
    exact absurd (refused.symm.trans admitted) Bool.false_ne_true
  · refine ⟨fun refused => absurd (refused.symm.trans admitted) Bool.false_ne_true, fun _ => ?_⟩
    rw [recorded_exchanges _ _ _ failed.isExchange, acquired] at updated
    have polled := tick_of_not_loaded updated
    rw [updated]
    exact ⟨fun later soon => update_of_acquired rfl soon, events, rfl, rfl,
      .inl ⟨failed, rfl, polled, rfl⟩⟩
  · refine ⟨fun refused => absurd (refused.symm.trans admitted) Bool.false_ne_true, fun _ => ?_⟩
    rw [recorded_exchanges _ _ _ rfl, acquired] at updated
    have polled := tick_of_loaded updated
    rw [updated]
    refine ⟨fun later soon => update_of_acquired rfl soon, fetching i, rfl, rfl,
      .inr ⟨i, rfl, rfl, rfl, polled, ?_⟩⟩
    exact List.pairwise_map.2 (home.hub.registry.sync i).2.ascending

end Site

end HeatingHub

import HeatingHub.Proofs.Hub.History

/-!
# The snapshot mirrors the API

What a trace says about the installation is read off it event by event: a fetch tells all of it, and
a call that succeeded has its effect (`Snapshot.hearing`). A hub holds just this snapshot after any
run (`mirrors_run`), so what it knows is the last fetch with the calls since then replayed.
-/

namespace HeatingHub

open Calendar (Moment)

/-! ## What a trace tells -/

namespace Snapshot

/-- What is known after one more event. -/
def heed (s : Snapshot) : Event → Snapshot
  | .fetched (.ok i) => ⟨some i, s.version + 1⟩
  | .called call (.ok _) => ⟨s.installation.map fun i => call.effect i, s.version + 1⟩
  | _ => s

/-- What is known after a trace. -/
def hearing (s : Snapshot) (trace : List Event) : Snapshot := trace.foldl heed s

theorem hearing_append (s : Snapshot) (trace more : List Event) :
    s.hearing (trace ++ more) = (s.hearing trace).hearing more :=
  List.foldl_append

/-- Only exchanges tell something. -/
theorem hearing_filter (s : Snapshot) (trace : List Event) :
    s.hearing (trace.filter (·.isExchange)) = s.hearing trace := by
  induction trace generalizing s with
  | nil => rfl
  | cons e trace ih =>
    cases e with
    | scheduled _ => exact ih s
    | called _ _ | updateRequested _ | fetched _ | loggedOut _ => exact ih _

theorem hearing_scheduled (s : Snapshot) (entities : List String) :
    s.hearing (entities.map .scheduled) = s := by
  induction entities with
  | nil => rfl
  | cons _ _ ih => exact ih

theorem hearing_done (i : Installation) (version : Nat) (calls : List Call) :
    (⟨some i, version⟩ : Snapshot).hearing (calls.map .done) =
      ⟨some (i.following calls), version + calls.length⟩ := by
  induction calls generalizing i version with
  | nil => rfl
  | cons call calls ih =>
    show (⟨some (call.effect i), version + 1⟩ : Snapshot).hearing (calls.map .done) = _
    rw [ih, List.length_cons, Installation.following_cons, Nat.add_assoc, Nat.add_comm 1]

theorem version_hearing (s : Snapshot) (trace : List Event) :
    (s.hearing trace).version = s.version + (loaded trace).length + (succeeded trace).length := by
  induction trace generalizing s with
  | nil => rfl
  | cons e trace ih =>
    show ((s.heed e).hearing trace).version = _
    rw [ih]
    cases e with
    | fetched outcome =>
      cases outcome with
      | ok _ =>
        show s.version + 1 + (loaded trace).length + (succeeded trace).length =
          s.version + ((loaded trace).length + 1) + (succeeded trace).length
        omega
      | error _ => rfl
    | called _ outcome =>
      cases outcome with
      | ok _ =>
        show s.version + 1 + (loaded trace).length + (succeeded trace).length =
          s.version + (loaded trace).length + ((succeeded trace).length + 1)
        omega
      | error _ => rfl
    | updateRequested _ | loggedOut _ | scheduled _ => rfl

/-- What is known is the last installation fetched, if there was a fetch, with the calls that
succeeded since then replayed. -/
theorem installation_hearing (s : Snapshot) (trace : List Event) :
    (loaded trace = [] ∧ (s.hearing trace).installation =
      s.installation.map (·.following (succeeded trace))) ∨
    ∃ before i after, trace = before ++ .fetched (.ok i) :: after ∧ loaded after = [] ∧
      (s.hearing trace).installation = some (i.following (succeeded after)) := by
  induction trace generalizing s with
  | nil => exact .inl ⟨rfl, (Option.map_id' ..).symm⟩
  | cons e trace ih =>
    show (_ ∧ ((s.heed e).hearing trace).installation = _) ∨
      ∃ before i after, _ ∧ _ ∧ ((s.heed e).hearing trace).installation = _
    rcases ih (s.heed e) with ⟨unloaded, known⟩ | ⟨before, i, after, rfl, unloaded, known⟩
    · rw [known]
      cases e with
      | fetched outcome =>
        cases outcome with
        | ok i => exact .inr ⟨[], i, trace, rfl, unloaded, rfl⟩
        | error _ => exact .inl ⟨unloaded, rfl⟩
      | called call outcome =>
        cases outcome with
        | ok _ => exact .inl ⟨unloaded, by rw [heed, Option.map_map]; rfl⟩
        | error _ => exact .inl ⟨unloaded, rfl⟩
      | updateRequested _ | loggedOut _ | scheduled _ => exact .inl ⟨unloaded, rfl⟩
    · exact .inr ⟨e :: before, i, after, rfl, unloaded, known⟩

end Snapshot

/-! ## A hub knows what its trace tells -/

namespace Site

variable {σ : Type} {site : Site σ}

/-- The snapshot is what the log tells. -/
def Mirrors (site : Site σ) : Prop := site.hub.snapshot = Snapshot.empty.hearing site.log

/-- More events have to tell what changed. -/
theorem Mirrors.append (h : site.Mirrors) {hub : Hub} {more : List Event}
    (tells : hub.snapshot = site.hub.snapshot.hearing more) (remote : σ) :
    (⟨hub, remote, site.log ++ more⟩ : Site σ).Mirrors := by
  show hub.snapshot = Snapshot.empty.hearing (site.log ++ more)
  rw [Snapshot.hearing_append, ← h, tells]

theorem Mirrors.schedule (h : site.Mirrors) (entities : List String) :
    (site.schedule entities).Mirrors :=
  h.append (Snapshot.hearing_scheduled _ entities).symm site.remote

theorem Mirrors.refresh (h : site.Mirrors) (session : Session σ) :
    (site.refresh session).2.Mirrors := by
  rcases hu : session.requestUpdate site.remote with ⟨e | _, asked⟩
  · rw [refresh_unasked hu]
    exact h.append rfl _
  · rcases hf : session.fetch asked with ⟨e | i, remote⟩
    · rw [refresh_unfetched hu hf, List.append_assoc]
      exact h.append rfl _
    · rw [refresh_fetched hu hf, List.append_assoc]
      exact h.append rfl _

theorem Mirrors.update (h : site.Mirrors) (session : Session σ) (instant : Int) :
    (site.update session instant).2.Mirrors := by
  unfold Site.update
  rcases site.hub.throttle.tryAcquire instant with ⟨_ | _, throttle⟩
  · exact h
  · have acquired : Mirrors { site with hub := { site.hub with throttle } } := h
    exact acquired.refresh session

/-- Patches of orderly calls tell what their effects do. -/
theorem snapshot_patched_eq_hearing {hub : Hub} {i : Installation} {calls : List Call}
    (hi : hub.snapshot.installation = some i) (ho : Orderly i calls) :
    (hub.patched calls).snapshot = hub.snapshot.hearing (calls.map .done) := by
  have hs : hub.snapshot = ⟨some i, hub.snapshot.version⟩ := by rw [← hi]
  rw [snapshot_patched hi ho, hs, Snapshot.hearing_done]

theorem Mirrors.operate (h : site.Mirrors) (session : Session σ) (now : Moment)
    (op : Operation) : (site.operate session now op).2.Mirrors := by
  rcases operate_cases session now site op with ⟨e, _, _, hr⟩ | ⟨calls, remote, hp, hr⟩ |
    ⟨before, call, after, e, remote, hp, hr⟩ <;> rw [hr]
  · exact h
  · obtain ⟨i, hi, ho⟩ := op.orderly_of_plan hp
    exact (h.append (snapshot_patched_eq_hearing hi ho) remote).schedule _
  · obtain ⟨i, hi, ho⟩ := op.orderly_of_plan hp
    rw [List.append_assoc]
    refine h.append ?_ remote
    rw [snapshot_patched_eq_hearing hi (orderly_append.1 ho).1, Snapshot.hearing_append]
    rfl

theorem Mirrors.step (h : site.Mirrors) (session : Session σ) (step : Step) :
    (site.step session step).Mirrors := by
  cases step with
  | update instant => exact h.update session instant
  | tick instant =>
    have updated := h.update session instant
    show (site.tick session instant).2.Mirrors
    unfold tick
    rcases hu : site.update session instant with ⟨_ | _, next⟩ <;> rw [hu] at updated
    · exact updated
    · exact updated.schedule _
  | notifyAll => exact h.schedule _
  | operate now op => exact h.operate session now op
  | unregister entity => exact h
  | logout =>
    show (site.logout session).2.Mirrors
    rw [logout_snd rfl]
    exact h.append rfl _

theorem mirrors_new (interval minutes : Nat) (remote : σ) :
    (new (.new interval minutes) remote).Mirrors := rfl

theorem mirrors_run (session : Session σ) (steps : List Step) (h : site.Mirrors) :
    (site.run session steps).Mirrors :=
  run_invariant (fun _ step h => h.step session step) steps h

/-- A hub that fetched nothing, with a session whose exchanges are recorded. -/
def fresh (interval minutes : Nat) (remote : σ) : Site (σ × List Event) :=
  .new (.new interval minutes) (remote, [])

/-- After any run, whatever the API answered, the snapshot is the installation of the last fetch
with the calls recorded since then replayed on it, and its version counts the fetches and the calls
that succeeded. -/
theorem snapshot_mirrors_remote (session : Session σ) (remote : σ) (interval minutes : Nat)
    (steps : List Step) :
    let site := (fresh interval minutes remote).run session.recorded steps
    let trace := site.remote.2
    site.hub = ((new (.new interval minutes) remote).run session steps).hub ∧
      site.hub.snapshot.version = (loaded trace).length + (succeeded trace).length ∧
      ((loaded trace = [] ∧ site.hub.snapshot.installation = none) ∨
        ∃ before i after, trace = before ++ .fetched (.ok i) :: after ∧ loaded after = [] ∧
          site.hub.snapshot.installation = some (i.following (succeeded after))) := by
  intro site trace
  have recorded : site = ((new (.new interval minutes) remote).run session steps).recorded :=
    run_recorded session steps (new (.new interval minutes) remote)
  have mirrors : site.hub.snapshot = Snapshot.empty.hearing trace := by
    show _ = Snapshot.empty.hearing site.remote.2
    rw [recorded]
    exact (mirrors_run session steps (mirrors_new ..)).trans (Snapshot.hearing_filter _ _).symm
  refine ⟨by rw [recorded]; rfl, ?_, ?_⟩
  · rw [mirrors, Snapshot.version_hearing]
    exact congrArg (· + _) (Nat.zero_add _)
  · rw [mirrors]
    exact Snapshot.installation_hearing .empty trace

end Site

end HeatingHub

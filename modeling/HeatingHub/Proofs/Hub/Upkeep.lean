import HeatingHub.Proofs.Hub.History
import HeatingHub.Proofs.Registry.Directory

/-!
# The registry along runs

Of the steps of a hub, only a refresh that fetched and the host's own removals change the registry
(`Site.step_registry`). So an entity that is not transient stays until the host takes it out, and
one that is transient is that of a fault in the snapshot.
-/

namespace HeatingHub

open Calendar (Moment)

/-! ## Calls and faults -/

theorem faults_effect (call : Call) (i : Installation) : (call.effect i).faults = i.faults := by
  cases call <;> rfl

/-- The faults of the installation in the snapshot. -/
def Hub.faults? (h : Hub) : Option (List Fault) := h.snapshot.installation.map (·.faults)

theorem faults?_patched {h : Hub} {i : Installation} {calls : List Call}
    (held : h.snapshot.installation = some i) (ordered : Orderly i calls) :
    (h.patched calls).faults? = h.faults? := by
  have kept : (i.following calls).faults = i.faults :=
    Installation.find_following (·.faults) (fun call _ => faults_effect call) i
  unfold Hub.faults?
  rw [snapshot_patched held ordered, held, Option.map_some, Option.map_some, kept]

/-! ## What a step does to the registry -/

namespace Site

variable {σ : Type}

/-- The entities and the faults of one site are those of another, and nothing was fetched. -/
structure SameEntities (before after : Site σ) : Prop where
  registry : after.hub.registry = before.hub.registry
  faults : after.hub.faults? = before.hub.faults?
  loaded : HeatingHub.loaded after.log = HeatingHub.loaded before.log

/-- One site is another that fetched the installation. -/
structure Fetched (i : Installation) (before after : Site σ) : Prop where
  registry : after.hub.registry = (before.hub.registry.sync i).2
  installation : after.hub.snapshot.installation = some i
  loaded : HeatingHub.loaded after.log = HeatingHub.loaded before.log ++ [i]

theorem refresh_registry (session : Session σ) (site : Site σ) :
    SameEntities site (site.refresh session).2 ∨ ∃ i, Fetched i site (site.refresh session).2 := by
  rcases hu : session.requestUpdate site.remote with ⟨e | _, asked⟩
  · rw [refresh_unasked hu]
    refine .inl ⟨rfl, rfl, ?_⟩
    exact (loaded_append _ _).trans (List.append_nil _)
  · rcases hf : session.fetch asked with ⟨e | i, remote⟩
    · rw [refresh_unfetched hu hf]
      refine .inl ⟨rfl, rfl, ?_⟩
      simp only [loaded_append]
      exact (List.append_nil _).trans (List.append_nil _)
    · rw [refresh_fetched hu hf]
      refine .inr ⟨i, rfl, rfl, ?_⟩
      simp only [loaded_append]
      exact congrArg (· ++ [i]) (List.append_nil _)

theorem update_registry (session : Session σ) (instant : Int) (site : Site σ) :
    SameEntities site (site.update session instant).2 ∨
      ∃ i, Fetched i site (site.update session instant).2 := by
  unfold update
  rcases site.hub.throttle.tryAcquire instant with ⟨_ | _, throttle⟩
  · exact .inl ⟨rfl, rfl, rfl⟩
  · rcases refresh_registry session { site with hub := { site.hub with throttle } } with
      same | ⟨i, fetched⟩
    · exact .inl ⟨same.registry, same.faults, same.loaded⟩
    · exact .inr ⟨i, fetched.registry, fetched.installation, fetched.loaded⟩

theorem loaded_schedule (site : Site σ) (entities : List String) :
    loaded (site.schedule entities).log = loaded site.log := by
  have silent : loaded (entities.map .scheduled) = [] :=
    filterMap_of_silent .scheduled (fun _ => rfl) entities
  unfold schedule
  rw [loaded_append, silent, List.append_nil]

theorem loaded_done (calls : List Call) : loaded (calls.map .done) = [] :=
  filterMap_of_silent .done (fun _ => rfl) calls

theorem operate_registry (session : Session σ) (now : Moment) (site : Site σ) (op : Operation) :
    SameEntities site (site.operate session now op).2 := by
  rcases operate_cases session now site op with ⟨e, _, _, hr⟩ | ⟨calls, _, hp, hr⟩ |
    ⟨before, call, after, e, _, hp, hr⟩ <;> rw [hr]
  · exact ⟨rfl, rfl, rfl⟩
  · obtain ⟨i, held, ordered⟩ := op.orderly_of_plan hp
    refine ⟨rfl, faults?_patched held ordered, ?_⟩
    rw [loaded_schedule, loaded_append, loaded_done, List.append_nil]
  · obtain ⟨i, held, ordered⟩ := op.orderly_of_plan hp
    refine ⟨rfl, faults?_patched held (orderly_append.1 ordered).1, ?_⟩
    rw [loaded_append, loaded_append, loaded_done]
    exact (List.append_nil _).trans (List.append_nil _)

theorem tick_registry (session : Session σ) (instant : Int) (site : Site σ) :
    SameEntities site (site.tick session instant).2 ∨
      ∃ i, Fetched i site (site.tick session instant).2 := by
  have updated := update_registry session instant site
  unfold tick
  rcases hu : site.update session instant with ⟨_ | _, next⟩ <;> rw [hu] at updated
  · exact updated
  · have silent : loaded next.notifyAll.log = loaded next.log := loaded_schedule next _
    rcases updated with same | ⟨i, fetched⟩
    · exact .inl ⟨same.registry, same.faults, silent.trans same.loaded⟩
    · exact .inr ⟨i, fetched.registry, fetched.installation, silent.trans fetched.loaded⟩

/-- All that a step can do to the registry. -/
theorem step_registry (session : Session σ) (site : Site σ) (step : Step) :
    SameEntities site (site.step session step) ∨ (∃ i, Fetched i site (site.step session step)) ∨
      ∃ entity, step = .unregister entity ∧ site.step session step =
        { site with
          hub := { site.hub with registry := site.hub.registry.unregister entity } } := by
  cases step with
  | update instant => exact (update_registry session instant site).imp_right .inl
  | tick instant => exact (tick_registry session instant site).imp_right .inl
  | notifyAll => exact .inl ⟨rfl, rfl, loaded_schedule site _⟩
  | operate now op => exact .inl (operate_registry session now site op)
  | unregister entity => exact .inr (.inr ⟨entity, rfl, rfl⟩)
  | logout =>
    refine .inl ?_
    rcases hl : session.logout site.remote with ⟨outcome, remote⟩
    show SameEntities site (site.logout session).2
    rw [logout_snd hl]
    refine ⟨rfl, rfl, ?_⟩
    exact (loaded_append _ _).trans (List.append_nil _)

/-! ## What is registered -/

/-- Every transient entity is that of a fault in the snapshot. -/
def Backed (site : Site σ) : Prop :=
  ∀ h ∈ site.hub.registry.handles, h.transient = true →
    ∃ faults, site.hub.faults? = some faults ∧ ∃ f ∈ faults, h.ShowsFault f.code

theorem Backed.step {site : Site σ} (backed : site.Backed) (session : Session σ) (step : Step) :
    (site.step session step).Backed := by
  intro h registered transient
  rcases step_registry session site step with same | ⟨i, fetched⟩ | ⟨entity, rfl, left⟩
  · rw [same.registry] at registered
    rw [same.faults]
    exact backed h registered transient
  · rw [fetched.registry] at registered
    unfold Hub.faults?
    rw [fetched.installation]
    refine ⟨i.faults, rfl, ?_⟩
    rcases Registry.mem_of_mem_sync registered with ⟨former, fresh⟩ | discovered
    -- a handle that stayed is that of a fault, by the invariant, and was not found to be stale
    · obtain ⟨_, _, f, _, shown⟩ := backed h former transient
      rw [← Bool.not_eq_true, isStale_of_showsFault shown] at fresh
      simp only [transient, true_and, not_forall, not_not] at fresh
      obtain ⟨g, hg, same⟩ := fresh
      exact ⟨g, hg, same ▸ shown⟩
    · exact transient_of_mem_discover discovered transient
  · rw [left] at registered
    obtain ⟨registered, _⟩ := List.mem_filter.1 registered
    rw [left]
    exact backed h registered transient

/-- An entity that is not transient stays until the host takes it out. -/
theorem registered_step {site : Site σ} {h : Handle} (registered : h ∈ site.hub.registry.handles)
    (lasting : h.transient = false) {step : Step} (left : step ≠ .unregister h.id)
    (session : Session σ) : h ∈ (site.step session step).hub.registry.handles := by
  have found := Registry.get?_of_mem registered
  rcases step_registry session site step with same | ⟨i, fetched⟩ | ⟨entity, rfl, taken⟩
  · rwa [same.registry]
  · have kept : (site.hub.registry.kept i).get? h.id = some h :=
      Registry.get?_kept.2 ⟨found, isStale_of_not_transient h lasting⟩
    rw [fetched.registry, Registry.mem_handles_iff, Registry.get?_sync, kept, Option.some_or]
  · have other : h.id ≠ entity := by
      rintro rfl
      exact left rfl
    rw [taken, Registry.mem_handles_iff, Registry.get?_unregister, if_neg other]
    exact found

end Site

/-! ## Synchronisation -/

/-- Whatever was registered before, a synchronisation drops the transient handles of faults that are
gone and no others, and then takes the first handle discovered for each id that is free. It counts
what it dropped and what it took, and another one at once changes nothing. The registry is a table
in which each handle is under its own id. So in every run of a hub an entity that is not transient
stays until the host takes it out, and one that is transient is that of a fault in the snapshot. -/
theorem synchronisation_exact :
    (∀ (edits : List Edit) (i : Installation),
      let r := Registry.edited edits
      let d := Directory.edited edits
      let (change, synced) := r.sync i
      (∀ id, synced.get? id = ((r.get? id).filter fun h => !Registry.isStale i h).or
        (i.discover.find? (·.id == id))) ∧
      (∀ h code, h.ShowsFault code → (Registry.isStale i h = true ↔
        h.transient = true ∧ ∀ f ∈ i.faults, f.code ≠ code)) ∧
      ((∀ h, .register h ∈ edits → h.Proper) →
        ∀ h ∈ r.handles, (Registry.isStale i h = true ↔ h.Vanished i)) ∧
      change.removed = (r.handles.filter (Registry.isStale i)).length ∧
      change.added = (synced.handles.filter fun h => !(r.kept i).contains h.id).length ∧
      synced.sync i = (⟨0, 0⟩, synced) ∧
      d.toList = r.handles.map (fun h => (h.id, h)) ∧
      (d.sync i).1 = change ∧ (d.sync i).2.toList = synced.handles.map fun h => (h.id, h)) ∧
    ∀ {σ : Type} (session : Session σ) (interval minutes : Nat) (remote : σ) (steps : List Step),
      let site := (Site.new (.new interval minutes) remote).run session steps
      ∀ h ∈ site.hub.registry.handles,
        (h.transient = false → ∀ step, step ≠ .unregister h.id →
          h ∈ (site.step session step).hub.registry.handles) ∧
        (h.transient = true → ∃ i, site.hub.snapshot.installation = some i ∧
          ∃ f ∈ i.faults, h.ShowsFault f.code) := by
  constructor
  · intro edits i r d
    have lists : d.Lists r := Directory.lists_edited edits
    obtain ⟨alike, listed⟩ := Directory.lists_sync lists i
    have kept := Registry.get?_filter r fun h => !Registry.isStale i h
    have found := r.get?_sync i
    have removed := r.removed_sync i
    have added := r.added_sync i
    have again := r.sync_again i
    have entries := Directory.toList_of_lists listed
    rcases hs : r.sync i with ⟨change, synced⟩
    simp only [hs] at alike found removed added again entries
    refine ⟨?_, fun h code => isStale_of_showsFault, ?_, removed, added, again,
      Directory.toList_of_lists lists, alike, entries⟩
    · intro id
      rw [found, ← kept]
      rfl
    · intro proper h hh
      exact (Registry.proper_edited proper h hh).isStale_iff
  · intro σ session interval minutes remote steps site h registered
    constructor
    · intro lasting step left
      exact Site.registered_step registered lasting left session
    · intro transient
      have none : (Site.new (.new interval minutes) remote).Backed := nofun
      have backed : site.Backed := Site.run_invariant
        (fun site step (h : site.Backed) => h.step session step) steps none
      obtain ⟨faults, same, f, hf, shown⟩ := backed h registered transient
      obtain ⟨i, held, rfl⟩ := Option.map_eq_some_iff.1 same
      exact ⟨i, held, f, hf, shown⟩

end HeatingHub

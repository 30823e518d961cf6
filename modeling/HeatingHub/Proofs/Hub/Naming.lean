import HeatingHub.Proofs.Hub.Upkeep

/-!
# What the id of an entity stands for

Ids of entities are made from names, and names can change hands. An id goes to the first entity
discovered under it (`Site.get?_of_fetched`), and stays with that while the host keeps it
(`Site.registered_run`): rooms that swap names do not swap entities.
-/

namespace HeatingHub

open Calendar (Moment)

/-! ## Where entities come from -/

namespace Site

variable {σ : Type}

/-- Every entity was discovered in an installation that was fetched. -/
def Discovered (site : Site σ) : Prop :=
  ∀ h ∈ site.hub.registry.handles, ∃ i ∈ loaded site.log, h ∈ i.discover

theorem Discovered.step {site : Site σ} (known : site.Discovered) (session : Session σ)
    (step : Step) : (site.step session step).Discovered := by
  intro h registered
  rcases step_registry session site step with same | ⟨i, fetched⟩ | ⟨entity, rfl, taken⟩
  · rw [same.registry] at registered
    rw [same.loaded]
    exact known h registered
  · rw [fetched.registry] at registered
    rw [fetched.loaded]
    rcases Registry.mem_of_mem_sync registered with ⟨former, _⟩ | discovered
    · obtain ⟨j, hj, hh⟩ := known h former
      exact ⟨j, List.mem_append_left [i] hj, hh⟩
    · exact ⟨i, List.mem_append_right _ (List.mem_singleton_self i), discovered⟩
  · rw [taken] at registered ⊢
    exact known h (List.mem_filter.1 registered).1

/-- An entity that is not transient stays in every run in which the host does not take it out. -/
theorem registered_run {h : Handle} (lasting : h.transient = false) (session : Session σ)
    {steps : List Step} (left : .unregister h.id ∉ steps) {site : Site σ}
    (registered : h ∈ site.hub.registry.handles) :
    h ∈ (site.run session steps).hub.registry.handles := by
  induction steps generalizing site with
  | nil => exact registered
  | cons step steps ih =>
    have spared : step ≠ .unregister h.id := by
      rintro rfl
      exact left List.mem_cons_self
    exact ih (mt (List.mem_cons_of_mem step) left)
      (registered_step registered lasting spared session)

end Site

/-- The only handle with its id is found under it. -/
theorem find?_of_count {handles : List Handle} {h : Handle} (hh : h ∈ handles)
    (once : (handles.map (·.id)).count h.id = 1) : handles.find? (·.id == h.id) = some h := by
  have one : (handles.filter (·.id == h.id)).length = 1 := by
    rw [← List.countP_eq_length_filter, ← once, List.count, List.countP_map]
    rfl
  obtain ⟨only, alone⟩ := List.length_eq_one_iff.1 one
  have among : h ∈ handles.filter (·.id == h.id) := List.mem_filter.2 ⟨hh, beq_self_eq_true _⟩
  rw [alone, List.mem_singleton] at among
  rw [← List.head?_filter, alone, among, List.head?_cons]

/-! ## Ids along runs -/

section Fetched

variable {σ : Type} {session : Session σ} {site : Site σ} {step : Step} {i : Installation}
  {h : Handle}

/-- A step that fetches is a refresh. -/
theorem Site.fetched_of_loaded
    (loads : loaded (site.step session step).log = loaded site.log ++ [i]) :
    Fetched i site (site.step session step) := by
  have longer : (loaded (site.step session step).log).length = (loaded site.log).length + 1 := by
    rw [loads, List.length_append, List.length_singleton]
  rcases step_registry session site step with same | ⟨j, fetched⟩ | ⟨entity, rfl, taken⟩
  · rw [same.loaded] at longer
    omega
  · have one := loads.symm.trans fetched.loaded
    obtain rfl := List.head_eq_of_cons_eq (List.append_cancel_left one)
    exact fetched
  · rw [taken] at longer
    simp only at longer
    omega

/-- The id of a handle that is discovered stays with the entity that it has. -/
theorem Site.get?_of_fetched (known : site.Discovered)
    (fetched : Fetched i site (site.step session step)) (hh : h ∈ i.discover)
    (once : (i.discover.map (·.id)).count h.id = 1) :
    ∃ g, (site.step session step).hub.registry.get? h.id = some g ∧
      ((site.hub.registry.get? h.id = some g ∧ ¬g.Vanished i) ∨
        (g = h ∧ ∀ k, site.hub.registry.get? h.id = some k → k.Vanished i)) := by
  have stale : ∀ k, site.hub.registry.get? h.id = some k →
      (Registry.isStale i k = true ↔ k.Vanished i) := by
    intro k found
    obtain ⟨j, _, discovered⟩ := known k (Registry.mem_of_get? found)
    exact (proper_of_mem_discover discovered).isStale_iff
  rw [fetched.registry, Registry.get?_sync, find?_of_count hh once]
  cases found : (site.hub.registry.kept i).get? h.id with
  | some g =>
    obtain ⟨former, fresh⟩ := Registry.get?_kept.1 found
    refine ⟨g, rfl, .inl ⟨former, ?_⟩⟩
    rw [← stale g former, fresh]
    exact Bool.false_ne_true
  | none =>
    refine ⟨h, rfl, .inr ⟨rfl, ?_⟩⟩
    intro k former
    rw [← stale k former]
    by_contra fresh
    have kept := Registry.get?_kept.2 ⟨former, Bool.not_eq_true _ ▸ fresh⟩
    rw [found] at kept
    cases kept

end Fetched

/-- Whenever an installation is fetched, each handle discovered in it whose id occurs once there has
an entity under its id: the entity that had the id before, unless that was of a fault that is gone,
and else itself. Requests for the id go to the component of that entity. So the entity stands for
what the handle does if nothing else was ever discovered under the id, and, unless it is that of a
fault, goes on to do so until the host takes it out, whatever is fetched. -/
theorem id_keeps_component {σ : Type} (session : Session σ) (interval minutes : Nat) (remote : σ)
    (steps : List Step) (step : Step) {i : Installation} :
    let site := (Site.new (.new interval minutes) remote).run session steps
    let next := site.step session step
    loaded next.log = loaded site.log ++ [i] →
    next.hub.snapshot.installation = some i ∧
      ∀ h ∈ i.discover, (i.discover.map (·.id)).count h.id = 1 →
        ∃ g, next.hub.registry.get? h.id = some g ∧
          ((site.hub.registry.get? h.id = some g ∧ ¬g.Vanished i) ∨
            (g = h ∧ ∀ k, site.hub.registry.get? h.id = some k → k.Vanished i)) ∧
          (∀ id, g.component = some id → next.hub.componentOf h.id = .ok id) ∧
          ((∀ j ∈ loaded site.log, ∀ k ∈ j.discover, k.id = h.id →
              k.component = h.component ∧ k.readout = h.readout) →
            g.component = h.component ∧ g.readout = h.readout) ∧
          (g.transient = false → ∀ more, .unregister h.id ∉ more →
            (next.run session more).hub.registry.get? h.id = some g) := by
  intro site next loads
  have known : site.Discovered := Site.run_invariant
    (fun site step (known : site.Discovered) => known.step session step) steps nofun
  have fetched := Site.fetched_of_loaded loads
  refine ⟨fetched.installation, ?_⟩
  intro h hh once
  obtain ⟨g, found, origin⟩ := Site.get?_of_fetched known fetched hh once
  refine ⟨g, found, origin, ?_, ?_, ?_⟩
  · intro id stands
    unfold Hub.componentOf
    simp only [show next.hub.registry.get? h.id = some g from found, stands]
  · intro alike
    rcases origin with ⟨former, _⟩ | ⟨rfl, _⟩
    · obtain ⟨j, hj, discovered⟩ := known g (Registry.mem_of_get? former)
      exact alike j hj g discovered (Registry.id_of_get? former)
    · exact ⟨rfl, rfl⟩
  · intro lasting more left
    have same := Registry.id_of_get? found
    rw [← same] at left ⊢
    exact Registry.get?_of_mem
      (Site.registered_run lasting session left (Registry.mem_of_get? found))

/-- Two rooms swap names: the entity that is named after one of them stands for the other. -/
theorem swapped_names_keep_components :
    let before := Installation.ofRooms [("0", "Kitchen"), ("1", "Pantry")]
    let after := Installation.ofRooms [("0", "Pantry"), ("1", "Kitchen")]
    let site := (Site.new (.new 0 180) [before, after]).run .serving [.update 0, .update 1]
    site.hub.snapshot.installation = some after ∧
      ¬∀ h ∈ after.discover, (after.discover.map (·.id)).count h.id = 1 →
        ∃ g, site.hub.registry.get? h.id = some g ∧
          g.component = h.component ∧ g.readout = h.readout := by
  intro before after site
  refine ⟨rfl, ?_⟩
  intro follows
  let kitchen : Handle := .ofComponent "climate.multimatic_kitchen" "Kitchen" (.room "1") true
  obtain ⟨g, found, component, _⟩ := follows kitchen (by decide +kernel) (by decide +kernel)
  have former : site.hub.registry.get? kitchen.id =
      some (.ofComponent "climate.multimatic_kitchen" "Kitchen" (.room "0") true) := by
    decide +kernel
  rw [former] at found
  obtain rfl := Option.some.inj found
  revert component
  decide

/-- The entity stays with the room that had its name first, whatever is fetched from then on. -/
theorem id_keeps_component_of_swapped :
    let before := Installation.ofRooms [("0", "Kitchen"), ("1", "Pantry")]
    let after := Installation.ofRooms [("0", "Pantry"), ("1", "Kitchen")]
    let site := (Site.new (.new 0 180) [before, after]).run .serving [.update 0]
    let next := site.step .serving (.update 1)
    let kitchen : Handle := .ofComponent "climate.multimatic_kitchen" "Kitchen" (.room "0") true
    loaded next.log = loaded site.log ++ [after] ∧
      next.hub.componentOf "climate.multimatic_kitchen" = .ok (.room "0") ∧
      ∀ more, .unregister "climate.multimatic_kitchen" ∉ more →
        (next.run .serving more).hub.registry.get? "climate.multimatic_kitchen" = some kitchen := by
  intro before after site next kitchen
  have loads : loaded next.log = loaded site.log ++ [after] := rfl
  let renamed : Handle := .ofComponent "climate.multimatic_kitchen" "Kitchen" (.room "1") true
  have discovered : renamed ∈ after.discover := by decide +kernel
  obtain ⟨_, named⟩ := id_keeps_component .serving 0 180 [before, after] [.update 0] (.update 1) loads
  obtain ⟨g, found, _, requested, _, stays⟩ := named renamed discovered (by decide +kernel)
  have former : next.hub.registry.get? renamed.id = some kitchen := by decide +kernel
  rw [former] at found
  obtain rfl := Option.some.inj found
  exact ⟨loads, requested (.room "0") rfl, stays rfl⟩

end HeatingHub

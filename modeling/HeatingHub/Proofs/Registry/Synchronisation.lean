import HeatingHub.Proofs.Registry.Lookup

/-!
# Synchronising a registry

Only handles of faults are ever discovered as transient (`Installation.transient_of_mem_discover`),
so a synchronisation drops those of faults that are gone, keeps all others and takes the first
handle for every id that is free (`Registry.get?_sync`). Done again, it finds nothing to do
(`Registry.sync_again`).
-/

namespace HeatingHub

/-! ## Handles that are dropped -/

namespace Handle

/-- The handle is that of a fault. -/
def ShowsFault (h : Handle) (code : String) : Prop := h.component = none ∧ h.readout = .fault code

/-- The handle is transient, and that of a fault that is gone. -/
def Vanished (h : Handle) (i : Installation) : Prop :=
  h.transient = true ∧ ∃ code, h.ShowsFault code ∧ ∀ f ∈ i.faults, f.code ≠ code

/-- The handle is transient only if it is that of a fault. -/
def Proper (h : Handle) : Prop := h.transient = true → ∃ code, h.ShowsFault code

end Handle

section Stale

variable {i : Installation} {h : Handle} {code : String}

theorem isBackedBy_of_showsFault (shown : h.ShowsFault code) :
    h.isBackedBy i = true ↔ ∃ f ∈ i.faults, f.code = code := by
  unfold Handle.isBackedBy
  rw [shown.1, shown.2]
  simp

theorem isStale_of_showsFault (shown : h.ShowsFault code) :
    Registry.isStale i h = true ↔ h.transient = true ∧ ∀ f ∈ i.faults, f.code ≠ code := by
  unfold Registry.isStale
  rw [Bool.and_eq_true, Bool.not_eq_true', ← Bool.not_eq_true, isBackedBy_of_showsFault shown]
  simp

theorem Handle.Proper.isStale_iff (proper : h.Proper) :
    Registry.isStale i h = true ↔ h.Vanished i := by
  constructor
  · intro stale
    have transient : h.transient = true := (Bool.and_eq_true_iff.1 stale).1
    obtain ⟨code, shown⟩ := proper transient
    exact ⟨transient, code, shown, ((isStale_of_showsFault shown).1 stale).2⟩
  · rintro ⟨transient, code, shown, gone⟩
    exact (isStale_of_showsFault shown).2 ⟨transient, gone⟩

theorem isStale_of_not_transient (h : Handle) (lasting : h.transient = false) :
    Registry.isStale i h = false := by
  unfold Registry.isStale
  rw [lasting, Bool.false_and]

end Stale

/-! ## What is discovered -/

section Discovered

variable {h : Handle}

theorem not_transient_of_mem_device {d : Device} (hh : h ∈ d.handles) : h.transient = false := by
  unfold Device.handles at hh
  split at hh <;> simp only [List.nil_append, List.cons_append, List.mem_cons,
    List.not_mem_nil, or_false] at hh
  · rcases hh with rfl | rfl | rfl <;> rfl
  · rcases hh with rfl | rfl <;> rfl

theorem not_transient_of_mem_room {r : Room} (hh : h ∈ r.handles) : h.transient = false := by
  unfold Room.handles at hh
  rw [List.mem_cons, List.mem_cons, List.mem_flatMap] at hh
  rcases hh with rfl | rfl | ⟨d, _, hd⟩
  · rfl
  · rfl
  · exact not_transient_of_mem_device hd

theorem not_transient_of_mem_boiler {b : BoilerInfo} {device : String}
    (hh : h ∈ b.handles device) : h.transient = false := by
  unfold BoilerInfo.handles at hh
  rcases List.mem_append.1 hh with hh | hh <;> split at hh
  · obtain rfl := List.mem_singleton.1 hh
    rfl
  · cases hh
  · obtain rfl := List.mem_singleton.1 hh
    rfl
  · cases hh

/-- A transient handle that is discovered is that of a fault. -/
theorem transient_of_mem_discover {i : Installation} (hh : h ∈ i.discover)
    (transient : h.transient = true) : ∃ f ∈ i.faults, h.ShowsFault f.code := by
  unfold Installation.discover at hh
  simp only [List.mem_append, or_assoc] at hh
  rcases hh with zone | room | water | circulation | boiler | status | override | fault | outdoor |
    info
  · obtain ⟨z, _, rfl⟩ := List.mem_map.1 zone
    cases transient
  · obtain ⟨r, _, hr⟩ := List.mem_flatMap.1 room
    rw [not_transient_of_mem_room hr] at transient
    cases transient
  · obtain ⟨w, _, rfl⟩ := List.mem_map.1 water
    cases transient
  · obtain ⟨c, _, rfl⟩ := List.mem_map.1 circulation
    cases transient
  · obtain ⟨b, _, rfl⟩ := List.mem_map.1 boiler
    cases transient
  · split at status
    · rcases List.mem_pair.1 status with rfl | rfl <;> cases transient
    · cases status
  · rcases List.mem_pair.1 override with rfl | rfl <;> cases transient
  · obtain ⟨f, hf, rfl⟩ := List.mem_map.1 fault
    exact ⟨f, hf, rfl, rfl⟩
  · split at outdoor
    · obtain rfl := List.mem_singleton.1 outdoor
      cases transient
    · cases outdoor
  · obtain ⟨b, _, hb⟩ := List.mem_flatMap.1 info
    rw [not_transient_of_mem_boiler hb] at transient
    cases transient

/-- What is discovered is never dropped at once. -/
theorem not_isStale_of_mem_discover {i : Installation} (hh : h ∈ i.discover) :
    Registry.isStale i h = false := by
  cases transient : h.transient with
  | false => exact isStale_of_not_transient h transient
  | true =>
    obtain ⟨f, hf, shown⟩ := transient_of_mem_discover hh transient
    rw [← Bool.not_eq_true, isStale_of_showsFault shown]
    rintro ⟨_, gone⟩
    exact gone f hf rfl

theorem proper_of_mem_discover {i : Installation} (hh : h ∈ i.discover) : h.Proper := by
  intro transient
  obtain ⟨f, _, shown⟩ := transient_of_mem_discover hh transient
  exact ⟨f.code, shown⟩

end Discovered

/-! ## Synchronised registries -/

namespace Registry

variable {r : Registry} {i : Installation} {h : Handle} {id : String}

/-- What a synchronisation leaves in place. -/
def kept (r : Registry) (i : Installation) : Registry := r.filter fun h => !isStale i h

theorem get?_kept : (r.kept i).get? id = some h ↔ r.get? id = some h ∧ isStale i h = false := by
  unfold kept
  rw [get?_filter, Option.filter_eq_some_iff, Bool.not_eq_true']

theorem kept_eq_self (fresh : ∀ h ∈ r.handles, isStale i h = false) : r.kept i = r := by
  refine ext_get? fun id => ?_
  ext h
  rw [get?_kept, and_iff_left_iff_imp]
  intro found
  exact fresh h (mem_of_get? found)

/-- Every id is left to the handle it has, unless that is dropped, and goes to the first handle
discovered for it otherwise. -/
theorem get?_sync (r : Registry) (i : Installation) (id : String) :
    (r.sync i).2.get? id = ((r.kept i).get? id).or (i.discover.find? (·.id == id)) :=
  get?_registerAll i.discover (r.kept i) id

/-- What is registered after a synchronisation stayed or was discovered. -/
theorem mem_of_mem_sync (hh : h ∈ (r.sync i).2.handles) :
    (h ∈ r.handles ∧ isStale i h = false) ∨ h ∈ i.discover := by
  have found := get?_of_mem hh
  rw [get?_sync, Option.or_eq_some_iff] at found
  rcases found with former | ⟨_, discovered⟩
  · obtain ⟨former, fresh⟩ := get?_kept.1 former
    exact .inl ⟨mem_of_get? former, fresh⟩
  · exact .inr (List.mem_of_find?_eq_some discovered)

theorem not_isStale_of_mem_sync (hh : h ∈ (r.sync i).2.handles) : isStale i h = false := by
  rcases mem_of_mem_sync hh with ⟨_, fresh⟩ | discovered
  · exact fresh
  · exact not_isStale_of_mem_discover discovered

/-! ## Numbers of changes -/

theorem registerAll_of_contained {handles : List Handle}
    (taken : ∀ h ∈ handles, r.contains h.id = true) : (r.registerAll handles).2 = r := by
  refine ext_get? fun id => ?_
  rw [get?_registerAll]
  cases found : r.get? id with
  | some h => exact Option.some_or
  | none =>
    rw [Option.none_or, List.find?_eq_none]
    intro h hh same
    have missing := taken h hh
    rw [beq_iff_eq.1 same, contains, found] at missing
    cases missing

theorem count_registerAll (handles : List Handle) (r : Registry) :
    (r.registerAll handles).1.count true =
      ((r.registerAll handles).2.handles.filter fun h => !r.contains h.id).length := by
  have former : (r.registerAll handles).2.filter (r.contains ·.id) = r := by
    refine ext_get? fun id => ?_
    rw [get?_filter, get?_registerAll]
    cases found : r.get? id with
    | some h =>
      have taken : r.contains h.id = true := contains_iff.2 ⟨h, mem_of_get? found, rfl⟩
      rw [Option.some_or, Option.filter_some, if_pos taken]
    | none =>
      rw [Option.none_or, Option.filter_eq_none_iff]
      intro h hh
      have same : h.id = id := by simpa using List.find?_some hh
      rw [same, contains, found]
      exact Bool.false_ne_true
  -- what `r` has not is what is left of the longer list without `r`
  have grown := length_registerAll handles r
  have split := List.length_eq_length_filter_add (l := (r.registerAll handles).2.handles)
    (r.contains ·.id)
  have rest : ((r.registerAll handles).2.handles.filter (r.contains ·.id)) = r.handles :=
    congrArg Registry.handles former
  rw [rest] at split
  omega

theorem removed_sync (r : Registry) (i : Installation) :
    (r.sync i).1.removed = (r.handles.filter (isStale i)).length := rfl

theorem added_sync (r : Registry) (i : Installation) : (r.sync i).1.added =
    ((r.sync i).2.handles.filter fun h => !(r.kept i).contains h.id).length :=
  count_registerAll i.discover (r.kept i)

/-- A second synchronisation finds nothing to do. -/
theorem sync_again (r : Registry) (i : Installation) :
    (r.sync i).2.sync i = (⟨0, 0⟩, (r.sync i).2) := by
  have kept : (r.sync i).2.kept i = (r.sync i).2 := kept_eq_self fun _ => not_isStale_of_mem_sync
  have stale : (r.sync i).2.handles.filter (isStale i) = [] := by
    rw [List.filter_eq_nil_iff]
    intro h hh
    rw [not_isStale_of_mem_sync hh]
    exact Bool.false_ne_true
  have taken : ∀ h ∈ i.discover, (r.sync i).2.contains h.id = true := by
    intro h hh
    unfold contains
    rw [get?_sync, Option.isSome_or, Bool.or_eq_true]
    refine .inr (List.find?_isSome.2 ⟨h, hh, beq_self_eq_true _⟩)
  have unchanged := registerAll_of_contained taken
  have added : (((r.sync i).2.registerAll i.discover).1).count true = 0 := by
    have grown := length_registerAll i.discover (r.sync i).2
    rw [unchanged] at grown
    omega
  show (Change.mk ((((r.sync i).2.kept i).registerAll i.discover).1.count true)
    ((r.sync i).2.handles.filter (isStale i)).length,
      (((r.sync i).2.kept i).registerAll i.discover).2) = _
  rw [kept, stale, added, unchanged]
  rfl

end Registry

end HeatingHub

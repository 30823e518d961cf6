import HeatingHub.Proofs.Hub.Failure
import HeatingHub.Proofs.Hub.Rendering

/-!
# Which entities are rendered again

The calls of a request touch the overrides or the component that the request acts on, and nothing
else (`Planned.acts`). So no other entity shows something new, and once the request was met those
that do are rendered again: all that listen if an override was touched, and otherwise the one
entity that was named, though not another one for the same component.
-/

namespace HeatingHub

open Calendar (Date Moment)

/-! ## What calls act on -/

/-- The call touches an override or the component. -/
def Call.ActsOn (call : Call) (id : ComponentId) : Prop :=
  call.isSystemWide = true ∨ call.component? = some id

section Calls

variable {i : Installation} {call : Call}

theorem actsOn_of_mem_conflict {kind : Kind} {today : Date}
    (hc : call ∈ (i.conflict kind today).toList) (id : ComponentId) : call.ActsOn id := by
  rcases Installation.removes_of_mem_conflict hc with rfl | rfl
  · exact .inl rfl
  · exact .inl rfl

theorem actsOn_of_mem_zone_vetoRemoval {z : Zone} (hc : call ∈ z.vetoRemoval) :
    call.ActsOn (.zone z.id) := by
  rw [zone_vetoRemoval_eq] at hc
  split at hc
  · obtain rfl := List.mem_singleton.1 hc
    exact .inr rfl
  · cases hc

theorem actsOn_of_mem_room_vetoRemoval {r : Room} (hc : call ∈ r.vetoRemoval) :
    call.ActsOn (.room r.id) := by
  rw [room_vetoRemoval_eq] at hc
  split at hc
  · obtain rfl := List.mem_singleton.1 hc
    exact .inr rfl
  · cases hc

/-- A setting after the removal of a veto acts on the component alone. -/
theorem actsOn_of_mem_setting {id : ComponentId} {removal : List Call} {setting : Call}
    (removes : ∀ call ∈ removal, call.ActsOn id) (sets : setting.ActsOn id)
    (hc : call ∈ removal ++ [setting]) : call.ActsOn id := by
  rcases List.mem_append.1 hc with hc | hc
  · exact removes call hc
  · obtain rfl := List.mem_singleton.1 hc
    exact sets

/-- The removal of an override and then of a veto acts on the component. -/
theorem actsOn_of_mem_removals {kind : Kind} {today : Date} {id : ComponentId}
    {removal : List Call} (removes : ∀ call ∈ removal, call.ActsOn id)
    (hc : call ∈ (i.conflict kind today).toList ++ removal) : call.ActsOn id := by
  rcases List.mem_append.1 hc with hc | hc
  · exact actsOn_of_mem_conflict hc id
  · exact removes call hc

theorem actsOn_of_mem_zone_clearing {z : Zone} {today : Date} {setting : Call}
    (sets : setting.ActsOn (.zone z.id))
    (hc : call ∈ (i.conflict .zone today).toList ++ z.vetoRemoval ++ [setting]) :
    call.ActsOn (.zone z.id) := by
  refine actsOn_of_mem_setting ?_ sets hc
  intro call hc
  exact actsOn_of_mem_removals (fun _ => actsOn_of_mem_zone_vetoRemoval) hc

theorem actsOn_of_mem_room_mode {r : Room} {mode : OperatingMode} {now : Moment}
    (hc : call ∈ r.modeCalls i mode now) : call.ActsOn (.room r.id) := by
  refine actsOn_of_mem_setting ?_ (.inr rfl) hc
  intro call hc
  exact actsOn_of_mem_removals (fun _ => actsOn_of_mem_room_vetoRemoval) hc

theorem actsOn_of_mem_room_target {r : Room} {target : Float} {minutes : Nat} {now : Moment}
    (hc : call ∈ r.targetCalls i target minutes now) : call.ActsOn (.room r.id) := by
  rcases List.mem_append.1 hc with hc | hc
  · exact actsOn_of_mem_conflict hc _
  · split at hc
    · obtain rfl := List.mem_singleton.1 hc
      exact .inr rfl
    · exact actsOn_of_mem_setting (fun _ => actsOn_of_mem_room_vetoRemoval) (.inr rfl) hc

theorem actsOn_of_mem_hotWater_target {w : HotWater} {target : Float} {now : Moment}
    (hc : call ∈ w.targetCalls i target now) : call.ActsOn (.hotWater w.id) := by
  refine actsOn_of_mem_setting ?_ (.inr rfl) hc
  intro call hc
  rcases List.mem_append.1 hc with hc | hc
  · exact actsOn_of_mem_conflict hc _
  · split at hc
    · obtain rfl := List.mem_singleton.1 hc
      exact .inr rfl
    · cases hc

end Calls

section Plans

variable {h : Hub} {now : Moment} {i : Installation} {request : Request} {calls : List Call}

/-- Every call of a plan touches an override or the component that the request acts on. -/
theorem Planned.acts (hp : Planned h now i request calls) {call : Call} (hc : call ∈ calls) :
    call.isSystemWide = true ∨ ∃ entity id, request.entity? = some entity ∧
      h.componentOf entity = .ok id ∧ call.component? = some id := by
  have acting {entity : String} {id : ComponentId} (named : request.entity? = some entity)
      (found : h.componentOf entity = .ok id) (acts : call.ActsOn id) :
      call.isSystemWide = true ∨ ∃ entity id, request.entity? = some entity ∧
        h.componentOf entity = .ok id ∧ call.component? = some id :=
    acts.imp_right fun touched => ⟨entity, id, named, found, touched⟩
  induction hp with
  | zoneTarget found => exact acting rfl found (actsOn_of_mem_zone_clearing (.inr rfl) hc)
  | roomTarget found => exact acting rfl found (actsOn_of_mem_room_target hc)
  | waterTarget found => exact acting rfl found (actsOn_of_mem_hotWater_target hc)
  | zoneMode found => exact acting rfl found (actsOn_of_mem_zone_clearing (.inr rfl) hc)
  | roomMode found => exact acting rfl found (actsOn_of_mem_room_mode hc)
  | waterMode found =>
    exact acting rfl found
      (actsOn_of_mem_setting (fun _ hc => actsOn_of_mem_conflict hc _) (.inr rfl) hc)
  | zoneVeto found =>
    exact acting rfl found
      (actsOn_of_mem_setting (fun _ => actsOn_of_mem_zone_vetoRemoval) (.inr rfl) hc)
  | roomVeto found =>
    exact acting rfl found
      (actsOn_of_mem_setting (fun _ => actsOn_of_mem_room_vetoRemoval) (.inr rfl) hc)
  | zoneVetoRemoval found => exact acting rfl found (actsOn_of_mem_zone_vetoRemoval hc)
  | roomVetoRemoval found => exact acting rfl found (actsOn_of_mem_room_vetoRemoval hc)
  | quickMode | quickModeRemoval | quickModeRemovalFor | holiday | holidayRemoval =>
    obtain rfl := List.mem_singleton.1 hc
    exact .inl rfl
  | quickModeReplaced =>
    rcases List.mem_cons.1 hc with rfl | hc
    · exact .inl rfl
    · obtain rfl := List.mem_singleton.1 hc
      exact .inl rfl
  | noQuickMode | quickModeKept | noHoliday | temperatureKept => cases hc
  | temperature _ ih => exact ih hc acting
  | hvac _ _ _ ih => exact ih hc acting

/-- A call of a plan that concerns an entity touches an override, or the component that the entity
and the request have in common. -/
theorem Planned.shared (hp : Planned h now i request calls) {call : Call} (hc : call ∈ calls)
    {g : Handle} (concerns : call.Concerns g) :
    call.isSystemWide = true ∨ ∃ entity id, request.entity? = some entity ∧
      h.componentOf entity = .ok id ∧ call.component? = some id ∧ g.component = some id := by
  rcases concerns with wide | ⟨id, touched, stands⟩
  · exact .inl wide
  · rcases hp.acts hc with wide | ⟨entity, acted, named, found, acts⟩
    · exact .inl wide
    · rw [touched] at acts
      obtain rfl := Option.some.inj acts
      exact .inr ⟨entity, id, named, found, touched, stands⟩

theorem Hub.mem_affected_of_listening {g : Handle} (registered : g ∈ h.registry.handles)
    (listening : g.listening = true) (wide : calls.any (·.isSystemWide) = true)
    (entity : Option String) : g.id ∈ h.affected calls entity := by
  have some : calls.isEmpty = false := by
    cases calls with
    | nil => cases wide
    | cons _ _ => rfl
  have among : g.id ∈ h.registry.listening :=
    List.mem_map.2 ⟨g, List.mem_filter.2 ⟨registered, listening⟩, rfl⟩
  unfold affected
  rw [some, wide]
  exact List.mem_append_left _ among

theorem Hub.mem_affected_of_named {call : Call} (hc : call ∈ calls) (entity : String) :
    entity ∈ h.affected calls (some entity) := by
  have some : calls.isEmpty = false := by
    cases calls with
    | nil => cases hc
    | cons _ _ => rfl
  unfold affected
  rw [some]
  exact List.mem_append_right _ (List.mem_singleton_self entity)

/-- Of the listening entities that a call of a plan concerns, only others for the component of the
one that was named are not rendered again. -/
theorem Planned.announces (hp : Planned h now i request calls) {g : Handle}
    (registered : g ∈ h.registry.handles) (listening : g.listening = true) {call : Call}
    (hc : call ∈ calls) (concerns : call.Concerns g) :
    g.id ∈ h.affected calls request.entity? ∨ (∀ call ∈ calls, call.isSystemWide = false) ∧
      ∃ entity id, request.entity? = some entity ∧ entity ≠ g.id ∧ h.componentOf entity = .ok id ∧
        g.component = some id ∧ entity ∈ h.affected calls request.entity? := by
  cases wide : calls.any (·.isSystemWide) with
  | true => exact .inl (Hub.mem_affected_of_listening registered listening wide request.entity?)
  | false =>
    have own : ∀ call ∈ calls, call.isSystemWide = false := by
      simpa only [List.any_eq_false, Bool.not_eq_true] using wide
    rcases hp.shared hc concerns with overriding | ⟨entity, id, named, found, _, stands⟩
    · rw [own call hc] at overriding
      cases overriding
    · have announced : entity ∈ h.affected calls request.entity? := by
        rw [named]
        exact Hub.mem_affected_of_named hc entity
      by_cases same : entity = g.id
      · exact .inl (same ▸ announced)
      · exact .inr ⟨own, entity, id, named, same, found, stands, announced⟩

end Plans

/-! ## What entities show -/

namespace Hub

variable {hub : Hub} {i : Installation} {calls : List Call} {h : Handle} {now : Moment}

/-- What the host sees of an entity. -/
def shows (hub : Hub) (h : Handle) (now : Moment) : Option String :=
  hub.snapshot.installation.map (h.state · now)

theorem concerns_of_shows_ne (held : hub.snapshot.installation = some i) (ordered : Orderly i calls)
    (differs : (hub.patched calls).shows h now ≠ hub.shows h now) :
    ∃ call ∈ calls, call.Concerns h := by
  refine Classical.byContradiction fun unconcerned => ?_
  have same : h.state (i.following calls) now = h.state i now := by
    refine Installation.find_following (h.state · now) ?_ i
    intro call hc j
    exact h.state_effect (fun concerns => unconcerned ⟨call, hc, concerns⟩) j now
  unfold shows at differs
  rw [snapshot_patched held ordered, held, Option.map_some, Option.map_some, same] at differs
  exact differs rfl

end Hub

/-- The entity that was to be rendered again. -/
def Event.scheduled? : Event → Option String
  | scheduled entity => some entity
  | _ => none

/-- The entities that were to be rendered again. -/
def announced (trace : List Event) : List String := trace.filterMap Event.scheduled?

theorem mem_announced_append {entity : String} {trace : List Event} {entities : List String}
    (among : entity ∈ entities) : entity ∈ announced (trace ++ entities.map .scheduled) :=
  List.mem_filterMap.2
    ⟨.scheduled entity, List.mem_append_right _ (List.mem_map_of_mem among), rfl⟩

theorem succeeded_done (calls : List Call) : succeeded (calls.map .done) = calls :=
  filterMap_of_telling .done (fun _ => rfl) calls

theorem succeeded_cutAt (before : List Call) (call : Call) (e : ApiError) :
    succeeded (cutAt before call e) = before := by
  have appended : succeeded (cutAt before call e) =
      succeeded (before.map .done) ++ succeeded [.called call (.error e)] := List.filterMap_append
  rw [appended, succeeded_done]
  exact List.append_nil before

namespace Site

variable {σ : Type}

/-- A request changes what an entity shows only by a call that succeeded, for holiday or quick mode
or for the component that the request acts on, which is then that of the entity. If the request was
met, a listening entity that shows something new is rendered again, or it stands for the component
of the entity that the request named, no call for holiday or quick mode was made, and the entity
that was named is rendered again. -/
theorem changes_announced (session : Session σ) (now : Moment) (request : Request) (hub : Hub)
    (remote : σ) {h : Handle} (registered : h ∈ hub.registry.handles)
    (listening : h.listening = true) :
    let run := attempt session now (.request request) hub remote
    let calls := succeeded run.2.remote.2
    run.2.hub.shows h now ≠ hub.shows h now →
      (∃ call ∈ calls, call.isSystemWide = true ∨ ∃ entity id, request.entity? = some entity ∧
        hub.componentOf entity = .ok id ∧ call.component? = some id ∧ h.component = some id) ∧
      (run.1 = .ok () → h.id ∈ announced run.2.log ∨
        (∀ call ∈ calls, call.isSystemWide = false) ∧
          ∃ entity id, request.entity? = some entity ∧ entity ≠ h.id ∧
            hub.componentOf entity = .ok id ∧ h.component = some id ∧
            entity ∈ announced run.2.log) := by
  intro run calls differs
  rcases attempt_cases session now (.request request) hub remote with ⟨e, _, _, hr⟩ |
    ⟨planned, next, hp, hr⟩ | ⟨before, call, after, e, next, hp, hr⟩
  -- the request was refused
  · have unchanged : run.2.hub = hub := congrArg (·.2.hub) hr
    rw [unchanged] at differs
    exact absurd rfl differs
  -- every call succeeded
  · obtain ⟨i, held, plan⟩ := planned_of_plan hp
    have done : calls = planned := by
      have traced : run.2.remote.2 = planned.map .done := congrArg (·.2.remote.2) hr
      show succeeded run.2.remote.2 = planned
      rw [traced, succeeded_done]
    have patched : run.2.hub = hub.patched planned := congrArg (·.2.hub) hr
    have logged : run.2.log =
        planned.map .done ++ (hub.affected planned request.entity?).map .scheduled :=
      congrArg (·.2.log) hr
    have scheduled : ∀ entity ∈ hub.affected planned request.entity?,
        entity ∈ announced run.2.log := by
      intro entity among
      rw [logged]
      exact mem_announced_append among
    rw [patched] at differs
    obtain ⟨call, hc, concerns⟩ := Hub.concerns_of_shows_ne held plan.orderly differs
    rw [done]
    refine ⟨⟨call, hc, plan.shared hc concerns⟩, ?_⟩
    intro _
    rcases plan.announces registered listening hc concerns with among |
      ⟨own, entity, id, named, other, found, stands, among⟩
    · exact .inl (scheduled h.id among)
    · exact .inr ⟨own, entity, id, named, other, found, stands, scheduled entity among⟩
  -- one call failed, and those before it are a prefix of the plan
  · obtain ⟨i, held, plan⟩ := planned_of_plan hp
    have done : calls = before := by
      have traced : run.2.remote.2 = cutAt before call e := congrArg (·.2.remote.2) hr
      show succeeded run.2.remote.2 = before
      rw [traced, succeeded_cutAt]
    have patched : run.2.hub = hub.patched before := congrArg (·.2.hub) hr
    have failed : run.1 = .error (.api e) := congrArg Prod.fst hr
    rw [patched] at differs
    obtain ⟨call, hc, concerns⟩ :=
      Hub.concerns_of_shows_ne held (orderly_append.1 plan.orderly).1 differs
    rw [done, failed]
    refine ⟨⟨call, hc, plan.shared (List.mem_append_left _ hc) concerns⟩, nofun⟩

/-- The quick mode that had everything off is removed, and a room is rendered again. -/
theorem changes_announced_of_quickMode :
    let now : Moment := ⟨⟨738000⟩, .midnight⟩
    let kitchen : Handle := .ofComponent "climate.multimatic_kitchen" "Kitchen" (.room "0") true
    let hub : Hub := { Hub.new 300 180 with
      snapshot := ⟨some { Installation.ofRooms [("0", "Kitchen")] with
        quickMode := some .systemOff }, 1⟩
      registry := .register .empty kitchen }
    let run := attempt .obliging now (.request (.removeQuickMode none)) hub ()
    kitchen ∈ hub.registry.handles ∧ kitchen.listening = true ∧
      run.2.hub.shows kitchen now ≠ hub.shows kitchen now ∧ run.1 = .ok () ∧
      "climate.multimatic_kitchen" ∈ announced run.2.log := by
  intro now kitchen hub run
  have registered : kitchen ∈ hub.registry.handles := by decide
  have differs : run.2.hub.shows kitchen now ≠ hub.shows kitchen now := by decide +kernel
  obtain ⟨_, met⟩ := changes_announced .obliging now (.removeQuickMode none) hub () registered rfl
    differs
  refine ⟨registered, rfl, differs, rfl, ?_⟩
  rcases met rfl with among | ⟨_, _, _, named, _⟩
  · exact among
  · cases named

/-- Every listening entity that shows something new is rendered again. -/
def AnnouncesAll (hub : Hub) (now : Moment) (site : Site σ) : Prop :=
  ∀ h ∈ hub.registry.handles, h.listening = true →
    site.hub.shows h now ≠ hub.shows h now → h.id ∈ announced site.log

/-- A room was renamed, so that two entities stand for it: a quick veto set through one of them
changes what the other shows, which is not rendered again. Nor is anything rendered again if a quick
mode was removed to make way for a veto that then fails. -/
theorem changes_not_announced :
    let now : Moment := ⟨⟨738000⟩, .midnight⟩
    let renamed := (Site.new (.new 0 180)
      [Installation.ofRooms [("0", "Kitchen")], Installation.ofRooms [("0", "Pantry")]]).run
        .serving [.update 0, .update 1]
    let veto : Request := .setVeto "climate.multimatic_pantry" 21 (some 60)
    let off := (Site.new (.new 0 180) [{ Installation.ofRooms [("0", "Kitchen")] with
      quickMode := some .systemOff }]).run .serving [.update 0]
    let target : Request := .setTarget "climate.multimatic_kitchen" 21
    ¬AnnouncesAll renamed.hub now (attempt .serving now (.request veto) renamed.hub []).2 ∧
      ¬AnnouncesAll off.hub now (attempt .lasting now (.request target) off.hub 1).2 := by
  intro now renamed veto off target
  let kitchen : Handle := .ofComponent "climate.multimatic_kitchen" "Kitchen" (.room "0") true
  constructor
  · intro all
    have registered : kitchen ∈ renamed.hub.registry.handles := by decide +kernel
    have among := all kitchen registered rfl (by decide +kernel)
    have others : announced (attempt .serving now (.request veto) renamed.hub []).2.log =
        ["climate.multimatic_pantry"] := by decide +kernel
    rw [others] at among
    revert among
    decide
  · intro all
    have registered : kitchen ∈ off.hub.registry.handles := by decide +kernel
    have among := all kitchen registered rfl (by decide +kernel)
    have nothing : announced (attempt .lasting now (.request target) off.hub 1).2.log = [] := by
      decide +kernel
    rw [nothing] at among
    cases among

end Site

/-! ## Announcements by calls -/

/-- The entity that the operation acts on. -/
def Operation.entity? (op : Operation) : Option String := op.request?.bind (·.entity?)

theorem announced_append (trace more : List Event) :
    announced (trace ++ more) = announced trace ++ announced more := List.filterMap_append

theorem announced_done (calls : List Call) : announced (calls.map .done) = [] :=
  filterMap_of_silent .done (fun _ => rfl) calls

theorem announced_scheduled (entities : List String) :
    announced (entities.map .scheduled) = entities :=
  filterMap_of_telling .scheduled (fun _ => rfl) entities

theorem Registry.mem_listening {r : Registry} {entity : String} :
    entity ∈ r.listening ↔ ∃ h ∈ r.handles, h.id = entity ∧ h.listening = true := by
  unfold listening
  rw [List.mem_map]
  constructor
  · rintro ⟨h, among, same⟩
    obtain ⟨registered, listens⟩ := List.mem_filter.1 among
    exact ⟨h, registered, same, listens⟩
  · rintro ⟨h, registered, same, listens⟩
    exact ⟨h, List.mem_filter.2 ⟨registered, listens⟩, same⟩

theorem Registry.pairwise_listening (r : Registry) : r.listening.Pairwise (· < ·) :=
  List.pairwise_map.2 (r.ascending.filter (·.listening))

theorem Hub.affected_eq (h : Hub) (calls : List Call) (entity : Option String) :
    h.affected calls entity =
      (if calls.any (·.isSystemWide) then h.registry.listening else []) ++
        if calls.isEmpty then [] else entity.toList := by
  cases calls with
  | nil => rfl
  | cons call calls => rfl

/-- An operation without a request comes to no calls, unless it removes overrides. -/
theorem Operation.affected_eq {op : Operation} (acts : ∀ kind, op ≠ .clearOverrides kind)
    {hub : Hub} {now : Moment} {calls : List Call} (hp : op.plan hub now = .ok calls) (h : Hub) :
    op.affected h calls =
      (if calls.any (·.isSystemWide) then h.registry.listening else []) ++
        if calls.isEmpty then [] else op.entity?.toList := by
  unfold Operation.affected Operation.entity?
  cases asked : op.request? with
  | some r => exact h.affected_eq calls r.entity?
  | none =>
    cases op with
    | request _ => cases asked
    | command c =>
      unfold Operation.plan at hp
      simp only [show c.request? = none from asked] at hp
      cases held : hub.installation with
      | error e => simp [held, Except.map] at hp
      | ok i =>
        simp only [held, Except.map, Except.ok.injEq] at hp
        subst hp
        rfl
    | clearOverrides kind => exact absurd rfl (acts kind)

/-- If a request or a command was met, the entities that are rendered again can be told from the
calls that were made: those that listen, in the order of ids, if there was one for holiday or quick
mode, and then the entity that was acted on, if there was one at all. So it is when the operation is
carried out step by step. -/
theorem Site.announced_by_calls {σ : Type} (session : Session σ) (now : Moment) {op : Operation}
    (acts : ∀ kind, op ≠ .clearOverrides kind) (hub : Hub) (remote : σ) :
    let run := op.flow session.recorded now (new hub (remote, []))
    let calls := made run.2.remote.2
    run.1 = .ok () →
      announced run.2.log =
        (if calls.any (·.isSystemWide) then hub.registry.listening else []) ++
          (if calls.isEmpty then [] else op.entity?.toList) ∧
      hub.registry.listening.Pairwise (· < ·) ∧
      ∀ entity, entity ∈ hub.registry.listening ↔
        ∃ h ∈ hub.registry.handles, h.id = entity ∧ h.listening = true := by
  intro run calls met
  refine ⟨?_, hub.registry.pairwise_listening, fun _ => Registry.mem_listening⟩
  have attempted : run = attempt session now op hub remote :=
    flow_eq_operate session.recorded now op _
  rcases attempt_cases session now op hub remote with ⟨e, _, _, hr⟩ | ⟨planned, next, hp, hr⟩ |
    ⟨before, call, after, e, next, _, hr⟩ <;> rw [hr] at attempted
  · rw [attempted] at met
    cases met
  · have made : calls = planned := by
      show made run.2.remote.2 = planned
      rw [attempted]
      exact made_done planned
    have logged : run.2.log =
        planned.map .done ++ (op.affected (hub.patched planned) planned).map .scheduled :=
      congrArg (·.2.log) attempted
    rw [logged, announced_append, announced_done, announced_scheduled, made]
    exact Operation.affected_eq acts hp (hub.patched planned)
  · rw [attempted] at met
    cases met

/-- A room is given a target while everything is off: the quick mode goes, so that every listening
entity is rendered again, and then once more the room. -/
theorem Site.announced_by_calls_of_target :
    let now : Moment := ⟨⟨738000⟩, .midnight⟩
    let kitchen : Handle := .ofComponent "climate.multimatic_kitchen" "Kitchen" (.room "0") true
    let pantry : Handle := .ofComponent "climate.multimatic_pantry" "Pantry" (.room "1") true
    let hub : Hub := { Hub.new 300 180 with
      snapshot := ⟨some { Installation.ofRooms [("0", "Kitchen"), ("1", "Pantry")] with
        quickMode := some .systemOff }, 1⟩
      registry := .register (.register .empty pantry) kitchen }
    let op : Operation := .command (.setTemperature "climate.multimatic_kitchen" 21)
    let run := op.flow Session.obliging.recorded now (new hub ((), []))
    (∀ kind, op ≠ .clearOverrides kind) ∧ run.1 = .ok () ∧ announced run.2.log =
      ["climate.multimatic_kitchen", "climate.multimatic_pantry", "climate.multimatic_kitchen"] := by
  intro now kitchen pantry hub op run
  have acts : ∀ kind, op ≠ .clearOverrides kind := nofun
  have answered : run.1.toOption = some () := by decide +kernel
  have met : run.1 = .ok () := by
    cases outcome : run.1 with
    | ok _ => rfl
    | error e =>
      rw [outcome] at answered
      cases answered
  obtain ⟨listed, _⟩ := announced_by_calls .obliging now acts hub () met
  refine ⟨acts, met, listed.trans ?_⟩
  decide +kernel

end HeatingHub

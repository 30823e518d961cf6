import HeatingHub.Proofs.Hub.Flow
import HeatingHub.Proofs.Hub.Operation

/-!
# Flows come to what plans come to

A flow decides late: it looks up what it needs after the calls before it were patched in. These late
lookups cannot fail, since no call of a plan makes a component disappear (`held_patched`), and they
find what the plan expects. So a flow comes to the same as its plan (`flow_eq_submit`).
-/

namespace HeatingHub

open Calendar (Date Moment)

/-! ## Carrying calls out in a flow -/

namespace Flow

variable {σ α β : Type} {session : Session σ} {site : Site σ}

theorem pure_bind (a : α) (f : α → Flow σ β) : (pure a : Flow σ α) >>= f = f a := rfl

theorem bind_ok {x : Flow σ α} {f : α → Flow σ β} {a : α} {next : Site σ}
    (h : x site = (.ok a, next)) : (x >>= f) site = f a next := by
  simp only [bind, h]

theorem bind_error {x : Flow σ α} {f : α → Flow σ β} {e : HubError} {next : Site σ}
    (h : x site = (.error e, next)) : (x >>= f) site = (.error e, next) := by
  simp only [bind, h]

theorem bind_assoc {γ : Type} (x : Flow σ α) (f : α → Flow σ β) (g : β → Flow σ γ) :
    x >>= f >>= g = x >>= fun a => f a >>= g := by
  funext site
  rcases hx : x site with ⟨e | a, next⟩
  · rw [bind_error hx, bind_error (bind_error hx)]
  · rw [bind_ok hx]
    rcases hf : f a next with ⟨e | b, last⟩
    · rw [bind_error hf, bind_error ((bind_ok hx).trans hf)]
    · rw [bind_ok hf, bind_ok ((bind_ok hx).trans hf)]

theorem look_bind {g : Hub → Except HubError α} {a : α} (h : g site.hub = .ok a)
    (f : α → Flow σ β) : (look g >>= f) site = f a site :=
  bind_ok (congrArg (·, site) h)

theorem look_refuses {g : Hub → Except HubError α} {e : HubError} (h : g site.hub = .error e)
    (f : α → Flow σ β) : (look g >>= f) site = (.error e, site) :=
  bind_error (congrArg (·, site) h)

/-- Carries calls out, and schedules entities and answers if all of them succeed. -/
def carry (session : Session σ) (calls : List Call) (entities : List String) (a : α) : Flow σ α :=
  fun site =>
    match Site.carryOut session calls site with
    | (.ok _, next) => (.ok a, next.schedule entities)
    | (.error e, next) => (.error e, next)

theorem bind_carry {m : Flow σ α} {f : α → Flow σ β} {calls more : List Call}
    {entities : List String} {a : α} {b : β} (hm : m site = carry session calls [] a site)
    (hf : ∀ next : Site σ, next.hub = site.hub.patched calls →
      f a next = carry session more entities b next) :
    (m >>= f) site = carry session (calls ++ more) entities b site := by
  unfold carry at hm ⊢
  rw [Site.carryOut_append]
  rcases hc : Site.carryOut session calls site with ⟨e | _, next⟩
  · simp only [hc] at hm
    exact bind_error hm
  · simp only [hc, Site.schedule_nil] at hm
    exact (bind_ok hm).trans (hf next (Site.hub_of_carryOut_ok hc))

theorem ask_eq_carry (session : Session σ) (call : Call) (site : Site σ) :
    ask session call site = carry session [call] [] () site := by
  unfold ask carry
  rcases Site.carryOut session [call] site with ⟨e | _, next⟩
  · rfl
  · simp only [Site.schedule_nil]

theorem pure_eq_carry (session : Session σ) (a : α) (site : Site σ) :
    (pure a : Flow σ α) site = carry session [] [] a site :=
  congrArg (Prod.mk (Except.ok a)) (Site.schedule_nil site).symm

theorem ask_bind {f : Unit → Flow σ β} {call : Call} {more : List Call} {entities : List String}
    {b : β} (hf : ∀ next : Site σ, next.hub = site.hub.patched [call] →
      f () next = carry session more entities b next) :
    (ask session call >>= f) site = carry session (call :: more) entities b site :=
  bind_carry (ask_eq_carry session call site) hf

theorem askIf_bind {f : Unit → Flow σ β} {condition : Bool} {call : Call} {more : List Call}
    {entities : List String} {b : β} (hf : ∀ next : Site σ,
      next.hub = site.hub.patched (if condition then [call] else []) →
        f () next = carry session more entities b next) :
    (askIf session condition call >>= f) site =
      carry session ((if condition then [call] else []) ++ more) entities b site := by
  refine bind_carry ?_ hf
  cases condition
  · exact pure_eq_carry session () site
  · exact ask_eq_carry session call site

theorem clear_bind {f : Bool → Flow σ β} {now : Moment} {kind : Kind} {i : Installation}
    {more : List Call} {entities : List String} {b : β}
    (hi : site.hub.snapshot.installation = some i)
    (hf : ∀ next : Site σ, next.hub = site.hub.patched (i.conflict kind now.date).toList →
      f (i.conflict kind now.date).isSome next = carry session more entities b next) :
    (clear session now kind >>= f) site =
      carry session ((i.conflict kind now.date).toList ++ more) entities b site := by
  refine bind_carry ?_ hf
  unfold clear Site.clearOverrides carry
  simp only [installation_eq_ok.2 hi]
  rcases Site.carryOut session (i.conflict kind now.date).toList site with ⟨e | _, next⟩
  · rfl
  · exact congrArg (Prod.mk _) (Site.schedule_nil next).symm

end Flow

/-! ## Flows and plans -/

namespace Flow

variable {σ α : Type} {session : Session σ} {entity : Option String} {site : Site σ}

/-- Meets a request by its plan. -/
def planned (session : Session σ) (entity : Option String) (site : Site σ) :
    Except HubError (List Call) → Except HubError Bool × Site σ
  | .error e => (.error e, site)
  | .ok calls => carry session calls (site.hub.affected calls entity) (!calls.isEmpty) site

theorem submit_eq_planned (session : Session σ) (now : Moment) (request : Request)
    (site : Site σ) : site.submit session now request =
      planned session request.entity? site (site.hub.plan now request) := by
  unfold Site.submit planned carry
  cases site.hub.plan now request with
  | error e => rfl
  | ok calls =>
    rcases hc : Site.carryOut session calls site with ⟨e | _, next⟩
    · simp only [hc]
    · simp only [hc]
      rw [Site.hub_of_carryOut_ok hc]
      rfl

theorem look_planned {g : Hub → Except HubError α} {f : α → Flow σ Bool}
    {k : α → Except HubError (List Call)}
    (hf : ∀ a, g site.hub = .ok a → f a site = planned session entity site (k a)) :
    (look g >>= f) site = planned session entity site (g site.hub >>= k) := by
  cases hg : g site.hub with
  | error e => exact look_refuses hg f
  | ok a => exact (look_bind hg f).trans (hf a hg)

/-- A record that is looked up is the component that the plan finds. -/
theorem held_planned {find : Installation → Option α} {id : ComponentId} {wrap : α → Component}
    {f : α → Flow σ Bool} {k : Installation × Component → Except HubError (List Call)}
    (hw : ∀ i : Installation, i.component? id = (find i).map wrap)
    (hf : ∀ i a, site.hub.snapshot.installation = some i → find i = some a →
      f a site = planned session entity site (k (i, wrap a))) :
    (look (·.held find id) >>= f) site =
      planned session entity site (site.hub.component id >>= k) := by
  cases hi : site.hub.installation with
  | error e =>
    have refused : site.hub.held find id = .error e := by simp only [Hub.held, hi, bind, Except.bind]
    simp only [Hub.component, hi]
    exact look_refuses refused f
  | ok i =>
    cases ha : find i with
    | none =>
      have hc : i.component? id = none := by rw [hw, ha]; rfl
      have missing : site.hub.held find id = .error (.componentMissing id) := by
        simp only [Hub.held, hi, bind, Except.bind, ha]
      simp only [Hub.component, hi, bind, Except.bind, hc]
      exact look_refuses missing f
    | some a =>
      have hc : i.component? id = some (wrap a) := by rw [hw, ha]; rfl
      have found : site.hub.held find id = .ok a := by
        simp only [Hub.held, hi, bind, Except.bind, ha]
      simp only [Hub.component, hi, bind, Except.bind, hc]
      exact (look_bind found f).trans (hf i a (installation_eq_ok.1 hi) ha)

/-! ## What flows find and announce -/

theorem installation_patched {h : Hub} {i : Installation} {calls : List Call}
    (hi : h.snapshot.installation = some i) (ho : Orderly i calls) :
    (h.patched calls).snapshot.installation = some (i.following calls) := by
  rw [snapshot_patched hi ho]

theorem held_patched {h : Hub} {i : Installation} {calls : List Call}
    {find : Installation → Option α} {a : α} (hi : h.snapshot.installation = some i)
    (ho : Orderly i calls) (ha : find (i.following calls) = some a) (id : ComponentId) :
    (h.patched calls).held find id = .ok a := by
  have hp : (h.patched calls).installation = .ok (i.following calls) :=
    installation_eq_ok.2 (installation_patched hi ho)
  unfold Hub.held
  rw [hp]
  simp only [bind, Except.bind, ha]

theorem any_conflict (i : Installation) (kind : Kind) (today : Date) :
    (i.conflict kind today).toList.any (·.isSystemWide) = (i.conflict kind today).isSome := by
  rcases i.conflict_cases kind today with ⟨_, hc⟩ | ⟨_, _, hc⟩ | ⟨_, _, hc⟩ <;> rw [hc] <;> rfl

theorem announce_planned {calls : List Call} {overrides : Bool} {last : Site σ}
    (hr : last.hub.registry = site.hub.registry)
    (ho : calls.any (·.isSystemWide) = overrides) (hc : calls.isEmpty = false) :
    (announce overrides entity >>= fun _ => (pure true : Flow σ Bool)) last =
      carry session [] (site.hub.affected calls entity) (!calls.isEmpty) last := by
  show (Except.ok true, last.schedule _) = (Except.ok (!calls.isEmpty), last.schedule _)
  unfold Hub.affected
  rw [hc, ho, hr]
  rfl

theorem replacing_eq_carry (session : Session σ) (vetoed : Bool) (removal setting : Call)
    (site : Site σ) : replacing session vetoed removal setting site =
      carry session ((if vetoed then [removal] else []) ++ [setting]) [] () site :=
  askIf_bind fun next _ => ask_eq_carry session setting next

/-- Once the override that is in the way is gone, the component is looked up again and gets what
`m` gives it. -/
theorem clear_planned (session : Session σ) (now : Moment) (entity : Option String)
    {i : Installation} {kind : Kind} {find : Installation → Option α} {id : ComponentId} {a : α}
    {m : Bool → α → Flow σ Unit} {more : List Call}
    (hi : site.hub.snapshot.installation = some i)
    (ha : find (i.following (i.conflict kind now.date).toList) = some a)
    (hm : ∀ next : Site σ, next.hub = site.hub.patched (i.conflict kind now.date).toList →
      m (i.conflict kind now.date).isSome a next = carry session more [] () next)
    (hs : more.any (·.isSystemWide) = false) (hc : more ≠ []) :
    (do
      let overrides ← clear session now kind
      let a ← look (·.held find id)
      m overrides a
      announce overrides entity
      return true : Flow σ Bool) site =
    planned session entity site (.ok ((i.conflict kind now.date).toList ++ more)) := by
  rw [← List.append_nil more]
  refine clear_bind hi fun next hn => ?_
  have again : next.hub.held find id = .ok a := by
    rw [hn]
    exact held_patched hi (i.orderly_conflict kind now.date) ha id
  rw [look_bind again]
  refine bind_carry (hm next hn) fun last hl => announce_planned ?_ ?_ ?_
  · rw [hl, hn]
    rfl
  · rw [List.append_nil, List.any_append, any_conflict, hs, Bool.or_false]
  · simp [hc]

theorem replacing_planned (session : Session σ) (entity : Option String) (site : Site σ)
    {vetoed overrides : Bool} {removal setting : Call}
    (ho : ((if vetoed then [removal] else []) ++ [setting]).any (·.isSystemWide) = overrides) :
    (do
      replacing session vetoed removal setting
      announce overrides entity
      return true : Flow σ Bool) site =
    planned session entity site (.ok ((if vetoed then [removal] else []) ++ [setting])) := by
  rw [← List.append_nil ((if vetoed then [removal] else []) ++ [setting])]
  refine bind_carry (replacing_eq_carry session vetoed removal setting site) fun last hl =>
    announce_planned ?_ ?_ ?_
  · rw [hl]
    rfl
  · rw [List.append_nil, ho]
  · simp

/-! ## Each request as planned -/

section Requests

variable (session : Session σ) (now : Moment) (entity : String) (site : Site σ)

theorem zone_clear_planned {i : Installation} {z : Zone} {setting : Zone → Call}
    (hi : site.hub.snapshot.installation = some i) (hz : i.zone? z.id = some z)
    (hs : (setting z).isSystemWide = false) :
    (do
      let overrides ← clear session now .zone
      let z ← look (·.zone z.id)
      replacing session z.veto.isSome (.removeZoneVeto z.id) (setting z)
      announce overrides (some entity)
      return true : Flow σ Bool) site =
    planned session (some entity) site
      (.ok ((i.conflict .zone now.date).toList ++ z.vetoRemoval ++ [setting z])) := by
  have held : (i.following (i.conflict .zone now.date).toList).zone? z.id = some z := by
    rw [i.following_conflict_zone?, hz]
  rw [List.append_assoc, zone_vetoRemoval_eq]
  refine clear_planned session now _ hi held ?_ (any_setting rfl hs) (by simp)
  intro next _
  exact replacing_eq_carry session _ _ _ next

theorem room_clear_planned {i : Installation} {r : Room} {setting : Room → Call}
    (hi : site.hub.snapshot.installation = some i) (hr : i.room? r.id = some r)
    (hs : (setting r).isSystemWide = false) :
    (do
      let overrides ← clear session now .room
      let r ← look (·.room r.id)
      replacing session r.veto.isSome (.removeRoomVeto r.id) (setting r)
      announce overrides (some entity)
      return true : Flow σ Bool) site =
    planned session (some entity) site
      (.ok ((i.conflict .room now.date).toList ++ r.vetoRemoval ++ [setting r])) := by
  have held : (i.following (i.conflict .room now.date).toList).room? r.id = some r := by
    rw [i.following_conflict_room?, hr]
  rw [List.append_assoc, room_vetoRemoval_eq]
  refine clear_planned session now _ hi held ?_ (any_setting rfl hs) (by simp)
  intro next _
  exact replacing_eq_carry session _ _ _ next

theorem giveRoom_eq_carry {i : Installation} (hi : site.hub.snapshot.installation = some i)
    (r : Room) (target : Float) : giveRoom session now r target site = carry session
      (if (i.effectiveRoom r now).isOperating .manual then [.setRoomTarget r.id target]
      else r.vetoRemoval ++ [.setRoomVeto r.id ⟨target, some site.hub.vetoMinutes⟩])
      [] () site := by
  refine (look_bind (installation_eq_ok.2 hi) _).trans ?_
  by_cases manual : (i.effectiveRoom r now).isOperating .manual
  · rw [if_pos manual, if_pos manual]
    exact ask_eq_carry session _ site
  · rw [if_neg manual, if_neg manual, room_vetoRemoval_eq]
    refine (look_bind (a := site.hub.vetoMinutes) rfl _).trans ?_
    exact replacing_eq_carry session _ _ _ site

theorem giveHotWater_eq_carry {i : Installation} (hi : site.hub.snapshot.installation = some i)
    (overrides : Bool) (w : HotWater) (target : Float) :
    giveHotWater session now overrides w target site = carry session
      ((if overrides || (i.effectiveHotWater w now).isOperating .off then
        [.setHotWaterMode w.id .on] else []) ++ [.setHotWaterTarget w.id target]) [] () site := by
  refine (look_bind (installation_eq_ok.2 hi) _).trans ?_
  exact askIf_bind fun next _ => ask_eq_carry session _ next

theorem roomTarget_planned {i : Installation} {r : Room}
    (hi : site.hub.snapshot.installation = some i) (hr : i.room? r.id = some r)
    (target : Float) :
    (do
      let overrides ← clear session now .room
      let r ← look (·.room r.id)
      giveRoom session now r target
      announce overrides (some entity)
      return true : Flow σ Bool) site =
    planned session (some entity) site
      (.ok (r.targetCalls i target site.hub.vetoMinutes now)) := by
  have held : (i.following (i.conflict .room now.date).toList).room? r.id = some r := by
    rw [i.following_conflict_room?, hr]
  simp only [Room.targetCalls, i.after_conflict]
  refine clear_planned session now _ hi held ?_ ?_ ?_
  · intro next hn
    have known := installation_patched hi (i.orderly_conflict .room now.date)
    rw [← hn] at known
    rw [giveRoom_eq_carry session now next known, hn]
    rfl
  · split
    · rfl
    · rw [room_vetoRemoval_eq]
      exact any_setting rfl rfl
  · split <;> simp

theorem hotWaterTarget_planned {i : Installation} {w : HotWater}
    (hi : site.hub.snapshot.installation = some i) (hw : i.hotWater? w.id = some w)
    (target : Float) :
    (do
      let overrides ← clear session now .hotWater
      let w ← look (·.hotWater w.id)
      giveHotWater session now overrides w target
      announce overrides (some entity)
      return true : Flow σ Bool) site =
    planned session (some entity) site (.ok (w.targetCalls i target now)) := by
  have held : (i.following (i.conflict .hotWater now.date).toList).hotWater? w.id = some w := by
    rw [i.following_conflict_hotWater?, hw]
  simp only [HotWater.targetCalls, i.after_conflict, List.append_assoc]
  refine clear_planned session now _ hi held ?_ (any_setting rfl rfl) (by simp)
  intro next hn
  have known := installation_patched hi (i.orderly_conflict .hotWater now.date)
  rw [← hn] at known
  exact giveHotWater_eq_carry session now next known _ w target

theorem setTarget_planned (target : Float) : setTarget session now entity target site =
    planned session (some entity) site (site.hub.planTarget now entity target) := by
  refine look_planned fun id found => ?_
  cases id with
  | zone id =>
    simp only [zoneTarget, bind_assoc, pure_bind]
    refine look_planned fun _ fits => held_planned (fun _ => rfl) fun i z hi hz => ?_
    obtain rfl := Installation.zone_id hz
    exact zone_clear_planned session now entity site hi hz rfl
  | room id =>
    simp only [roomTarget, bind_assoc, pure_bind]
    refine look_planned fun _ fits => held_planned (fun _ => rfl) fun i r hi hr => ?_
    obtain rfl := Installation.room_id hr
    exact roomTarget_planned session now entity site hi hr target
  | hotWater id =>
    simp only [hotWaterTarget, bind_assoc, pure_bind]
    refine look_planned fun _ fits => held_planned (fun _ => rfl) fun i w hi hw => ?_
    obtain rfl := Installation.hotWater_id hw
    exact hotWaterTarget_planned session now entity site hi hw target
  | circulation _ => rfl

theorem setMode_planned (mode : OperatingMode) : setMode session now entity mode site =
    planned session (some entity) site (site.hub.planMode now entity mode) := by
  refine look_planned fun id found => ?_
  by_cases circulates : id.kind = .circulation
  · rw [if_pos circulates]
    simp only [if_pos circulates]
    rfl
  rw [if_neg circulates]
  simp only [if_neg circulates]
  cases valid : mode.isValidFor id.kind with
  | false => rfl
  | true =>
    refine (look_bind (a := ()) rfl _).trans ?_
    cases id with
    | zone id =>
      simp only [zoneMode, bind_assoc, pure_bind]
      refine held_planned (fun _ => rfl) fun i z hi hz => ?_
      obtain rfl := Installation.zone_id hz
      exact zone_clear_planned session now entity site hi hz rfl
    | room id =>
      simp only [roomMode, bind_assoc, pure_bind]
      refine held_planned (fun _ => rfl) fun i r hi hr => ?_
      obtain rfl := Installation.room_id hr
      exact room_clear_planned session now entity site hi hr rfl
    | hotWater id =>
      simp only [hotWaterMode, bind_assoc, pure_bind]
      refine held_planned (fun _ => rfl) fun i w hi hw => ?_
      obtain rfl := Installation.hotWater_id hw
      show _ = planned session _ site (.ok ((i.conflict .hotWater now.date).toList ++ _))
      refine clear_bind hi fun next hn => ask_bind fun last hl => announce_planned ?_ ?_ ?_
      · rw [hl, hn]
        rfl
      · rw [List.any_append, any_conflict]
        exact Bool.or_false _
      · simp
    | circulation _ => exact absurd rfl circulates

theorem setVeto_planned (target : Float) (duration : Option Nat) :
    setVeto session entity target duration site =
      planned session (some entity) site (site.hub.planVeto entity target duration) := by
  refine look_planned fun id found => ?_
  refine (look_bind (a := duration.getD site.hub.vetoMinutes) rfl _).trans ?_
  cases id with
  | zone id =>
    refine look_planned fun _ fits => held_planned (fun _ => rfl) fun i z hi hz => ?_
    show _ = planned session _ site (.ok (z.vetoRemoval ++ _))
    rw [zone_vetoRemoval_eq]
    exact replacing_planned session _ site (any_setting rfl rfl)
  | room id =>
    refine look_planned fun _ fits => held_planned (fun _ => rfl) fun i r hi hr => ?_
    show _ = planned session _ site (.ok (r.vetoRemoval ++ _))
    rw [room_vetoRemoval_eq]
    exact replacing_planned session _ site (any_setting rfl rfl)
  | hotWater _ => rfl
  | circulation _ => rfl

/-- A single call for an entity, or none. -/
theorem single_planned {overrides : Bool} {call : Call} (hc : call.isSystemWide = overrides)
    (of : Option String) :
    (do
      ask session call
      announce overrides of
      return true : Flow σ Bool) site = planned session of site (.ok [call]) := by
  refine ask_bind fun last hl => announce_planned ?_ ?_ rfl
  · rw [hl]
    rfl
  · rw [List.any_cons, hc]
    exact Bool.or_false _

theorem nothing_planned (of : Option String) :
    (pure false : Flow σ Bool) site = planned session of site (.ok []) :=
  pure_eq_carry session false site

theorem removeVeto_planned : removeVeto session entity site =
    planned session (some entity) site (site.hub.planVetoRemoval entity) := by
  refine look_planned fun id found => ?_
  cases id with
  | zone id =>
    refine held_planned (fun _ => rfl) fun i z hi hz => ?_
    show _ = planned session _ site (.ok z.vetoRemoval)
    rw [zone_vetoRemoval_eq]
    split
    · exact single_planned session site rfl _
    · exact nothing_planned session site _
  | room id =>
    refine held_planned (fun _ => rfl) fun i r hi hr => ?_
    show _ = planned session _ site (.ok r.vetoRemoval)
    rw [room_vetoRemoval_eq]
    split
    · exact single_planned session site rfl _
    · exact nothing_planned session site _
  | hotWater _ => rfl
  | circulation _ => rfl

theorem setQuickMode_planned (mode : QuickMode) : setQuickMode session mode site =
    planned session none site (site.hub.planQuickMode mode) := by
  refine look_planned fun i hi => ?_
  cases i.quickMode with
  | none => exact replacing_planned session none site rfl
  | some q => exact replacing_planned session none site rfl

theorem removeQuickMode_planned (of : Option String) : removeQuickMode session of site =
    planned session of site (site.hub.planQuickModeRemoval of) := by
  refine look_planned fun i hi => ?_
  cases i.quickMode with
  | none => exact nothing_planned session site of
  | some q =>
    cases of with
    | none => exact single_planned session site rfl none
    | some entity =>
      refine look_planned fun id found => ?_
      simp only [pure_bind]
      cases q.appliesTo id.kind with
      | true => exact single_planned session site rfl _
      | false => exact nothing_planned session site _

theorem setHoliday_planned (start finish : Date) (target : Float) :
    setHoliday session start finish target site =
      planned session none site (site.hub.planHoliday start finish target) := by
  unfold setHoliday Hub.planHoliday
  by_cases reversed : finish < start
  · simp only [if_pos reversed]
    rfl
  · simp only [if_neg reversed]
    refine (look_bind (a := ()) rfl _).trans ?_
    refine look_planned fun _ fits => look_planned fun i hi => ?_
    exact single_planned session site rfl none

theorem removeHoliday_planned : removeHoliday session site =
    planned session none site site.hub.planHolidayRemoval := by
  refine look_planned fun i hi => ?_
  rcases i.holiday with _ | ⟨_ | _, start, finish, target⟩
  · exact nothing_planned session site none
  · exact nothing_planned session site none
  · exact single_planned session site rfl none

theorem setTemperature_planned (target : Float) :
    setTemperature session now entity target site =
      planned session (some entity) site (site.hub.planTemperature now entity target) := by
  have asked := setTarget_planned session now entity site target
  refine look_planned fun id found => ?_
  cases id with
  | zone id =>
    refine held_planned (fun _ => rfl) fun i z hi hz => ?_
    refine (look_bind (installation_eq_ok.2 hi) _).trans ?_
    simp only
    cases (i.effectiveZone z now).target with
    | none => exact asked
    | some t =>
      simp only [Option.any_some]
      by_cases same : t.beq target = true
      · rw [if_pos same, if_pos same]
        exact nothing_planned session site _
      · rw [if_neg same, if_neg same]
        exact asked
  | room _ => exact asked
  | hotWater _ => exact asked
  | circulation _ => exact asked

theorem setHvac_planned (hvac : HvacMode) : setHvac session now entity hvac site =
    planned session (some entity) site (site.hub.planHvac now entity hvac) := by
  refine look_planned fun id found => ?_
  cases operatingModeFor id.kind hvac with
  | some mode => exact setMode_planned session now entity site mode
  | none => rfl

/-- Meeting a request step by step comes to the same as carrying out its plan. -/
theorem flow_eq_submit (request : Request) :
    request.flow session now site = site.submit session now request := by
  rw [submit_eq_planned]
  cases request with
  | setTarget entity target => exact setTarget_planned session now entity site target
  | setMode entity mode => exact setMode_planned session now entity site mode
  | setVeto entity target duration => exact setVeto_planned session entity site target duration
  | removeVeto entity => exact removeVeto_planned session entity site
  | setQuickMode mode => exact setQuickMode_planned session site mode
  | removeQuickMode entity => exact removeQuickMode_planned session site entity
  | setHoliday start finish target => exact setHoliday_planned session site start finish target
  | removeHoliday => exact removeHoliday_planned session site
  | setTemperature entity target => exact setTemperature_planned session now entity site target
  | setHvac entity hvac => exact setHvac_planned session now entity site hvac

end Requests

end Flow

/-! ## Operations -/

/-- An operation carried out step by step. -/
def Operation.flow {σ : Type} (session : Session σ) (now : Moment) : Operation → Flow σ Unit
  | request r => do
    let _ ← r.flow session now
  | command c =>
    match c.request? with
    | some r => do
      let _ ← r.flow session now
    | none => do
      let _ ← Flow.look (·.installation)
  | clearOverrides kind => do
    let _ ← Flow.clear session now kind

theorem flow_eq_operate {σ : Type} (session : Session σ) (now : Moment) (op : Operation)
    (site : Site σ) : op.flow session now site = site.operate session now op := by
  have answered {α : Type} (m : Flow σ α) :
      (m >>= fun _ => (pure () : Flow σ Unit)) site = ((m site).1.map fun _ => (), (m site).2) := by
    rcases h : m site with ⟨e | a, next⟩
    · exact Flow.bind_error h
    · exact Flow.bind_ok h
  cases op with
  | request r =>
    refine (answered _).trans ?_
    rw [Flow.flow_eq_submit]
    rfl
  | command c =>
    unfold Operation.flow Site.operate Site.execute
    cases hr : c.request? with
    | some r =>
      simp only [hr]
      refine (answered _).trans ?_
      rw [Flow.flow_eq_submit]
      rcases site.submit session now r with ⟨_ | _, _⟩ <;> rfl
    | none =>
      simp only [hr, Hub.status]
      refine (answered _).trans ?_
      show ((site.hub.installation).map fun _ => (), site) = _
      cases site.hub.installation <;> rfl
  | clearOverrides kind => exact answered _

end HeatingHub

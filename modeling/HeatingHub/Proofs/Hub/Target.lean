import HeatingHub.Proofs.Hub.InForce
import HeatingHub.Proofs.Hub.Operation

/-!
# A target that was set takes effect

A request for a target removes the first override that is in the way. If both the holiday and the
quick mode govern the component, the quick mode stays and hides the target until the request is made
again; otherwise the target is in force once the request succeeded.
-/

namespace HeatingHub

open Calendar (Date Moment)

namespace Installation

variable {i : Installation} {now : Moment} {target : Float}

/-- A holiday hides a quick mode: both govern components of the kind. -/
def Masked (i : Installation) (kind : Kind) (today : Date) : Prop := i.Away today ∧ i.Boosted kind

/-- What is in force for a component after the first override was removed and settings were made:
its own mode, or the quick mode that the holiday hid. -/
structure Uncovered (i j : Installation) (c : Component) (now : Moment) : Prop where
  own : ¬i.Masked c.kind now.date → c.effective j now = c.own now
  boosted : i.Masked c.kind now.date → j.holiday = some .inactive ∧ j.quickMode = i.quickMode ∧
    ∃ q, (c.effective j now).mode = .quick q

section Uncovered

variable {calls : List Call} (h : calls.any (·.isSystemWide) = false)

include h

theorem overrides_after (kind : Kind) (today : Date) :
    let j := i.following ((i.conflict kind today).toList ++ calls)
    ¬j.Away today ∧ (¬i.Masked kind today → ¬j.Boosted kind) ∧
      (i.Away today → j.holiday = some .inactive ∧ j.quickMode = i.quickMode) := by
  intro j
  have kept := following_overrides h (i.following (i.conflict kind today).toList)
  rw [← following_append] at kept
  refine ⟨?_, ?_, ?_⟩
  · rw [away_congr kept.1]
    exact i.not_away_following_conflict kind today
  · intro unmasked
    rw [boosted_congr kept.2]
    exact not_boosted_following_conflict unmasked
  · intro away
    rw [following_conflict_of_away away] at kept
    exact kept

theorem uncovered (c : Component) (hc : c.kind ≠ .circulation) (now : Moment) :
    Uncovered i (i.following ((i.conflict c.kind now.date).toList ++ calls)) c now := by
  obtain ⟨away, boosted, kept⟩ := overrides_after (i := i) h c.kind now.date
  constructor
  · intro unmasked
    exact effective_of_free hc away (boosted unmasked)
  · rintro ⟨ha, q, hq, applies⟩
    obtain ⟨inactive, same⟩ := kept ha
    rw [← same] at hq
    exact ⟨inactive, same, q, mode_effective_of_boosted away hq applies⟩

end Uncovered

/-! ## Records with their target -/

theorem zone?_replaced {z : Zone} (held : i.zone? z.id = some z) (veto : QuickVeto) :
    (i.following (z.vetoRemoval ++ [.setZoneVeto z.id veto])).zone? z.id =
      some { z with veto := some veto } := by
  rw [following_append]
  show (onZone _ z.id fun z => { z with veto := some veto }).zone? z.id = _
  rw [zone?_onZone, zone?_vetoRemoval held]
  · rfl
  · intro _
    rfl

theorem room?_replaced {r : Room} (held : i.room? r.id = some r) (veto : QuickVeto) :
    (i.following (r.vetoRemoval ++ [.setRoomVeto r.id veto])).room? r.id =
      some { r with veto := some veto } := by
  rw [following_append]
  show (onRoom _ r.id fun r => { r with veto := some veto }).room? r.id = _
  rw [room?_onRoom, room?_vetoRemoval held]
  · rfl
  · intro _
    rfl

theorem zone?_targetCalls {z : Zone} (held : i.zone? z.id = some z) :
    (i.following (z.targetCalls i target now)).zone? z.id =
      some { z with veto := some ⟨target, none⟩ } := by
  unfold Zone.targetCalls
  rw [List.append_assoc, following_append]
  refine zone?_replaced ?_ ⟨target, none⟩
  rw [i.following_conflict_zone?, held]

/-! ## Rooms -/

/-- The room with its target: of its own if it is in manual mode, and else as a veto. -/
def targetedRoom (i : Installation) (r : Room) (target : Float) (minutes : Nat)
    (now : Moment) : Room :=
  if ((i.following (i.conflict .room now.date).toList).effectiveRoom r now).isOperating .manual then
    { r with target }
  else { r with veto := some ⟨target, some minutes⟩ }

theorem room?_targetCalls {r : Room} {minutes : Nat} (held : i.room? r.id = some r) :
    (i.following (r.targetCalls i target minutes now)).room? r.id =
      some (i.targetedRoom r target minutes now) := by
  have held' : (i.following (i.conflict .room now.date).toList).room? r.id = some r := by
    rw [i.following_conflict_room?, held]
  simp only [Room.targetCalls, i.after_conflict]
  unfold targetedRoom
  rw [following_append]
  split
  · show (onRoom _ r.id fun r => { r with target }).room? r.id = _
    rw [room?_onRoom, held']
    · rfl
    · intro _
      rfl
  · exact room?_replaced held' _

/-- The room's own mode aims at the target. -/
theorem target_own_targetedRoom (i : Installation) (r : Room) (target : Float) (minutes : Nat)
    (now : Moment) : ((i.targetedRoom r target minutes now).own now).target = some target := by
  unfold targetedRoom
  split
  case isTrue manual =>
    rw [effectiveRoom_of_isOperating manual, isOperating_manual_own] at manual
    simp only [Room.own, manual.1, manual.2]
    rfl
  case isFalse => rfl

/-- The removal of an override leaves the room's own mode in force. -/
theorem effectiveRoom_following_conflict (h : ¬i.Masked .room now.date) (r : Room) :
    (i.following (i.conflict .room now.date).toList).effectiveRoom r now = r.own now :=
  effectiveRoom_of_free (i.not_away_following_conflict .room now.date)
    (not_boosted_following_conflict h) r

theorem own_targetedRoom {r : Room} (h : ¬i.Masked .room now.date) (minutes : Nat) :
    (i.targetedRoom r target minutes now).own now = .aiming target
      (.operating (if r.mode = .manual ∧ r.veto = none then .manual else .quickVeto)) := by
  unfold targetedRoom
  rw [effectiveRoom_following_conflict h]
  by_cases manual : r.mode = .manual ∧ r.veto = none
  · rw [if_pos manual, if_pos ((isOperating_manual_own r now).2 manual)]
    simp only [Room.own, manual.1, manual.2]
  · rw [if_neg manual, if_neg (mt (isOperating_manual_own r now).1 manual)]
    rfl

/-! ## Hot water -/

theorem target_own_hotWater {w : HotWater} (h : w.mode ≠ .off) :
    (w.own now).target = some (if w.mode = .auto ∧ w.program.scheduled now ≠ some .on then
      hotWaterRange.low else w.target) := by
  unfold HotWater.own
  cases hm : w.mode with
  | auto => by_cases on : w.program.scheduled now = some .on <;> simp [on]
  | off => exact absurd hm h
  | manual | day | night | on | quickVeto => rfl

/-- Hot water with its target, switched on if an override was removed or if it was off. -/
def targetedHotWater (i : Installation) (w : HotWater) (target : Float) (now : Moment) :
    HotWater :=
  if (i.conflict .hotWater now.date).isSome ||
      ((i.following (i.conflict .hotWater now.date).toList).effectiveHotWater w now).isOperating
        .off then
    { w with mode := .on, target }
  else { w with target }

theorem hotWater?_targetCalls {w : HotWater} (held : i.hotWater? w.id = some w) :
    (i.following (w.targetCalls i target now)).hotWater? w.id =
      some (i.targetedHotWater w target now) := by
  have held' : (i.following (i.conflict .hotWater now.date).toList).hotWater? w.id = some w := by
    rw [i.following_conflict_hotWater?, held]
  simp only [HotWater.targetCalls, i.after_conflict]
  unfold targetedHotWater
  rw [following_append, following_append]
  refine (hotWater?_onHotWater (f := fun w => { w with target }) fun _ => rfl).trans ?_
  split
  · have switched : (onHotWater (i.following (i.conflict .hotWater now.date).toList) w.id
        fun w => { w with mode := .on }).hotWater? w.id = some { w with mode := .on } := by
      rw [hotWater?_onHotWater, held']
      · rfl
      · intro _
        rfl
    exact congrArg (Option.map _) switched
  · exact congrArg (Option.map _) held'

/-- The target is in force unless the program says otherwise. -/
theorem own_targetedHotWater {w : HotWater} (h : ¬i.Masked .hotWater now.date) :
    ((i.targetedHotWater w target now).own now).target =
      some (if (i.conflict .hotWater now.date).isNone ∧ w.mode = .auto ∧
        w.program.scheduled now ≠ some .on then hotWaterRange.low else target) := by
  have own : (i.following (i.conflict .hotWater now.date).toList).effectiveHotWater w now =
      w.own now :=
    effectiveHotWater_of_free (i.not_away_following_conflict .hotWater now.date)
      (not_boosted_following_conflict h) w
  have off : (w.own now).isOperating .off = true ↔ w.mode = .off := by
    unfold Effective.isOperating
    rw [mode_own_hotWater]
    simp
  unfold targetedHotWater
  rw [own]
  cases hc : i.conflict .hotWater now.date with
  | some call => rfl
  | none =>
    rw [Option.isSome_none, Bool.false_or]
    by_cases switched : w.mode = .off
    · rw [if_pos (off.2 switched), if_neg (by simp [switched])]
      rfl
    · rw [if_neg (mt off.1 switched)]
      refine (target_own_hotWater (w := { w with target }) switched).trans ?_
      simp

end Installation

/-! ## Requests -/

section Requests

variable {σ : Type} {session : Session σ} {site next : Site σ} {now : Moment} {entity : String}
  {target : Float} {done : Bool}

/-- A request that was met made all calls of its plan. -/
theorem hub_of_submit_ok {request : Request}
    (h : site.submit session now request = (.ok done, next)) :
    ∃ calls, site.hub.plan now request = .ok calls ∧ next.hub = site.hub.patched calls := by
  unfold Site.submit at h
  cases hp : site.hub.plan now request with
  | error e =>
    rw [hp] at h
    cases h
  | ok calls =>
    simp only [hp] at h
    rcases hc : Site.carryOut session calls site with ⟨e | _, last⟩
    · simp only [hc] at h
      cases h
    · simp only [hc] at h
      have carried := Site.hub_of_carryOut_ok hc
      cases h
      exact ⟨calls, rfl, carried⟩

/-- What a component is after it got a target. -/
inductive Targeted (i j : Installation) (target : Float) (now : Moment) :
    Component → Component → Prop where
  | zone {z z' : Zone} (own : z'.own now = .aiming target (.operating .quickVeto))
      (uncovered : i.Uncovered j (.zone z') now) :
      Targeted i j target now (.zone z) (.zone z')
  | room {r r' : Room} (aims : (r'.own now).target = some target)
      (own : ¬i.Masked .room now.date → r'.own now = .aiming target
        (.operating (if r.mode = .manual ∧ r.veto = none then .manual else .quickVeto)))
      (uncovered : i.Uncovered j (.room r') now) :
      Targeted i j target now (.room r) (.room r')
  | hotWater {w w' : HotWater}
      (own : ¬i.Masked .hotWater now.date → (w'.own now).target =
        some (if (i.conflict .hotWater now.date).isNone ∧ w.mode = .auto ∧
          w.program.scheduled now ≠ some .on then hotWaterRange.low else target))
      (uncovered : i.Uncovered j (.hotWater w') now) :
      Targeted i j target now (.hotWater w) (.hotWater w')

theorem targeted_of_submit
    (h : site.submit session now (.setTarget entity target) = (.ok done, next)) :
    next.hub.registry = site.hub.registry ∧ ∃ id i j c c', site.hub.componentOf entity = .ok id ∧
      site.hub.snapshot.installation = some i ∧ next.hub.snapshot.installation = some j ∧
      i.component? id = some c ∧ j.component? id = some c' ∧ Targeted i j target now c c' := by
  obtain ⟨calls, hp, hn⟩ := hub_of_submit_ok h
  obtain ⟨i, hi, planned⟩ := planned_of_plan hp
  have patched : next.hub.snapshot.installation = some (i.following calls) := by
    rw [hn, snapshot_patched hi planned.orderly]
  constructor
  · rw [hn]
    rfl
  cases planned with
  | @zoneTarget _ z _ found held _ =>
    have held' : (i.following (z.targetCalls i target now)).zone? z.id =
      some { z with veto := some ⟨target, none⟩ } := i.zone?_targetCalls held
    refine ⟨.zone z.id, i, _, .zone z, _, found, hi, patched, i.component?_zone held,
      Installation.component?_zone held', .zone rfl ?_⟩
    unfold Zone.targetCalls
    rw [List.append_assoc, zone_vetoRemoval_eq]
    exact i.uncovered (any_setting rfl rfl) (.zone _) nofun now
  | @roomTarget _ r _ found held _ =>
    have held' : (i.following (r.targetCalls i target site.hub.vetoMinutes now)).room? r.id =
      some (i.targetedRoom r target site.hub.vetoMinutes now) := i.room?_targetCalls held
    have aims := i.target_own_targetedRoom r target site.hub.vetoMinutes now
    refine ⟨.room r.id, i, _, .room r, _, found, hi, patched, i.component?_room held,
      Installation.component?_room held', .room aims ?_ ?_⟩
    · intro unmasked
      exact i.own_targetedRoom unmasked _
    · refine i.uncovered ?_ (.room _) nofun now
      split
      · rfl
      · rw [room_vetoRemoval_eq]
        exact any_setting rfl rfl
  | @waterTarget _ w _ found held _ =>
    have held' : (i.following (w.targetCalls i target now)).hotWater? w.id =
      some (i.targetedHotWater w target now) := i.hotWater?_targetCalls held
    refine ⟨.hotWater w.id, i, _, .hotWater w, _, found, hi, patched, i.component?_hotWater held,
      Installation.component?_hotWater held', .hotWater ?_ ?_⟩
    · intro unmasked
      exact i.own_targetedHotWater unmasked
    · unfold HotWater.targetCalls
      rw [List.append_assoc]
      exact i.uncovered (any_setting rfl rfl) (.hotWater _) nofun now

/-- The request was met in part: the holiday is gone, but not the quick mode, which hides the target
until the same request is met once more. -/
def Deferred (session : Session σ) (now : Moment) (entity : String) (target : Float)
    (id : ComponentId) (i j : Installation) (c : Component) (next : Site σ) : Prop :=
  j.holiday = some .inactive ∧ j.quickMode = i.quickMode ∧
    (∃ q, (c.effective j now).mode = .quick q) ∧
    ∀ again last, next.submit session now (.setTarget entity target) = (.ok again, last) →
      ∃ k c', last.hub.snapshot.installation = some k ∧ k.component? id = some c' ∧
        c'.effective k now = c'.own now ∧ (c'.own now).target = some target

/-- Once the holiday is gone, another request is met in full. -/
theorem targeted_again {id : ComponentId} {i j : Installation} {c' : Component}
    (found : next.hub.componentOf entity = .ok id)
    (hj : next.hub.snapshot.installation = some j) (hc : j.component? id = some c')
    (boosted : j.holiday = some .inactive ∧ j.quickMode = i.quickMode ∧
      ∃ q, (c'.effective j now).mode = .quick q)
    (heats : ∀ k c'', Targeted j k target now c' c'' → (c''.own now).target = some target ∧
      (¬j.Away now.date → c''.effective k now = c''.own now)) :
    Deferred session now entity target id i j c' next := by
  obtain ⟨inactive, same, quick⟩ := boosted
  refine ⟨inactive, same, quick, ?_⟩
  intro again last h
  obtain ⟨_, id', j', k, c₁, c₂, found', hj', hk, hc₁, hc₂, targeted⟩ := targeted_of_submit h
  rw [found] at found'
  cases found'
  rw [hj] at hj'
  cases hj'
  rw [hc] at hc₁
  cases hc₁
  have stays : ¬j.Away now.date := Installation.not_away_of_inactive inactive
  obtain ⟨aims, own⟩ := heats k c₂ targeted
  exact ⟨k, c₂, hk, hc₂, own stays, aims⟩

/-- A target that a request set is in force in the resulting snapshot, unless a holiday and a quick
mode both governed the component. -/
theorem target_takes_effect
    (h : site.submit session now (.setTarget entity target) = (.ok done, next)) :
    ∃ id i j c c', site.hub.componentOf entity = .ok id ∧
      site.hub.snapshot.installation = some i ∧ next.hub.snapshot.installation = some j ∧
      i.component? id = some c ∧ j.component? id = some c' ∧
      match c with
      | .zone _ =>
        (c'.effective j now = .aiming target (.operating .quickVeto) ↔
          ¬(i.Away now.date ∧ i.Boosted .zone)) ∧
        (i.Away now.date ∧ i.Boosted .zone →
          Deferred session now entity target id i j c' next)
      | .room r =>
        (c'.effective j now = .aiming target
            (.operating (if r.mode = .manual ∧ r.veto = none then .manual else .quickVeto)) ↔
          ¬(i.Away now.date ∧ i.Boosted .room)) ∧
        (i.Away now.date ∧ i.Boosted .room →
          Deferred session now entity target id i j c' next)
      | .hotWater w =>
        (¬(i.Away now.date ∧ i.Boosted .hotWater) →
          (∃ m, (c'.effective j now).mode = .operating m) ∧
          (c'.effective j now).target = some
            (if ¬i.Away now.date ∧ ¬i.Boosted .hotWater ∧ w.mode = .auto ∧
              w.program.scheduled now ≠ some .on then 35 else target)) ∧
        (i.Away now.date ∧ i.Boosted .hotWater →
          j.holiday = some .inactive ∧ j.quickMode = i.quickMode ∧
            ∃ q, (c'.effective j now).mode = .quick q)
      | .circulation _ => False := by
  obtain ⟨registry, id, i, j, c, c', found, hi, hj, hc, hc', targeted⟩ := targeted_of_submit h
  have again : next.hub.componentOf entity = .ok id := by
    unfold Hub.componentOf at found ⊢
    rw [registry, found]
  refine ⟨id, i, j, c, c', found, hi, hj, hc, hc', ?_⟩
  cases targeted with
  | zone own uncovered =>
    constructor
    · constructor
      · intro aims masked
        obtain ⟨_, _, q, boosted⟩ := uncovered.boosted masked
        rw [aims] at boosted
        cases boosted
      · intro unmasked
        rw [uncovered.own unmasked]
        exact own
    · intro masked
      refine targeted_again again hj hc' (uncovered.boosted masked) ?_
      intro k c'' heated
      cases heated with
      | zone own uncovered =>
        refine ⟨congrArg Effective.target own, ?_⟩
        intro stays
        exact uncovered.own fun masked => stays masked.1
  | room _ own uncovered =>
    constructor
    · constructor
      · intro aims masked
        obtain ⟨_, _, q, boosted⟩ := uncovered.boosted masked
        rw [aims] at boosted
        cases boosted
      · intro unmasked
        rw [uncovered.own unmasked]
        exact own unmasked
    · intro masked
      refine targeted_again again hj hc' (uncovered.boosted masked) ?_
      intro k c'' heated
      cases heated with
      | room aims _ uncovered =>
        refine ⟨aims, ?_⟩
        intro stays
        exact uncovered.own fun masked => stays masked.1
  | hotWater own uncovered =>
    refine ⟨?_, uncovered.boosted⟩
    intro unmasked
    rw [uncovered.own unmasked]
    refine ⟨⟨_, Installation.mode_own_hotWater _ now⟩, ?_⟩
    refine (own unmasked).trans ?_
    simp only [Installation.conflict_isNone_iff, and_assoc]
    rfl

end Requests

/-- On holiday, with a party set besides, a zone is not at its target after one request. -/
theorem target_takes_effect_after_party :
    let hub : Hub := { Hub.new 300 180 with
      snapshot := ⟨some { Installation.empty with
        holiday := some (.between ⟨738000⟩ ⟨738009⟩ 15)
        quickMode := some .party
        zones := [⟨"1", "Ground", .ofDays (.replicate 7 []), none, 21, 18, .auto, none, none,
          false⟩] }, 1⟩
      registry := .register .empty (.ofComponent "climate.ground" "Ground" (.zone "1") true) }
    ∃ next j c, (Site.new hub ()).submit .obliging ⟨⟨738003⟩, .midnight⟩
        (.setTarget "climate.ground" 20) = (.ok true, next) ∧
      next.hub.snapshot.installation = some j ∧ j.component? (.zone "1") = some c ∧
      j.holiday = some .inactive ∧ j.quickMode = some .party ∧
      ∃ q, (c.effective j ⟨⟨738003⟩, .midnight⟩).mode = .quick q := by
  intro hub
  obtain ⟨next, h⟩ : ∃ next, (Site.new hub ()).submit .obliging ⟨⟨738003⟩, .midnight⟩
      (.setTarget "climate.ground" 20) = (.ok true, next) := ⟨_, rfl⟩
  obtain ⟨id, i, j, c, c', found, hi, hj, hc, hc', met⟩ := target_takes_effect h
  obtain rfl := Except.ok.inj found
  obtain rfl := Option.some.inj hi
  obtain rfl := Option.some.inj hc
  have deferred := met.2 ⟨rfl, .party, rfl, rfl⟩
  exact ⟨next, j, c', h, hj, hc', deferred.1, deferred.2.1, deferred.2.2.1⟩

end HeatingHub

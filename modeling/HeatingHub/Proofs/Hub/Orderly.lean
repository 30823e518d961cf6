import HeatingHub.Proofs.Hub.Plan

/-!
# Plans are orderly

A plan removes at most one override and then at most one quick veto before it sets anything. Neither
removal makes a component disappear (`following_conflict`, `zone?_vetoRemoval`), so the
calls after them find what the plan found. `Planned.orderly` puts this together.
-/

namespace HeatingHub

open Calendar (Date Moment)

/-! ## Calls for one component -/

theorem zone_vetoRemoval_eq (z : Zone) :
    z.vetoRemoval = if z.veto.isSome then [.removeZoneVeto z.id] else [] := by
  unfold Zone.vetoRemoval
  cases z.veto <;> rfl

theorem room_vetoRemoval_eq (r : Room) :
    r.vetoRemoval = if r.veto.isSome then [.removeRoomVeto r.id] else [] := by
  unfold Room.vetoRemoval
  cases r.veto <;> rfl

/-- A call for one component, perhaps after a first one, touches no override. -/
theorem any_setting {condition : Bool} {first last : Call} (hf : first.isSystemWide = false)
    (hl : last.isSystemWide = false) :
    ((if condition then [first] else []) ++ [last]).any (·.isSystemWide) = false := by
  cases condition <;> simp [hf, hl]

namespace Installation

variable {i : Installation} {kind : Kind} {today : Date}

/-! ## Overrides -/

/-- A holiday governs the day. -/
def Away (i : Installation) (today : Date) : Prop := (i.appliedHoliday today).isSome = true

/-- The quick mode that is set governs components of the kind. -/
def Boosted (i : Installation) (kind : Kind) : Prop :=
  ∃ q, i.quickMode = some q ∧ q.appliesTo kind = true

instance (i : Installation) (today : Date) : Decidable (i.Away today) :=
  inferInstanceAs (Decidable (_ = true))

theorem boosted_iff : i.Boosted kind ↔ i.quickMode.any (·.appliesTo kind) = true := by
  unfold Boosted
  cases i.quickMode <;> simp

instance (i : Installation) (kind : Kind) : Decidable (i.Boosted kind) :=
  decidable_of_iff _ boosted_iff.symm

theorem conflict_of_away (h : i.Away today) : i.conflict kind today = some .removeHoliday :=
  if_pos h

theorem conflict_of_boosted (ha : ¬i.Away today) (hq : i.Boosted kind) :
    i.conflict kind today = some .removeQuickMode := by
  obtain ⟨q, hq, applies⟩ := hq
  refine (if_neg ha).trans ?_
  rw [hq]
  exact if_pos applies

theorem conflict_of_free (ha : ¬i.Away today) (hq : ¬i.Boosted kind) :
    i.conflict kind today = none := by
  refine (if_neg ha).trans ?_
  cases hs : i.quickMode with
  | none => rfl
  | some q =>
    have spared : ¬q.appliesTo kind = true := by
      intro applies
      exact hq ⟨q, hs, applies⟩
    exact if_neg spared

/-- What is removed first is the holiday, the quick mode or nothing. -/
theorem conflict_cases (i : Installation) (kind : Kind) (today : Date) :
    (i.Away today ∧ i.conflict kind today = some .removeHoliday) ∨
      (¬i.Away today ∧ i.Boosted kind ∧ i.conflict kind today = some .removeQuickMode) ∨
      (¬i.Away today ∧ ¬i.Boosted kind ∧ i.conflict kind today = none) := by
  by_cases ha : i.Away today
  · exact .inl ⟨ha, conflict_of_away ha⟩
  · by_cases hq : i.Boosted kind
    · exact .inr (.inl ⟨ha, hq, conflict_of_boosted ha hq⟩)
    · exact .inr (.inr ⟨ha, hq, conflict_of_free ha hq⟩)

theorem removes_of_mem_conflict {call : Call} (h : call ∈ (i.conflict kind today).toList) :
    call = .removeHoliday ∨ call = .removeQuickMode := by
  rcases conflict_cases i kind today with ⟨_, hc⟩ | ⟨_, _, hc⟩ | ⟨_, _, hc⟩ <;> rw [hc] at h
  · exact .inl (List.mem_singleton.1 h)
  · exact .inr (List.mem_singleton.1 h)
  · cases h

theorem conflict_isNone_iff :
    (i.conflict kind today).isNone = true ↔ ¬i.Away today ∧ ¬i.Boosted kind := by
  rcases conflict_cases i kind today with ⟨ha, hc⟩ | ⟨ha, hq, hc⟩ | ⟨ha, hq, hc⟩ <;>
    simp [*]

theorem Away.admissible (h : i.Away today) : Call.removeHoliday.Admissible i := by
  obtain ⟨holiday, hh⟩ := Option.isSome_iff_exists.1 h
  obtain ⟨hs, applied⟩ := Option.filter_eq_some_iff.1 hh
  refine ⟨holiday, hs, ?_⟩
  unfold Holiday.isApplied at applied
  cases ha : holiday.active with
  | true => rfl
  | false => simp [ha] at applied

theorem quickMode_ne_none {q : QuickMode} (h : i.quickMode = some q) :
    Call.removeQuickMode.Admissible i := by
  show i.quickMode ≠ none
  rw [h]
  exact Option.some_ne_none q

theorem Boosted.admissible (h : i.Boosted kind) : Call.removeQuickMode.Admissible i := by
  obtain ⟨q, hq, _⟩ := h
  exact quickMode_ne_none hq

theorem orderly_conflict (i : Installation) (kind : Kind) (today : Date) :
    Orderly i (i.conflict kind today).toList := by
  rcases conflict_cases i kind today with ⟨ha, hc⟩ | ⟨_, hq, hc⟩ | ⟨_, _, hc⟩ <;> rw [hc]
  · exact orderly_singleton.2 ha.admissible
  · exact orderly_singleton.2 hq.admissible
  · exact trivial

theorem after_conflict (i : Installation) (kind : Kind) (today : Date) :
    i.after (i.conflict kind today) = i.following (i.conflict kind today).toList := by
  rcases conflict_cases i kind today with ⟨_, hc⟩ | ⟨_, _, hc⟩ | ⟨_, _, hc⟩ <;> rw [hc] <;> rfl

/-- The removal of an override touches nothing else. -/
theorem following_conflict {α : Type} (find : Installation → α)
    (hf : ∀ i holiday quickMode, find { i with holiday, quickMode } = find i)
    (i : Installation) (kind : Kind) (today : Date) :
    find (i.following (i.conflict kind today).toList) = find i := by
  rcases conflict_cases i kind today with ⟨_, hc⟩ | ⟨_, _, hc⟩ | ⟨_, _, hc⟩ <;> rw [hc]
  · exact hf i _ _
  · exact hf i _ _
  · rfl

theorem following_conflict_zone? (i : Installation) (kind : Kind) (today : Date) (id : String) :
    (i.following (i.conflict kind today).toList).zone? id = i.zone? id :=
  following_conflict (·.zone? id) (fun _ _ _ => rfl) i kind today

theorem following_conflict_room? (i : Installation) (kind : Kind) (today : Date) (id : String) :
    (i.following (i.conflict kind today).toList).room? id = i.room? id :=
  following_conflict (·.room? id) (fun _ _ _ => rfl) i kind today

theorem following_conflict_hotWater? (i : Installation) (kind : Kind) (today : Date)
    (id : String) :
    (i.following (i.conflict kind today).toList).hotWater? id = i.hotWater? id :=
  following_conflict (·.hotWater? id) (fun _ _ _ => rfl) i kind today

/-! ## Quick vetoes -/

theorem zone?_vetoRemoval {z : Zone} (held : i.zone? z.id = some z) :
    (i.following z.vetoRemoval).zone? z.id = some { z with veto := none } := by
  unfold Zone.vetoRemoval
  cases hv : z.veto with
  | none =>
    show i.zone? z.id = _
    rw [held, ← hv]
  | some veto =>
    show (i.onZone z.id fun z => { z with veto := none }).zone? z.id = _
    rw [zone?_onZone, held]
    · rfl
    · intro _
      rfl

theorem room?_vetoRemoval {r : Room} (held : i.room? r.id = some r) :
    (i.following r.vetoRemoval).room? r.id = some { r with veto := none } := by
  unfold Room.vetoRemoval
  cases hv : r.veto with
  | none =>
    show i.room? r.id = _
    rw [held, ← hv]
  | some veto =>
    show (i.onRoom r.id fun r => { r with veto := none }).room? r.id = _
    rw [room?_onRoom, held]
    · rfl
    · intro _
      rfl

theorem orderly_zone_vetoRemoval {z : Zone} (held : i.zone? z.id = some z) :
    Orderly i z.vetoRemoval := by
  unfold Zone.vetoRemoval
  cases hv : z.veto with
  | none => exact trivial
  | some veto => exact orderly_singleton.2 ⟨z, held, by rw [hv]; exact Option.some_ne_none veto⟩

theorem orderly_room_vetoRemoval {r : Room} (held : i.room? r.id = some r) :
    Orderly i r.vetoRemoval := by
  unfold Room.vetoRemoval
  cases hv : r.veto with
  | none => exact trivial
  | some veto => exact orderly_singleton.2 ⟨r, held, by rw [hv]; exact Option.some_ne_none veto⟩

/-- A call that needs the zone without a veto may follow the removal of its veto. -/
theorem orderly_zone_setting {z : Zone} {call : Call} (held : i.zone? z.id = some z)
    (hc : ∀ j : Installation, (∃ z', j.zone? z.id = some z' ∧ z'.veto = none) →
      call.Admissible j) : Orderly i (z.vetoRemoval ++ [call]) := by
  have admissible : call.Admissible (i.following z.vetoRemoval) :=
    hc _ ⟨_, zone?_vetoRemoval held, rfl⟩
  rw [orderly_append, orderly_singleton]
  exact ⟨orderly_zone_vetoRemoval held, admissible⟩

theorem orderly_room_setting {r : Room} {call : Call} (held : i.room? r.id = some r)
    (hc : ∀ j : Installation, (∃ r', j.room? r.id = some r' ∧ r'.veto = none) →
      call.Admissible j) : Orderly i (r.vetoRemoval ++ [call]) := by
  have admissible : call.Admissible (i.following r.vetoRemoval) :=
    hc _ ⟨_, room?_vetoRemoval held, rfl⟩
  rw [orderly_append, orderly_singleton]
  exact ⟨orderly_room_vetoRemoval held, admissible⟩

/-! ## Rooms in manual mode -/

theorem isOperating_manual_own (r : Room) (now : Moment) :
    (r.own now).isOperating .manual = true ↔ r.mode = .manual ∧ r.veto = none := by
  unfold Room.own
  cases r.veto with
  | some veto => simp [Effective.isOperating, Effective.aiming]
  | none => cases r.mode <;> simp [Effective.isOperating, Effective.aiming]

/-- Only a mode of its own is an operating mode. -/
theorem effectiveRoom_of_isOperating {r : Room} {now : Moment} {m : OperatingMode}
    (h : (i.effectiveRoom r now).isOperating m = true) : i.effectiveRoom r now = r.own now := by
  unfold effectiveRoom at h ⊢
  split at h
  · cases h
  · split at h
    · cases h
    · rfl

/-- A room that is in manual mode has no veto. -/
theorem veto_eq_none_of_isOperating_manual {r : Room} {now : Moment}
    (h : (i.effectiveRoom r now).isOperating .manual = true) : r.veto = none := by
  rw [effectiveRoom_of_isOperating h, isOperating_manual_own] at h
  exact h.2

end Installation

/-! ## Modes -/

theorem mem_of_isValidFor_zone {m : OperatingMode} (h : m.isValidFor .zone = true) :
    m ∈ [OperatingMode.auto, .day, .night, .off] := by
  cases m <;> first | decide | cases h

theorem mem_of_isValidFor_room {m : OperatingMode} (h : m.isValidFor .room = true) :
    m ∈ [OperatingMode.auto, .manual, .off] := by
  cases m <;> first | decide | cases h

theorem mem_of_isValidFor_hotWater {m : OperatingMode} (h : m.isValidFor .hotWater = true) :
    m ∈ [OperatingMode.auto, .on, .off] := by
  cases m <;> first | decide | cases h

/-! ## Plans -/

section Plans

variable {h : Hub} {now : Moment} {i : Installation}

theorem orderly_zone_target {z : Zone} {target : Float} (held : i.zone? z.id = some z)
    (fits : heatingRange.contains target = true) : Orderly i (z.targetCalls i target now) := by
  unfold Zone.targetCalls
  rw [List.append_assoc, orderly_append]
  refine ⟨i.orderly_conflict .zone now.date, Installation.orderly_zone_setting ?_ ?_⟩
  · rw [i.following_conflict_zone?, held]
  · intro j hz
    exact ⟨hz, between_of_heatingRange fits⟩

theorem orderly_room_target {r : Room} {target : Float} {minutes : Nat}
    (held : i.room? r.id = some r) (fits : heatingRange.contains target = true) :
    Orderly i (r.targetCalls i target minutes now) := by
  have between := between_of_heatingRange fits
  have held' : (i.following (i.conflict .room now.date).toList).room? r.id = some r := by
    rw [i.following_conflict_room?, held]
  unfold Room.targetCalls
  rw [orderly_append, i.after_conflict]
  refine ⟨i.orderly_conflict .room now.date, ?_⟩
  split
  case isTrue manual =>
    have unvetoed := Installation.veto_eq_none_of_isOperating_manual manual
    exact orderly_singleton.2 ⟨⟨r, held', unvetoed⟩, between⟩
  case isFalse =>
    refine Installation.orderly_room_setting held' ?_
    intro j hr
    exact ⟨hr, between⟩

theorem orderly_hotWater_target {w : HotWater} {target : Float}
    (held : i.hotWater? w.id = some w) (fits : hotWaterRange.contains target = true) :
    Orderly i (w.targetCalls i target now) := by
  have between := between_of_hotWaterRange fits
  unfold HotWater.targetCalls
  rw [orderly_append, orderly_append]
  refine ⟨⟨i.orderly_conflict .hotWater now.date, ?_⟩, ?_⟩
  · split
    · refine orderly_singleton.2 ⟨?_, by decide⟩
      rw [i.following_conflict_hotWater?, held]
      rfl
    · exact trivial
  · refine orderly_singleton.2 ⟨?_, between⟩
    rw [Installation.following_append]
    split
    · show ((Installation.onHotWater _ w.id _).hotWater? w.id).isSome = true
      rw [Installation.hotWater?_onHotWater, i.following_conflict_hotWater?, held]
      · rfl
      · intro _
        rfl
    · rw [Installation.following_nil, i.following_conflict_hotWater?, held]
      rfl

/-- Every plan is orderly. -/
theorem Planned.orderly {request : Request} {calls : List Call}
    (hp : Planned h now i request calls) : Orderly i calls := by
  induction hp with
  | zoneTarget _ held fits => exact orderly_zone_target held fits
  | roomTarget _ held fits => exact orderly_room_target held fits
  | waterTarget _ held fits => exact orderly_hotWater_target held fits
  | zoneMode _ held valid =>
    unfold Zone.modeCalls
    rw [List.append_assoc, orderly_append]
    refine ⟨i.orderly_conflict .zone now.date, Installation.orderly_zone_setting ?_ ?_⟩
    · rw [i.following_conflict_zone?, held]
    · intro j hz
      exact ⟨hz, mem_of_isValidFor_zone valid⟩
  | roomMode _ held valid =>
    unfold Room.modeCalls
    rw [List.append_assoc, orderly_append]
    refine ⟨i.orderly_conflict .room now.date, Installation.orderly_room_setting ?_ ?_⟩
    · rw [i.following_conflict_room?, held]
    · intro j hr
      exact ⟨hr, mem_of_isValidFor_room valid⟩
  | waterMode _ held valid =>
    unfold HotWater.modeCalls
    rw [orderly_append]
    refine ⟨i.orderly_conflict .hotWater now.date, orderly_singleton.2 ⟨?_, ?_⟩⟩
    · rw [i.following_conflict_hotWater?, held]
      rfl
    · exact mem_of_isValidFor_hotWater valid
  | zoneVeto _ held fits =>
    refine Installation.orderly_zone_setting held ?_
    intro j hz
    exact ⟨hz, between_of_heatingRange fits⟩
  | roomVeto _ held fits =>
    refine Installation.orderly_room_setting held ?_
    intro j hr
    exact ⟨hr, between_of_heatingRange fits⟩
  | zoneVetoRemoval _ held => exact Installation.orderly_zone_vetoRemoval held
  | roomVetoRemoval _ held => exact Installation.orderly_room_vetoRemoval held
  | quickMode unset => exact orderly_singleton.2 unset
  | quickModeReplaced set => exact ⟨Installation.quickMode_ne_none set, rfl, trivial⟩
  | noQuickMode _ => exact trivial
  | quickModeRemoval set => exact orderly_singleton.2 (Installation.quickMode_ne_none set)
  | quickModeRemovalFor set _ _ => exact orderly_singleton.2 (Installation.quickMode_ne_none set)
  | quickModeKept _ _ _ => exact trivial
  | holiday ordered fits =>
    exact orderly_singleton.2 ⟨Int.not_lt.1 ordered, between_of_heatingRange fits⟩
  | holidayRemoval set active => exact orderly_singleton.2 ⟨_, set, active⟩
  | noHoliday _ => exact trivial
  | temperature _ ih => exact ih
  | temperatureKept _ _ _ _ => exact trivial
  | hvac _ _ _ ih => exact ih

end Plans

end HeatingHub

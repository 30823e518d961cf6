import HeatingHub.Proofs.Client.Requests

/-!
# Quick vetoes and the requests for them

The calls of a plan veto with the duration that the request says (`Planned.accords`). A request that
was sent is one for a veto just if it is that of a call for a veto, as the ends of the paths tell.
-/

namespace HeatingHub

open Calendar (Moment)
open Exchange
open Json (Value)

/-! ## Durations planned -/

/-- The duration of the veto that a request makes for a zone, if it makes one. -/
def Request.zoneDuration? (minutes : Nat) : Request → Option (Option Nat)
  | setTarget .. | setTemperature .. => some none
  | setVeto _ _ duration => some (some (duration.getD minutes))
  | _ => none

/-- The duration of the veto that a request makes for a room, if it makes one. -/
def Request.roomDuration? (minutes : Nat) : Request → Option Nat
  | setTarget .. | setTemperature .. => some minutes
  | setVeto _ _ duration => some (duration.getD minutes)
  | _ => none

/-- If the call makes a veto, it has the duration that the request says. -/
def Call.Accords (request : Request) (minutes : Nat) : Call → Prop
  | setZoneVeto _ veto => request.zoneDuration? minutes = some veto.duration
  | setRoomVeto _ veto => ∃ n, veto.duration = some n ∧ request.roomDuration? minutes = some n
  | _ => True

section Plans

variable {h : Hub} {now : Moment} {i : Installation} {request : Request} {calls : List Call}

theorem accords_conflict (i : Installation) (kind : Kind) (request : Request) (minutes : Nat) :
    ∀ call ∈ (i.conflict kind now.date).toList, call.Accords request minutes := by
  intro call hc
  rcases Installation.removes_of_mem_conflict hc with rfl | rfl <;> trivial

theorem accords_zone_vetoRemoval (z : Zone) (request : Request) (minutes : Nat) :
    ∀ call ∈ z.vetoRemoval, call.Accords request minutes := by
  rw [zone_vetoRemoval_eq]
  split <;> simp [Call.Accords]

theorem accords_room_vetoRemoval (r : Room) (request : Request) (minutes : Nat) :
    ∀ call ∈ r.vetoRemoval, call.Accords request minutes := by
  rw [room_vetoRemoval_eq]
  split <;> simp [Call.Accords]

/-- The vetoes of a plan have the durations that the request says. -/
theorem Planned.accords (hp : Planned h now i request calls) :
    ∀ call ∈ calls, call.Accords request h.vetoMinutes := by
  induction hp with
  | zoneTarget =>
    unfold Zone.targetCalls
    rw [List.forall_mem_append, List.forall_mem_append, List.forall_mem_singleton]
    exact ⟨⟨accords_conflict i _ _ _, accords_zone_vetoRemoval _ _ _⟩, rfl⟩
  | roomTarget =>
    unfold Room.targetCalls
    rw [List.forall_mem_append]
    refine ⟨accords_conflict i _ _ _, ?_⟩
    split
    · exact List.forall_mem_singleton.2 trivial
    · rw [List.forall_mem_append, List.forall_mem_singleton]
      exact ⟨accords_room_vetoRemoval _ _ _, _, rfl, rfl⟩
  | waterTarget =>
    unfold HotWater.targetCalls
    rw [List.forall_mem_append, List.forall_mem_append, List.forall_mem_singleton]
    refine ⟨⟨accords_conflict i _ _ _, ?_⟩, trivial⟩
    split <;> simp [Call.Accords]
  | zoneMode =>
    unfold Zone.modeCalls
    rw [List.forall_mem_append, List.forall_mem_append, List.forall_mem_singleton]
    exact ⟨⟨accords_conflict i _ _ _, accords_zone_vetoRemoval _ _ _⟩, trivial⟩
  | roomMode =>
    unfold Room.modeCalls
    rw [List.forall_mem_append, List.forall_mem_append, List.forall_mem_singleton]
    exact ⟨⟨accords_conflict i _ _ _, accords_room_vetoRemoval _ _ _⟩, trivial⟩
  | waterMode =>
    unfold HotWater.modeCalls
    rw [List.forall_mem_append, List.forall_mem_singleton]
    exact ⟨accords_conflict i _ _ _, trivial⟩
  | zoneVeto =>
    rw [List.forall_mem_append, List.forall_mem_singleton]
    exact ⟨accords_zone_vetoRemoval _ _ _, rfl⟩
  | roomVeto =>
    rw [List.forall_mem_append, List.forall_mem_singleton]
    exact ⟨accords_room_vetoRemoval _ _ _, _, rfl, rfl⟩
  | zoneVetoRemoval => exact accords_zone_vetoRemoval _ _ _
  | roomVetoRemoval => exact accords_room_vetoRemoval _ _ _
  | quickMode | quickModeRemoval | quickModeRemovalFor | holiday | holidayRemoval =>
    exact List.forall_mem_singleton.2 trivial
  | quickModeReplaced => exact List.forall_mem_cons.2 ⟨trivial, List.forall_mem_singleton.2 trivial⟩
  | noQuickMode | quickModeKept | noHoliday | temperatureKept => exact List.forall_mem_nil _
  | temperature _ ih => exact ih
  | hvac _ _ _ ih => exact ih

end Plans

/-! ## Requests for vetoes -/

namespace Ask

/-- The request sets a quick veto of some room. -/
def VetoesRoom (a : Ask) : Prop :=
  a.method = .put ∧
    ∃ facility id, a.path = facilitiesPath ++ "/" ++ facility ++ (roomPath id ++ "/quickVeto")

/-- The request sets a quick veto of some zone. -/
def VetoesZone (a : Ask) : Prop :=
  a.method = .put ∧ ∃ facility id,
    a.path = facilitiesPath ++ "/" ++ facility ++ (zonePath id ++ "/configuration/quick_veto")

/-- The duration in the body of the request. -/
def duration? (a : Ask) : Option Value := a.body.bind (·.member? "duration")

end Ask

/-- How the path of the request for a call ends. -/
def Call.tail : Call → String
  | setHotWaterMode .. => "/operation_mode"
  | setHotWaterTarget .. => "/temperature_setpoint"
  | setRoomMode .. => "/operationMode"
  | setRoomTarget .. => "/temperatureSetpoint"
  | setRoomVeto .. | removeRoomVeto _ => "/quickVeto"
  | setZoneMode .. => "/heating/configuration/mode"
  | setZoneVeto .. | removeZoneVeto _ => "/configuration/quick_veto"
  | setQuickMode _ | removeQuickMode => quickModePath
  | setHoliday .. | removeHoliday => holidayPath

theorem path_ends (c : Call) : ∃ before, c.ask.path = before ++ c.tail := by
  cases c with
  | setQuickMode _ | removeQuickMode => exact ⟨"", (String.empty_append).symm⟩
  | setHoliday _ _ _ | removeHoliday => exact ⟨"", (String.empty_append).symm⟩
  | setHotWaterMode _ _ | setHotWaterTarget _ _ | setRoomMode _ _ | setRoomTarget _ _
  | setRoomVeto _ _ | removeRoomVeto _ | setZoneMode _ _ | setZoneVeto _ _
  | removeZoneVeto _ => exact ⟨_, rfl⟩

/-- The last letters of a text, enough of them to tell apart the paths of what is set. -/
def lastLetters (s : String) : List Char := s.toList.reverse.take 5

theorem lastLetters_append (before : String) {tail : String} (long : 5 ≤ tail.toList.length) :
    lastLetters (before ++ tail) = lastLetters tail := by
  unfold lastLetters
  rw [String.toList_append, List.reverse_append, List.take_append_of_le_length]
  rwa [List.length_reverse]

theorem lastLetters_toFacility (c : Call) (facility : String) :
    lastLetters (c.ask.toFacility facility).path = lastLetters c.tail := by
  obtain ⟨before, path⟩ := path_ends c
  have long : 5 ≤ c.tail.toList.length := by
    cases c <;> simp only [Call.tail] <;> decide
  unfold Ask.toFacility
  rw [path, ← String.append_assoc, lastLetters_append _ long]

section Requests

variable {a : Ask} {allowed : Call → Prop}

/-- A request that sets something of a facility is that of a call, as the end of its path says. -/
theorem call_of_put {facility before tail : String} (serves : a.Serves allowed)
    (put : a.method = .put) (path : a.path = facilitiesPath ++ "/" ++ facility ++ (before ++ tail))
    (long : 5 ≤ tail.toList.length)
    (other : lastLetters "/hvacstate/v1/hvacMessages/update" ≠ lastLetters tail) :
    ∃ c facility, allowed c ∧ a = c.ask.toFacility facility ∧ c.ask.method = .put ∧
      lastLetters c.tail = lastLetters tail := by
  have ends : lastLetters a.path = lastLetters tail := by
    rw [path, ← String.append_assoc, lastLetters_append _ long]
  cases serves with
  | account h =>
    rw [String.append_assoc, String.append_assoc] at path
    exact absurd path (h.not_facilities _)
  | facilities => cases put
  | update facility =>
    unfold Ask.toFacility at ends
    rw [lastLetters_append] at ends
    · exact absurd ends other
    · decide
  | read _ _ => cases put
  | @call c h facility =>
    rw [lastLetters_toFacility] at ends
    exact ⟨c, facility, h, rfl, put, ends⟩

theorem call_of_vetoesRoom (serves : a.Serves allowed) (h : a.VetoesRoom) :
    ∃ id veto facility, allowed (.setRoomVeto id veto) ∧
      a = (Call.setRoomVeto id veto).ask.toFacility facility := by
  obtain ⟨put, _, _, path⟩ := h
  obtain ⟨c, facility, allows, rfl, put, ends⟩ :=
    call_of_put serves put path (by decide) (by decide)
  cases c with
  | setRoomVeto id veto => exact ⟨id, veto, facility, allows, rfl⟩
  | removeRoomVeto _ | removeZoneVeto _ | removeQuickMode | removeHoliday => cases put
  | setHotWaterMode _ _ | setHotWaterTarget _ _ | setRoomMode _ _ | setRoomTarget _ _
  | setZoneMode _ _ | setZoneVeto _ _ | setQuickMode _ | setHoliday _ _ _ =>
    simp only [Call.tail] at ends
    exact absurd ends (by decide)

theorem call_of_vetoesZone (serves : a.Serves allowed) (h : a.VetoesZone) :
    ∃ id veto facility, allowed (.setZoneVeto id veto) ∧
      a = (Call.setZoneVeto id veto).ask.toFacility facility := by
  obtain ⟨put, _, _, path⟩ := h
  obtain ⟨c, facility, allows, rfl, put, ends⟩ :=
    call_of_put serves put path (by decide) (by decide)
  cases c with
  | setZoneVeto id veto => exact ⟨id, veto, facility, allows, rfl⟩
  | removeRoomVeto _ | removeZoneVeto _ | removeQuickMode | removeHoliday => cases put
  | setHotWaterMode _ _ | setHotWaterTarget _ _ | setRoomMode _ _ | setRoomTarget _ _
  | setRoomVeto _ _ | setZoneMode _ _ | setQuickMode _ | setHoliday _ _ _ =>
    simp only [Call.tail] at ends
    exact absurd ends (by decide)

/-- The duration of a veto is the one member of its name, whatever else the body has. -/
theorem member?_durationMember (veto : QuickVeto) {key : String} (other : key ≠ "duration")
    (value : Value) :
    (Value.object (durationMember veto ++ [(key, value)])).member? "duration" =
      veto.duration.map .ofNat := by
  obtain ⟨target, duration⟩ := veto
  cases duration <;> simp [Value.member?, durationMember, other]

theorem duration?_setRoomVeto (id facility : String) (veto : QuickVeto) :
    ((Call.setRoomVeto id veto).ask.toFacility facility).duration? = veto.duration.map .ofNat :=
  member?_durationMember veto (by decide) _

theorem duration?_setZoneVeto (id facility : String) (veto : QuickVeto) :
    ((Call.setZoneVeto id veto).ask.toFacility facility).duration? = veto.duration.map .ofNat :=
  member?_durationMember veto (by decide) _

end Requests

end HeatingHub

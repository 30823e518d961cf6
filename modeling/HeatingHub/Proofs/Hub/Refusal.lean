import HeatingHub.Hub.Request

/-!
# Requests that are refused

A request is refused by what the hub knows, never by the API: planning makes no calls, so that no
error of the API can come of it (`silent_plan`).
-/

namespace HeatingHub

open Calendar (Date Moment)

/-- The computation does not fail with an error of the API. -/
def Silent {α : Type} (x : Except HubError α) : Prop := ∀ e, x ≠ .error (.api e)

theorem silent_ok {α : Type} (a : α) : Silent (.ok a : Except HubError α) := nofun

theorem Silent.bind {α β : Type} {x : Except HubError α} {f : α → Except HubError β}
    (hx : Silent x) (hf : ∀ a, Silent (f a)) : Silent (x >>= f) := by
  cases x with
  | error e =>
    intro e' h
    exact hx e' (by cases h; rfl)
  | ok a => exact hf a

theorem Silent.ite {α : Type} {p : Prop} [Decidable p] {x y : Except HubError α} (hx : Silent x)
    (hy : Silent y) : Silent (if p then x else y) := by
  split
  · exact hx
  · exact hy

namespace Hub

variable (h : Hub) (now : Moment) (entity : String)

theorem silent_installation : Silent h.installation := by
  unfold installation
  cases h.snapshot.installation <;> exact nofun

theorem silent_componentOf : Silent (h.componentOf entity) := by
  unfold componentOf
  split
  · exact nofun
  · split <;> exact nofun

theorem silent_component (id : ComponentId) : Silent (h.component id) := by
  refine h.silent_installation.bind fun i => ?_
  split <;> exact nofun

theorem silent_check (r : Range) (t : Float) : Silent (r.check t) :=
  Silent.ite (silent_ok ()) nofun

theorem silent_planTarget (target : Float) : Silent (h.planTarget now entity target) := by
  refine (h.silent_componentOf entity).bind fun id => ?_
  cases id with
  | zone _ | room _ | hotWater _ =>
    refine (silent_check _ _).bind fun _ => (h.silent_component _).bind fun ⟨_, c⟩ => ?_
    cases c <;> exact silent_ok _
  | circulation _ => exact nofun

theorem silent_planMode (mode : OperatingMode) : Silent (h.planMode now entity mode) := by
  refine (h.silent_componentOf entity).bind fun id => Silent.ite nofun (Silent.ite nofun ?_)
  refine (h.silent_component id).bind fun ⟨_, c⟩ => ?_
  cases c <;> exact silent_ok _

theorem silent_planVeto (target : Float) (duration : Option Nat) :
    Silent (h.planVeto entity target duration) := by
  refine (h.silent_componentOf entity).bind fun id => ?_
  cases id with
  | zone _ | room _ =>
    refine (silent_check _ _).bind fun _ => (h.silent_component _).bind fun ⟨_, c⟩ => ?_
    cases c <;> exact silent_ok _
  | hotWater _ | circulation _ => exact nofun

theorem silent_planVetoRemoval : Silent (h.planVetoRemoval entity) := by
  refine (h.silent_componentOf entity).bind fun id => ?_
  cases id with
  | zone _ | room _ =>
    refine (h.silent_component _).bind fun ⟨_, c⟩ => ?_
    cases c <;> exact silent_ok _
  | hotWater _ | circulation _ => exact nofun

theorem silent_planQuickMode (mode : QuickMode) : Silent (h.planQuickMode mode) := by
  refine h.silent_installation.bind fun i => ?_
  split <;> exact silent_ok _

theorem silent_planQuickModeRemoval (of : Option String) :
    Silent (h.planQuickModeRemoval of) := by
  refine h.silent_installation.bind fun i => ?_
  split
  · exact silent_ok _
  · exact silent_ok _
  · exact (h.silent_componentOf _).bind fun _ => silent_ok _

theorem silent_planHoliday (start finish : Date) (target : Float) :
    Silent (h.planHoliday start finish target) := by
  refine Silent.ite nofun ?_
  exact (silent_check _ _).bind fun _ => h.silent_installation.bind fun _ => silent_ok _

theorem silent_planHolidayRemoval : Silent h.planHolidayRemoval := by
  refine h.silent_installation.bind fun i => ?_
  split <;> exact silent_ok _

theorem silent_planTemperature (target : Float) :
    Silent (h.planTemperature now entity target) := by
  have asked := h.silent_planTarget now entity target
  refine (h.silent_componentOf entity).bind fun id => ?_
  split
  · refine (h.silent_component _).bind fun ⟨i, c⟩ => ?_
    split
    · split
      · exact Silent.ite (silent_ok _) asked
      · exact asked
    · exact asked
  · exact asked

theorem silent_planHvac (mode : HvacMode) : Silent (h.planHvac now entity mode) := by
  refine (h.silent_componentOf entity).bind fun id => ?_
  split
  · exact h.silent_planMode now entity _
  · exact nofun

/-- Whatever refuses a request, it is not the API. -/
theorem silent_plan (request : Request) : Silent (h.plan now request) := by
  cases request with
  | setTarget entity target => exact h.silent_planTarget now entity target
  | setMode entity mode => exact h.silent_planMode now entity mode
  | setVeto entity target duration => exact h.silent_planVeto entity target duration
  | removeVeto entity => exact h.silent_planVetoRemoval entity
  | setQuickMode mode => exact h.silent_planQuickMode mode
  | removeQuickMode of => exact h.silent_planQuickModeRemoval of
  | setHoliday start finish target => exact h.silent_planHoliday start finish target
  | removeHoliday => exact h.silent_planHolidayRemoval
  | setTemperature entity target => exact h.silent_planTemperature now entity target
  | setHvac entity mode => exact h.silent_planHvac now entity mode

end Hub

end HeatingHub

import HeatingHub.Proofs.Outcome
import HeatingHub.Wire.Assembly

/-!
# Stages of an assembly

The equations by which assemblies are reasoned about: `assemble_eq` cuts `assemble` into one stage
for each part of the payloads and a last one that cannot fail, and `BoilerReport.add_eq` cuts the
step of the boiler in the same way.
-/

namespace HeatingHub.Wire

/-! ## The boiler -/

/-- The message that tells the status of the boiler. -/
def HvacState.told (s : HvacState) : Option Message := s.messages.bind (·.states.head?)

def HvacState.failures (s : HvacState) : List Message := s.messages.elim [] (·.failures)

/-- The status of the boiler after one more state: it is taken once. -/
def BoilerReport.taking (b : BoilerReport) (s : HvacState) :
    Except AssemblyError (Option BoilerStatus) :=
  match b.boiler, s.told with
  | none, some m => m.status.map some
  | boiler, _ => .ok boiler

/-- A status is kept, or taken from a state that tells one, or there is still none. -/
theorem BoilerReport.taking_cases {b : BoilerReport} {s : HvacState} {boiler : Option BoilerStatus}
    (h : b.taking s = .ok boiler) :
    (∃ known, b.boiler = some known ∧ boiler = some known) ∨
      (b.boiler = none ∧ s.told = none ∧ boiler = none) ∨
      ∃ m status, b.boiler = none ∧ s.told = some m ∧ m.status = .ok status ∧
        boiler = some status := by
  unfold BoilerReport.taking at h
  cases hb : b.boiler with
  | some known =>
    rw [hb] at h
    exact .inl ⟨known, rfl, (Except.ok.inj h).symm⟩
  | none =>
    cases hm : s.told with
    | none =>
      rw [hb, hm] at h
      exact .inr (.inl ⟨rfl, rfl, (Except.ok.inj h).symm⟩)
    | some m =>
      rw [hb, hm] at h
      obtain ⟨status, hs, rfl⟩ := map_eq_ok.1 h
      exact .inr (.inr ⟨m, status, rfl, rfl, hs, rfl⟩)

theorem BoilerReport.add_eq (b : BoilerReport) (s : HvacState) :
    b.add s = (do
      let boiler ← b.taking s
      let faults ← s.failures.mapM (·.fault)
      .ok ⟨boiler, (s.status.map (·.status)).or b.status, b.faults ++ faults⟩) := by
  obtain ⟨boiler, status, faults⟩ := b
  obtain ⟨messages, system⟩ := s
  cases messages with
  | none =>
    have nothing : BoilerReport.mk boiler ((system.map (·.status)).or status) (faults ++ []) =
        ⟨boiler, (system.map (·.status)).or status, faults⟩ := by rw [List.append_nil]
    cases boiler <;> exact congrArg Except.ok nothing.symm
  | some messages =>
    obtain ⟨failures, states⟩ := messages
    cases boiler <;> cases states <;> rfl

theorem BoilerReport.add_eq_ok {b b' : BoilerReport} {s : HvacState} :
    b.add s = .ok b' ↔ ∃ boiler faults, b.taking s = .ok boiler ∧
      s.failures.mapM (·.fault) = .ok faults ∧
      b' = ⟨boiler, (s.status.map (·.status)).or b.status, b.faults ++ faults⟩ := by
  rw [b.add_eq, bind_eq_ok]
  constructor
  · rintro ⟨boiler, hb, h⟩
    obtain ⟨faults, hf, h⟩ := bind_eq_ok.1 h
    exact ⟨boiler, faults, hb, hf, (Except.ok.inj h).symm⟩
  · rintro ⟨boiler, faults, hb, hf, rfl⟩
    exact ⟨boiler, hb, bind_eq_ok.2 ⟨faults, hf, rfl⟩⟩

/-! ## The whole -/

namespace Payloads

def quickMode (p : Payloads) : Except AssemblyError (Option QuickMode) :=
  match p.control.overrides.bind (·.quickMode) with
  | none => .ok none
  | some q => q.quickMode.map some

/-- The value that the sensors reported last under an id. -/
def sensed (p : Payloads) (id : String) : Option Float := reported p.liveReport id

/-- Hot water and circulation, from the first entry. -/
def water (p : Payloads) : Except AssemblyError (Option HotWater × Option Circulation) :=
  match p.control.dhw.head? with
  | none => .ok (none, none)
  | some d => do
    let hotWater ← d.hotWaterOf (p.sensed "DomesticHotWaterTankTemperature")
    let circulation ← d.circulationOf
    .ok (hotWater, circulation)

def boiler (p : Payloads) : Except AssemblyError BoilerReport :=
  p.hvacStates.foldlM BoilerReport.add ⟨none, none, []⟩

def boilerInfo (p : Payloads) : Option BoilerInfo :=
  let pressure := p.sensed "WaterPressureSensor"
  let flow := p.sensed "FlowTemperatureSensor"
  if pressure.isSome || flow.isSome then some ⟨flow, pressure⟩ else none

/-- The installation with the given results of the stages before. -/
def installation (p : Payloads) (quickMode : Option QuickMode) (zones : List Zone)
    (rooms : List Room) (water : Option HotWater × Option Circulation) (boiler : BoilerReport) :
    Installation where
  holiday := (p.control.overrides.bind (·.holiday)).map (·.holiday)
  quickMode := quickMode
  zones := zones
  rooms := rooms
  hotWater := water.1
  circulation := water.2
  boilerStatus := boiler.boiler
  boilerInfo := p.boilerInfo
  status := boiler.status
  outdoorTemperature := p.control.outside.bind id
  faults := boiler.faults

end Payloads

theorem assemble_eq (p : Payloads) :
    assemble p = (do
      let quickMode ← p.quickMode
      let zones ← p.control.zones.mapM (·.zone)
      let rooms ← p.rooms.mapM (·.room)
      let water ← p.water
      let boiler ← p.boiler
      .ok (p.installation quickMode zones rooms water boiler)) := by
  obtain ⟨⟨overrides, outside, zones, dhw⟩, rooms, live, states⟩ := p
  cases dhw with
  | nil =>
    cases overrides with
    | none => rfl
    | some overrides =>
      obtain ⟨holiday, quickMode⟩ := overrides
      cases quickMode <;> rfl
  | cons d later =>
    cases overrides with
    | none =>
      simp only [Payloads.water, List.head?_cons, bind_assoc]
      rfl
    | some overrides =>
      obtain ⟨holiday, quickMode⟩ := overrides
      simp only [Payloads.water, List.head?_cons, bind_assoc]
      cases quickMode <;> rfl

end HeatingHub.Wire

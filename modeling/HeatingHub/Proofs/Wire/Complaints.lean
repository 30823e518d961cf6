import HeatingHub.Proofs.Wire.Stages

/-!
# When an assembly fails

Each part of the payloads has its complaints: what in it cannot be made sense of, in the order in
which the part is gone through. `FailsFirst` says that a computation fails with the first complaint
and gives a result when there is none; it holds of every step of `assemble`, and so of the whole.
-/

namespace HeatingHub.Wire

open Calendar (ClockTime Moment Weekday)

/-! ## Complaints about the parts -/

/-- The complaint about a thing that is not there. -/
def missing {α : Type} (thing : Option α) (complaint : AssemblyError) : List AssemblyError :=
  if thing.isNone then [complaint] else []

def Period.complaints (w : Weekday) (s : Period) : List AssemblyError :=
  missing (ClockTime.read? s.start) (.badStart s.start w)

/-- From Monday to Sunday, the slots of a day as they were sent. -/
def Program.complaints (p : Program) : List AssemblyError :=
  (List.finRange 7).flatMap fun w => (p.day w).flatMap (·.complaints w)

def programComplaints (p : Option Program) : List AssemblyError := p.elim [] (·.complaints)

def QuickModePart.complaints (q : QuickModePart) : List AssemblyError :=
  missing (QuickMode.read q.name).toOption (.unknownQuickMode q.name)

def ZonePart.complaints (z : ZonePart) : List AssemblyError :=
  match z.heating with
  | none => [.noHeating z.id]
  | some heating => programComplaints heating.program

def RoomPart.complaints (r : RoomPart) : List AssemblyError :=
  programComplaints r.program ++ missing r.settings.target (.noTarget r.index)

def Dhw.complaints (d : Dhw) : List AssemblyError :=
  d.hotWater.elim [] (programComplaints ·.program) ++
    d.circulation.elim [] (programComplaints ·.program)

def Message.complaints (m : Message) : List AssemblyError :=
  missing (Moment.ofEpochMillis? m.time) (.badTime m.time)

/-- The status of the boiler is only looked at if none was taken before. -/
def HvacState.complaints (taken : Bool) (s : HvacState) : List AssemblyError :=
  (if taken then [] else s.told.elim [] (·.complaints)) ++ s.failures.flatMap (·.complaints)

def boilerComplaints : (taken : Bool) → List HvacState → List AssemblyError
  | _, [] => []
  | taken, s :: rest => s.complaints taken ++ boilerComplaints (taken || s.told.isSome) rest

def Payloads.complaints (p : Payloads) : List AssemblyError :=
  (p.control.overrides.bind (·.quickMode)).elim [] (·.complaints) ++
    (p.control.zones.flatMap (·.complaints) ++ (p.rooms.flatMap (·.complaints) ++
      (p.control.dhw.head?.elim [] (·.complaints) ++ boilerComplaints false p.hvacStates)))

/-! ## Each part fails with its first complaint -/

theorem Period.slot_failsFirst (w : Weekday) (s : Period) :
    FailsFirst (s.slot w) (s.complaints w) := by
  unfold Period.slot Period.complaints
  cases ClockTime.read? s.start with
  | some start => exact .ok _
  | none => exact .error _ []

theorem timeProgram_failsFirst (p : Option Program) :
    FailsFirst (timeProgram p) (programComplaints p) := by
  cases p with
  | none => exact .ok _
  | some p =>
    have day (w : Weekday) := FailsFirst.mapM (Period.slot_failsFirst w) (p.day w)
    have week : programComplaints (some p) = [0, 1, 2, 3, 4, 5, 6].flatMap
        fun w => (p.day w).flatMap (·.complaints w) := rfl
    rw [week]
    simp only [List.flatMap_cons, List.flatMap_nil, List.append_nil]
    exact (day 0).bind fun _ _ => (day 1).bind fun _ _ => (day 2).bind fun _ _ =>
      (day 3).bind fun _ _ => (day 4).bind fun _ _ => (day 5).bind fun _ _ =>
        (day 6).bind_ok fun _ => ⟨_, rfl⟩

theorem QuickModePart.quickMode_failsFirst (q : QuickModePart) :
    FailsFirst q.quickMode q.complaints := by
  unfold QuickModePart.quickMode QuickModePart.complaints
  cases QuickMode.read q.name with
  | ok mode => exact .ok mode
  | error e => exact .error _ []

theorem ZonePart.zone_failsFirst (z : ZonePart) : FailsFirst z.zone z.complaints := by
  unfold ZonePart.zone ZonePart.complaints
  cases z.heating with
  | none => exact .error _ []
  | some heating => exact (timeProgram_failsFirst heating.program).bind_ok fun _ => ⟨_, rfl⟩

theorem RoomPart.room_failsFirst (r : RoomPart) : FailsFirst r.room r.complaints := by
  unfold RoomPart.room RoomPart.complaints
  refine (timeProgram_failsFirst r.program).bind fun program _ => ?_
  cases r.settings.target with
  | none => exact .error _ []
  | some target => exact .ok _

theorem Dhw.hotWaterOf_failsFirst (d : Dhw) (current : Option Float) :
    FailsFirst (d.hotWaterOf current) (d.hotWater.elim [] (programComplaints ·.program)) := by
  unfold Dhw.hotWaterOf
  cases d.hotWater with
  | none => exact .ok _
  | some h => exact (timeProgram_failsFirst h.program).bind_ok fun _ => ⟨_, rfl⟩

theorem Dhw.circulationOf_failsFirst (d : Dhw) :
    FailsFirst d.circulationOf (d.circulation.elim [] (programComplaints ·.program)) := by
  unfold Dhw.circulationOf
  cases d.circulation with
  | none => exact .ok _
  | some c => exact (timeProgram_failsFirst c.program).bind_ok fun _ => ⟨_, rfl⟩

theorem Message.moment_failsFirst (m : Message) : FailsFirst (moment m.time) m.complaints := by
  unfold moment Message.complaints
  cases Moment.ofEpochMillis? m.time with
  | some time => exact .ok time
  | none => exact .error _ []

theorem Message.status_failsFirst (m : Message) : FailsFirst m.status m.complaints :=
  m.moment_failsFirst.bind_ok fun _ => ⟨_, rfl⟩

theorem Message.fault_failsFirst (m : Message) : FailsFirst m.fault m.complaints :=
  m.moment_failsFirst.bind_ok fun _ => ⟨_, rfl⟩

/-! ## The boiler -/

theorem BoilerReport.taking_failsFirst (b : BoilerReport) (s : HvacState) :
    FailsFirst (b.taking s) (if b.boiler.isSome then [] else s.told.elim [] (·.complaints)) := by
  unfold BoilerReport.taking
  cases b.boiler with
  | some boiler => exact .ok _
  | none =>
    cases s.told with
    | none => exact .ok _
    | some m => exact m.status_failsFirst.map some

theorem BoilerReport.add_failsFirst (b : BoilerReport) (s : HvacState) :
    FailsFirst (b.add s) (s.complaints b.boiler.isSome) := by
  rw [b.add_eq]
  have faults := FailsFirst.mapM Message.fault_failsFirst s.failures
  exact (b.taking_failsFirst s).bind fun _ _ => faults.bind_ok fun _ => ⟨_, rfl⟩

theorem BoilerReport.isSome_add {b b' : BoilerReport} {s : HvacState} (h : b.add s = .ok b') :
    b'.boiler.isSome = (b.boiler.isSome || s.told.isSome) := by
  obtain ⟨boiler, faults, taken, -, rfl⟩ := BoilerReport.add_eq_ok.1 h
  obtain ⟨known, hb, rfl⟩ | ⟨hb, hm, rfl⟩ | ⟨m, status, hb, hm, -, rfl⟩ :=
    BoilerReport.taking_cases taken
  · simp [hb]
  · simp [hb, hm]
  · simp [hb, hm]

/-- State by state; what counts of the states before is only whether a status was taken. -/
theorem BoilerReport.foldlM_failsFirst (b : BoilerReport) (states : List HvacState) :
    FailsFirst (states.foldlM BoilerReport.add b) (boilerComplaints b.boiler.isSome states) := by
  induction states generalizing b with
  | nil => exact .ok b
  | cons s rest ih =>
    rw [List.foldlM_cons, boilerComplaints]
    refine (b.add_failsFirst s).bind fun b' hb' => ?_
    rw [← BoilerReport.isSome_add hb']
    exact ih b'

/-! ## The whole -/

theorem Payloads.quickMode_failsFirst (p : Payloads) :
    FailsFirst p.quickMode ((p.control.overrides.bind (·.quickMode)).elim [] (·.complaints)) := by
  unfold Payloads.quickMode
  cases p.control.overrides.bind (·.quickMode) with
  | none => exact .ok none
  | some q =>
    rw [Option.elim_some]
    exact q.quickMode_failsFirst.map some

theorem Payloads.water_failsFirst (p : Payloads) :
    FailsFirst p.water (p.control.dhw.head?.elim [] (·.complaints)) := by
  unfold Payloads.water
  cases p.control.dhw.head? with
  | none => exact .ok _
  | some d =>
    exact (d.hotWaterOf_failsFirst _).bind fun _ _ => d.circulationOf_failsFirst.bind_ok fun _ =>
      ⟨_, rfl⟩

theorem Payloads.boiler_failsFirst (p : Payloads) :
    FailsFirst p.boiler (boilerComplaints false p.hvacStates) :=
  BoilerReport.foldlM_failsFirst ⟨none, none, []⟩ p.hvacStates

theorem Payloads.assemble_failsFirst (p : Payloads) : FailsFirst (assemble p) p.complaints := by
  have zones := FailsFirst.mapM ZonePart.zone_failsFirst p.control.zones
  have rooms := FailsFirst.mapM RoomPart.room_failsFirst p.rooms
  rw [assemble_eq]
  refine p.quickMode_failsFirst.bind fun _ _ => ?_
  refine zones.bind fun _ _ => rooms.bind fun _ _ => ?_
  exact p.water_failsFirst.bind fun _ _ => p.boiler_failsFirst.bind_ok fun _ => ⟨_, rfl⟩

/-! ## Parts that are not used -/

/-- The entries of weekdays. -/
def Program.essential (p : Program) : Program :=
  p.filter fun entry => (List.finRange 7).any fun w => entry.1 == Weekday.name w

def ZonePart.essential (z : ZonePart) : ZonePart :=
  { z with heating := z.heating.map fun h => { h with program := h.program.map (·.essential) } }

def RoomPart.essential (r : RoomPart) : RoomPart :=
  { r with program := r.program.map (·.essential) }

def Dhw.essential (d : Dhw) : Dhw where
  id := d.id
  hotWater := d.hotWater.map fun h => { h with program := h.program.map (·.essential) }
  circulation := d.circulation.map fun c => { c with program := c.program.map (·.essential) }

/-- The first status message, if no status was taken before, and all failures. -/
def HvacState.essential (taken : Bool) (s : HvacState) : HvacState :=
  { s with messages := some ⟨s.failures, if taken then [] else s.told.toList⟩ }

def essentialStates : (taken : Bool) → List HvacState → List HvacState
  | _, [] => []
  | taken, s :: rest => s.essential taken :: essentialStates (taken || s.told.isSome) rest

/-- The payloads without sensors, without entries for hot water after the first, without keys of
programs that name no weekday, and without status messages after the first one. -/
def Payloads.essential (p : Payloads) : Payloads where
  control := { p.control with
    zones := p.control.zones.map (·.essential)
    dhw := p.control.dhw.head?.toList.map (·.essential) }
  rooms := p.rooms.map (·.essential)
  liveReport := []
  hvacStates := essentialStates false p.hvacStates

theorem Program.day_essential (p : Program) (w : Weekday) : p.essential.day w = p.day w := by
  have found : p.essential.reverse.find? (·.1 == w.name) = p.reverse.find? (·.1 == w.name) := by
    rw [Program.essential, ← List.filter_reverse, List.find?_filter]
    congr 1
    funext entry
    by_cases h : entry.1 = w.name
    · have known : (List.finRange 7).any (fun w => entry.1 == Weekday.name w) = true :=
        List.any_eq_true.2 ⟨w, List.mem_finRange w, by simp [h]⟩
      simp only [known, true_and, Bool.decide_eq_true]
    · simp [h]
  rw [Program.day, found, Program.day]

@[simp] theorem Program.complaints_essential (p : Program) :
    p.essential.complaints = p.complaints := by
  simp only [Program.complaints, Program.day_essential]

@[simp] theorem programComplaints_essential (p : Option Program) :
    programComplaints (p.map (·.essential)) = programComplaints p := by
  cases p with
  | none => rfl
  | some p => exact p.complaints_essential

theorem ZonePart.complaints_essential (z : ZonePart) :
    z.essential.complaints = z.complaints := by
  unfold ZonePart.complaints ZonePart.essential
  cases z.heating with
  | none => rfl
  | some heating => exact programComplaints_essential heating.program

theorem RoomPart.complaints_essential (r : RoomPart) :
    r.essential.complaints = r.complaints := by
  simp [RoomPart.complaints, RoomPart.essential]

theorem Dhw.complaints_essential (d : Dhw) : d.essential.complaints = d.complaints := by
  obtain ⟨id, hotWater, circulation⟩ := d
  cases hotWater <;> cases circulation <;> simp [Dhw.complaints, Dhw.essential]

theorem HvacState.told_essential (s : HvacState) : (s.essential false).told = s.told := by
  show s.told.toList.head? = s.told
  cases s.told <;> rfl

theorem HvacState.complaints_essential (taken : Bool) (s : HvacState) :
    (s.essential taken).complaints taken = s.complaints taken := by
  cases taken with
  | true => rfl
  | false =>
    have failures : (s.essential false).failures = s.failures := rfl
    rw [HvacState.complaints, s.told_essential, failures, HvacState.complaints]

/-- Dropping status messages does not change whether a status was taken. -/
theorem HvacState.isSome_told_essential (taken : Bool) (s : HvacState) :
    (taken || (s.essential taken).told.isSome) = (taken || s.told.isSome) := by
  cases taken with
  | true => rfl
  | false => simp [s.told_essential]

theorem boilerComplaints_essential (taken : Bool) (states : List HvacState) :
    boilerComplaints taken (essentialStates taken states) = boilerComplaints taken states := by
  induction states generalizing taken with
  | nil => rfl
  | cons s rest ih =>
    rw [essentialStates, boilerComplaints, boilerComplaints, s.complaints_essential,
      s.isSome_told_essential, ih]

theorem Payloads.complaints_essential (p : Payloads) :
    p.essential.complaints = p.complaints := by
  have dhw : p.essential.control.dhw.head?.elim [] (·.complaints) =
      p.control.dhw.head?.elim [] (·.complaints) := by
    show (p.control.dhw.head?.toList.map (·.essential)).head?.elim [] (·.complaints) = _
    cases p.control.dhw.head? with
    | none => rfl
    | some d => exact d.complaints_essential
  have zones : p.essential.control.zones.flatMap (·.complaints) =
      p.control.zones.flatMap (·.complaints) := by
    show (p.control.zones.map (·.essential)).flatMap (·.complaints) = _
    simp only [List.flatMap_map, ZonePart.complaints_essential]
  have rooms : p.essential.rooms.flatMap (·.complaints) = p.rooms.flatMap (·.complaints) := by
    show (p.rooms.map (·.essential)).flatMap (·.complaints) = _
    simp only [List.flatMap_map, RoomPart.complaints_essential]
  have boiler : boilerComplaints false p.essential.hvacStates =
      boilerComplaints false p.hvacStates := boilerComplaints_essential false p.hvacStates
  rw [Payloads.complaints, dhw, zones, rooms, boiler, Payloads.complaints]
  rfl

/-! ## What makes an assembly fail -/

/-- An assembly fails exactly with the first complaint and succeeds exactly without one; what is not
used makes no difference to that. -/
theorem assemble_fails_first (p : Payloads) :
    (∀ e, assemble p = .error e ↔ p.complaints.head? = some e) ∧
      ((∃ i, assemble p = .ok i) ↔ p.complaints = []) ∧
      ∀ e, assemble p.essential = .error e ↔ assemble p = .error e := by
  have fails := p.assemble_failsFirst
  have fails' := p.essential.assemble_failsFirst
  rw [p.complaints_essential] at fails'
  refine ⟨fails.error_iff, fails.ok_iff, fun e => ?_⟩
  rw [fails'.error_iff, fails.error_iff]

end HeatingHub.Wire

import HeatingHub.Installation

/-!
# The mode in force

A component has a mode of its own: a quick veto, else the mode it is set to, which in `auto` follows
its weekly program. A holiday that governs the day comes before that, and then the quick mode of the
installation, if it applies to the kind of component.
-/

namespace HeatingHub

open Calendar (Moment)

/-- The mode that governs a component, with the temperature and the setting it asks for. -/
structure Effective where
  target : Option Float
  mode : Mode
  setting : Option SettingMode
deriving DecidableEq

namespace Effective

def isOperating (e : Effective) (m : OperatingMode) : Bool := e.mode == .operating m

/-- A mode that asks for a temperature and no setting. -/
def aiming (target : Float) (mode : Mode) : Effective := ⟨some target, mode, none⟩

end Effective

/-! ## A component's own mode -/

/-- The setting that the weekly program asks for. -/
def TimeProgram.scheduled (p : TimeProgram) (now : Moment) : Option SettingMode :=
  (p.settingAt now).bind (·.setting)

namespace Zone

/-- The zone follows its program; whatever is not `day` counts as `night`. -/
def followProgram (z : Zone) (now : Moment) (mode : Mode) : Effective :=
  if z.program.scheduled now = some .day then ⟨some z.target, mode, some .day⟩
  else ⟨some z.setback, mode, some .night⟩

def own (z : Zone) (now : Moment) : Effective :=
  match z.veto with
  | some veto => .aiming veto.target (.operating .quickVeto)
  | none =>
    match z.mode with
    | .auto => z.followProgram now (.operating .auto)
    | .night => .aiming z.setback (.operating .night)
    | .off => .aiming heatingRange.low (.operating .off)
    | m => .aiming z.target (.operating m)

end Zone

namespace Room

def own (r : Room) (now : Moment) : Effective :=
  match r.veto with
  | some veto => .aiming veto.target (.operating .quickVeto)
  | none =>
    match r.mode with
    | .auto =>
      .aiming (((r.program.settingAt now).bind (·.target)).getD r.target) (.operating .auto)
    | .off => .aiming heatingRange.low (.operating .off)
    | m => .aiming r.target (.operating m)

end Room

namespace HotWater

def own (h : HotWater) (now : Moment) : Effective :=
  match h.mode with
  | .auto =>
    if h.program.scheduled now = some .on then ⟨some h.target, .operating .auto, some .on⟩
    else ⟨some hotWaterRange.low, .operating .auto, some .off⟩
  | .off => .aiming hotWaterRange.low (.operating .off)
  | m => .aiming h.target (.operating m)

end HotWater

namespace Circulation

def own (c : Circulation) (now : Moment) : Effective :=
  match c.mode with
  | .auto => ⟨none, .operating .auto, c.program.scheduled now⟩
  | m => ⟨none, .operating m, none⟩

end Circulation

/-! ## The mode in force -/

namespace Installation

def effectiveZone (i : Installation) (z : Zone) (now : Moment) : Effective :=
  match i.appliedHoliday now.date with
  | some holiday => ⟨holiday.target, .holiday, none⟩
  | none =>
    match i.quickMode with
    | none | some .hotWaterBoost => z.own now
    | some .party => .aiming z.target (.quick .party)
    | some .oneDayAtHome => z.followProgram now (.quick .oneDayAtHome)
    | some q => .aiming heatingRange.low (.quick q)

def effectiveRoom (i : Installation) (r : Room) (now : Moment) : Effective :=
  match i.appliedHoliday now.date with
  | some holiday => ⟨holiday.target, .holiday, none⟩
  | none =>
    match i.quickMode with
    | some .systemOff => .aiming heatingRange.low (.quick .systemOff)
    | _ => r.own now

def effectiveHotWater (i : Installation) (h : HotWater) (now : Moment) : Effective :=
  match i.appliedHoliday now.date with
  | some _ => .aiming hotWaterRange.low .holiday
  | none =>
    match i.quickMode with
    | some .hotWaterBoost => .aiming h.target (.quick .hotWaterBoost)
    | some .systemOff => .aiming hotWaterRange.low (.quick .systemOff)
    | some .oneDayAway => .aiming hotWaterRange.low (.quick .oneDayAway)
    | _ => h.own now

/-- Circulation runs and stops with the hot water. -/
def effectiveCirculation (i : Installation) (c : Circulation) (now : Moment) : Effective :=
  match i.appliedHoliday now.date with
  | some _ => ⟨none, .holiday, some .off⟩
  | none =>
    match i.quickMode with
    | some .hotWaterBoost => ⟨none, .quick .hotWaterBoost, some .on⟩
    | some .systemOff => ⟨none, .quick .systemOff, some .off⟩
    | some .oneDayAway => ⟨none, .quick .oneDayAway, some .off⟩
    | _ => c.own now

end Installation

namespace Component

def own (c : Component) (now : Moment) : Effective :=
  match c with
  | zone z => z.own now
  | room r => r.own now
  | hotWater h => h.own now
  | circulation c => c.own now

/-- The mode that governs a component of the installation. -/
def effective (c : Component) (i : Installation) (now : Moment) : Effective :=
  match c with
  | zone z => i.effectiveZone z now
  | room r => i.effectiveRoom r now
  | hotWater h => i.effectiveHotWater h now
  | circulation c => i.effectiveCirculation c now

end Component

end HeatingHub

import HeatingHub.Installation

/-!
# The snapshot

The snapshot is the installation as last fetched, with every change made since patched in. Its
version grows by one with each fetch and each patch that takes effect.
-/

namespace HeatingHub

/-! ## Patches -/

/-- One change of an installation. -/
inductive Patch where
  | holiday (value : Option Holiday)
  | quickMode (value : Option QuickMode)
  | zoneVeto (id : String) (veto : Option QuickVeto)
  | zoneMode (id : String) (mode : OperatingMode)
  | roomVeto (id : String) (veto : Option QuickVeto)
  | roomMode (id : String) (mode : OperatingMode)
  | roomTarget (id : String) (target : Float)
  | hotWaterMode (id : String) (mode : OperatingMode)
  | hotWaterTarget (id : String) (target : Float)
deriving DecidableEq

/-- Changes the first element that `p` accepts, if there is one. -/
def updateFirst? {α : Type} (p : α → Bool) (f : α → α) : List α → Option (List α)
  | [] => none
  | x :: rest => if p x then some (f x :: rest) else (updateFirst? p f rest).map (x :: ·)

namespace Installation

def updateZone? (i : Installation) (id : String) (f : Zone → Zone) : Option Installation :=
  (updateFirst? (·.id == id) f i.zones).map fun zones => { i with zones }

def updateRoom? (i : Installation) (id : String) (f : Room → Room) : Option Installation :=
  (updateFirst? (·.id == id) f i.rooms).map fun rooms => { i with rooms }

def updateHotWater? (i : Installation) (id : String) (f : HotWater → HotWater) :
    Option Installation :=
  (i.hotWater? id).map fun h => { i with hotWater := some (f h) }

end Installation

/-- Makes a change, unless the component that it is meant for is not there. -/
def Patch.applied? (i : Installation) : Patch → Option Installation
  | holiday h => some { i with holiday := h }
  | quickMode q => some { i with quickMode := q }
  | zoneVeto id veto => i.updateZone? id fun z => { z with veto }
  | zoneMode id mode => i.updateZone? id fun z => { z with mode }
  | roomVeto id veto => i.updateRoom? id fun r => { r with veto }
  | roomMode id mode => i.updateRoom? id fun r => { r with mode }
  | roomTarget id target => i.updateRoom? id fun r => { r with target }
  | hotWaterMode id mode => i.updateHotWater? id fun h => { h with mode }
  | hotWaterTarget id target => i.updateHotWater? id fun h => { h with target }

/-! ## Snapshots -/

structure Snapshot where
  installation : Option Installation
  version : Nat
deriving DecidableEq

namespace Snapshot

/-- Nothing was fetched yet. -/
def empty : Snapshot := ⟨none, 0⟩

/-- Takes an installation just fetched. -/
def replace (s : Snapshot) (i : Installation) : Snapshot := ⟨some i, s.version + 1⟩

/-- Makes a change, and says whether it took effect. -/
def apply (s : Snapshot) (p : Patch) : Bool × Snapshot :=
  match s.installation.bind (Patch.applied? · p) with
  | some i => (true, ⟨some i, s.version + 1⟩)
  | none => (false, s)

end Snapshot

end HeatingHub

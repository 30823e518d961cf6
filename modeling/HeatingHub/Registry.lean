import HeatingHub.Entity

/-!
# The registry of entities

The registry holds the handles known to the host, one for each id, in ascending order of ids. A
handle once registered stays as it is until it is taken out, by the host or because it was transient
and nothing stands behind it any more.
-/

namespace HeatingHub

/-- No two handles have one id, and each comes before those with greater ids. -/
def Ascending (handles : List Handle) : Prop := handles.Pairwise fun g h => g.id < h.id

/-- Puts a handle in its place among others in order; one that is there already stays. -/
def placeHandle (h : Handle) : List Handle → List Handle
  | [] => [h]
  | g :: rest =>
    if h.id < g.id then h :: g :: rest
    else if h.id = g.id then g :: rest
    else g :: placeHandle h rest

theorem mem_placeHandle {h g : Handle} {handles : List Handle} (hg : g ∈ placeHandle h handles) :
    g = h ∨ g ∈ handles := by
  induction handles with
  | nil => exact .inl (List.mem_singleton.1 hg)
  | cons k rest ih =>
    unfold placeHandle at hg
    split at hg
    · exact List.mem_cons.1 hg
    · split at hg
      · exact .inr hg
      · rcases List.mem_cons.1 hg with rfl | hg
        · exact .inr List.mem_cons_self
        · exact (ih hg).imp_right (List.mem_cons_of_mem k)

theorem ascending_placeHandle {h : Handle} {handles : List Handle} (a : Ascending handles) :
    Ascending (placeHandle h handles) := by
  induction handles with
  | nil => exact List.pairwise_singleton _ _
  | cons k rest ih =>
    obtain ⟨hk, hrest⟩ := List.pairwise_cons.1 a
    unfold placeHandle
    split
    case isTrue lt =>
      refine List.pairwise_cons.2 ⟨fun g hg => ?_, a⟩
      rcases List.mem_cons.1 hg with rfl | hg
      · exact lt
      · exact String.lt_trans lt (hk g hg)
    case isFalse le =>
      split
      case isTrue => exact a
      case isFalse ne =>
        refine List.pairwise_cons.2 ⟨fun g hg => ?_, ih hrest⟩
        rcases mem_placeHandle hg with rfl | hg
        · exact Std.lt_of_le_of_ne (String.not_lt.1 le) (Ne.symm ne)
        · exact hk g hg

structure Registry where
  handles : List Handle
  ascending : Ascending handles
deriving DecidableEq

namespace Registry

def empty : Registry := ⟨[], .nil⟩

def get? (r : Registry) (id : String) : Option Handle := r.handles.find? (·.id == id)

def contains (r : Registry) (id : String) : Bool := (r.get? id).isSome

/-- Adds a handle unless its id is taken. -/
def register (r : Registry) (h : Handle) : Registry :=
  ⟨placeHandle h r.handles, ascending_placeHandle r.ascending⟩

/-- Keeps the handles that `keep` accepts. -/
def filter (r : Registry) (keep : Handle → Bool) : Registry :=
  ⟨r.handles.filter keep, r.ascending.filter keep⟩

/-- Takes out the handle with the id. -/
def unregister (r : Registry) (id : String) : Registry := r.filter (·.id != id)

def ids (r : Registry) : List String := r.handles.map (·.id)

/-- The ids of the entities whose state depends on the overrides. -/
def listening (r : Registry) : List String := (r.handles.filter (·.listening)).map (·.id)

/-! ## Synchronisation -/

/-- Adds handles in order, and says of each whether it was added. -/
def registerAll (r : Registry) : List Handle → List Bool × Registry
  | [] => ([], r)
  | h :: rest =>
    let (added, r') := (r.register h).registerAll rest
    ((!r.contains h.id) :: added, r')

/-- The handle is to be dropped: it is transient and nothing stands behind it. -/
def isStale (i : Installation) (h : Handle) : Bool := h.transient && !h.isBackedBy i

/-- How many handles a synchronisation added and removed. -/
structure Change where
  added : Nat
  removed : Nat
deriving DecidableEq

/-- Drops the handles that are stale for the installation and adds what it has. -/
def sync (r : Registry) (i : Installation) : Change × Registry :=
  let (added, r') := (r.filter fun h => !isStale i h).registerAll i.discover
  (⟨added.count true, (r.handles.filter (isStale i)).length⟩, r')

end Registry

end HeatingHub

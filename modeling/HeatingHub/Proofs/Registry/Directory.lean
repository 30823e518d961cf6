import Std.Data.TreeMap
import HeatingHub.Proofs.Registry.Synchronisation

/-!
# Registries as tables

A directory is a table of handles under keys. `Directory.Lists` relates it to a registry: under each
id the two find the same, so that the entries of the table are the handles of the registry, each
under its own id (`Directory.toList_of_lists`). Edits keep the relation (`Directory.lists_edited`).
-/

namespace HeatingHub

/-! ## Edits -/

/-- A change of what is registered. -/
inductive Edit where
  | register (h : Handle)
  | unregister (id : String)
  | sync (i : Installation)

namespace Registry

def edit (r : Registry) : Edit → Registry
  | .register h => r.register h
  | .unregister id => r.unregister id
  | .sync i => (r.sync i).2

/-- The registry after edits, starting with nothing. -/
def edited (edits : List Edit) : Registry := edits.foldl edit empty

theorem proper_edit {r : Registry} (held : ∀ h ∈ r.handles, h.Proper) {e : Edit}
    (entered : ∀ h, e = .register h → h.Proper) : ∀ h ∈ (r.edit e).handles, h.Proper := by
  intro h hh
  cases e with
  | register g =>
    rcases mem_placeHandle hh with rfl | former
    · exact entered h rfl
    · exact held h former
  | unregister id => exact held h (List.mem_filter.1 hh).1
  | sync i =>
    rcases mem_of_mem_sync hh with ⟨former, _⟩ | discovered
    · exact held h former
    · exact proper_of_mem_discover discovered

/-- Handles that are registered by hand aside, only those of faults are transient. -/
theorem proper_edited {edits : List Edit} (entered : ∀ h, .register h ∈ edits → h.Proper) :
    ∀ h ∈ (edited edits).handles, h.Proper := by
  have nothing : ∀ h ∈ empty.handles, h.Proper := List.forall_mem_nil _
  refine List.foldlRecOn edits edit (motive := fun r => ∀ h ∈ r.handles, h.Proper) nothing ?_
  intro r held e he
  refine proper_edit held ?_
  rintro h rfl
  exact entered h he

end Registry

/-! ## Directories -/

/-- A table of handles under keys. -/
abbrev Directory := Std.TreeMap String Handle

namespace Directory

/-- Puts a handle under its id, unless the id is taken; true if it was put there. -/
def register (d : Directory) (h : Handle) : Bool × Directory :=
  if d.contains h.id then (false, d) else (true, d.insert h.id h)

/-- Registers handles in order, counting those that were put in. -/
def registerAll (d : Directory) : List Handle → Nat × Directory
  | [] => (0, d)
  | h :: rest =>
    let (added, d') := d.register h
    let (more, d'') := registerAll d' rest
    (added.toNat + more, d'')

/-- The ids of the handles to be dropped. -/
def stale (d : Directory) (i : Installation) : List String :=
  ((d.toList.map (·.2)).filter (Registry.isStale i)).map (·.id)

/-- Erases the entries of handles that are stale, and registers what is discovered. -/
def sync (d : Directory) (i : Installation) : Registry.Change × Directory :=
  let stale := d.stale i
  let (added, d') := registerAll (stale.foldl (fun d id => d.erase id) d) i.discover
  (⟨added, stale.length⟩, d')

def edit (d : Directory) : Edit → Directory
  | .register h => (d.register h).2
  | .unregister id => d.erase id
  | .sync i => (d.sync i).2

def edited (edits : List Edit) : Directory := edits.foldl edit ∅

/-! ## Directories of registries -/

/-- The directory and the registry find the same under every id. -/
def Lists (d : Directory) (r : Registry) : Prop := ∀ id : String, d[id]? = r.get? id

instance : Std.Asymm fun a b : String × Handle => a.1 < b.1 :=
  ⟨fun _ _ => String.lt_asymm⟩

variable {d : Directory} {r : Registry}

/-- The entries are the handles, each under its own id. -/
theorem toList_of_lists (lists : d.Lists r) : d.toList = r.handles.map fun h => (h.id, h) := by
  have keys : d.toList.Pairwise fun a b => a.1 < b.1 := by
    refine Std.TreeMap.ordered_keys_toList.imp ?_
    intro a b before
    exact compareOfLessAndEq_eq_lt.1 before
  have ids : (r.handles.map fun h => (h.id, h)).Pairwise fun a b => a.1 < b.1 :=
    List.pairwise_map.2 r.ascending
  -- two lists in the same strict order are equal if they have the same members
  refine keys.eq_of_mem_iff ids ?_
  rintro ⟨id, h⟩
  rw [Std.TreeMap.mem_toList_iff_getElem?_eq_some, lists id, List.mem_map]
  constructor
  · intro found
    exact ⟨h, Registry.mem_of_get? found, by rw [Registry.id_of_get? found]⟩
  · rintro ⟨g, hg, same⟩
    cases same
    exact Registry.get?_of_mem hg

theorem lists_empty : Lists ∅ Registry.empty := fun _ => Std.TreeMap.getElem?_emptyc

theorem contains_of_lists (lists : d.Lists r) (id : String) : d.contains id = r.contains id := by
  rw [Std.TreeMap.contains_eq_isSome_getElem?, lists id]
  rfl

theorem lists_insert (lists : d.Lists r) {h : Handle} (free : r.contains h.id = false) :
    Lists (d.insert h.id h) (r.register h) := by
  intro id
  rw [Std.TreeMap.getElem?_insert, Registry.get?_register, lists id]
  simp only [Std.LawfulEqCmp.compare_eq_iff_eq]
  by_cases hid : h.id = id
  · have missing : r.get? id = none := by
      rw [← hid]
      exact Option.not_isSome_iff_eq_none.1 (Bool.eq_false_iff.1 free)
    rw [missing, if_pos hid, Option.none_or]
  · rw [if_neg hid, if_neg hid, Option.or_none]

theorem lists_register (lists : d.Lists r) (h : Handle) :
    (d.register h).1 = !r.contains h.id ∧ (d.register h).2.Lists (r.register h) := by
  unfold register
  rw [contains_of_lists lists]
  cases taken : r.contains h.id with
  | true =>
    have unchanged : r.register h = r :=
      Registry.registerAll_of_contained (List.forall_mem_singleton.2 taken)
    rw [unchanged]
    exact ⟨rfl, lists⟩
  | false => exact ⟨rfl, lists_insert lists taken⟩

theorem lists_registerAll (handles : List Handle) (lists : d.Lists r) :
    (d.registerAll handles).1 = (r.registerAll handles).1.count true ∧
      (d.registerAll handles).2.Lists (r.registerAll handles).2 := by
  induction handles generalizing d r with
  | nil => exact ⟨rfl, lists⟩
  | cons h rest ih =>
    obtain ⟨added, registered⟩ := lists_register lists h
    obtain ⟨more, all⟩ := ih registered
    refine ⟨?_, all⟩
    show (d.register h).1.toNat + (registerAll (d.register h).2 rest).1 =
      ((!r.contains h.id) :: ((r.register h).registerAll rest).1).count true
    rw [added, more]
    cases r.contains h.id with
    | true => simp
    | false => simp [Nat.add_comm]

theorem lists_erase (lists : d.Lists r) (id : String) :
    Lists (d.erase id) (r.unregister id) := by
  intro other
  rw [Std.TreeMap.getElem?_erase, Registry.get?_unregister, lists other]
  simp only [Std.LawfulEqCmp.compare_eq_iff_eq]
  exact if_congr eq_comm rfl rfl

theorem getElem?_eraseAll (ids : List String) (d : Directory) (id : String) :
    (ids.foldl (fun d id => d.erase id) d : Directory)[id]? =
      if id ∈ ids then none else d[id]? := by
  induction ids generalizing d with
  | nil => rfl
  | cons other ids ih =>
    show (ids.foldl (fun d id => d.erase id) (d.erase other) : Directory)[id]? = _
    rw [ih, Std.TreeMap.getElem?_erase]
    simp only [Std.LawfulEqCmp.compare_eq_iff_eq, List.mem_cons]
    by_cases among : id ∈ ids
    · rw [if_pos among, if_pos (.inr among)]
    · rw [if_neg among]
      exact if_congr (by simp [among, eq_comm]) rfl rfl

/-- Taking out the ids of some handles takes out these handles. -/
theorem lists_eraseAll (lists : d.Lists r) (drop : Handle → Bool) :
    Lists (((r.handles.filter drop).map (·.id)).foldl (fun d id => d.erase id) d)
      (r.filter fun h => !drop h) := by
  intro id
  rw [getElem?_eraseAll, Registry.get?_filter, lists id]
  cases found : r.get? id with
  | none => exact ite_self none
  | some h =>
    obtain rfl := Registry.id_of_get? found
    have dropped : h.id ∈ (r.handles.filter drop).map (·.id) ↔ drop h = true := by
      rw [List.mem_map]
      constructor
      · rintro ⟨g, hg, same⟩
        obtain ⟨hg, dropped⟩ := List.mem_filter.1 hg
        have other := Registry.get?_of_mem hg
        rw [same, found] at other
        rw [Option.some.inj other, dropped]
      · intro dropped
        exact ⟨h, List.mem_filter.2 ⟨Registry.mem_of_get? found, dropped⟩, rfl⟩
    rw [if_congr dropped rfl rfl, Option.filter_some]
    cases drop h <;> rfl

theorem stale_of_lists (lists : d.Lists r) (i : Installation) :
    d.stale i = (r.handles.filter (Registry.isStale i)).map (·.id) := by
  unfold stale
  rw [toList_of_lists lists, List.map_map, List.map_id'']
  intro h
  rfl

theorem lists_sync (lists : d.Lists r) (i : Installation) :
    (d.sync i).1 = (r.sync i).1 ∧ (d.sync i).2.Lists (r.sync i).2 := by
  have erased := lists_eraseAll lists (Registry.isStale i)
  rw [← stale_of_lists lists] at erased
  obtain ⟨added, registered⟩ := lists_registerAll i.discover erased
  refine ⟨?_, registered⟩
  show (Registry.Change.mk _ (d.stale i).length : Registry.Change) = _
  rw [added, stale_of_lists lists, List.length_map]
  rfl

theorem lists_edit (lists : d.Lists r) (e : Edit) : (d.edit e).Lists (r.edit e) := by
  cases e with
  | register h => exact (lists_register lists h).2
  | unregister id => exact lists_erase lists id
  | sync i => exact (lists_sync lists i).2

/-- Edits change a registry and its directory alike. -/
theorem lists_edited (edits : List Edit) : (edited edits).Lists (.edited edits) :=
  List.foldl_rel lists_empty fun e _ _ _ lists => lists_edit lists e

end Directory

end HeatingHub

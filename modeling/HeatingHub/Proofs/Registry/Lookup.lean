import Mathlib.Data.List.Sort
import HeatingHub.Registry

/-!
# What a registry finds

A registry is known by what it finds under each id (`Registry.ext_get?`), and what it finds after an
edit follows from what it found before. Adding handles, a registry keeps what it has and takes the
first handle for every other id (`Registry.get?_registerAll`).
-/

namespace HeatingHub

/-! ## Handles in order -/

instance : Std.Asymm fun g h : Handle => g.id < h.id := ⟨fun _ _ => String.lt_asymm⟩

section Handles

variable {handles : List Handle} {g h : Handle} {id : String}

theorem find?_eq_some_of_ascending (a : Ascending handles) (hg : g ∈ handles) :
    handles.find? (·.id == g.id) = some g := by
  induction handles with
  | nil => cases hg
  | cons k rest ih =>
    obtain ⟨hk, hrest⟩ := List.pairwise_cons.1 a
    rcases List.mem_cons.1 hg with rfl | hg
    · exact List.find?_cons_of_pos (beq_self_eq_true _)
    · have other : k.id ≠ g.id := Std.ne_of_lt (hk g hg)
      rw [List.find?_cons_of_neg (by simpa using other)]
      exact ih hrest hg

/-- Nothing has an id less than that of the first handle. -/
theorem find?_eq_none_of_before {k : Handle} (a : Ascending (k :: handles)) (before : id < k.id) :
    (k :: handles).find? (·.id == id) = none := by
  rw [List.find?_eq_none]
  intro g hg same
  rw [beq_iff_eq] at same
  rcases List.mem_cons.1 hg with rfl | hg
  · exact Std.ne_of_lt before same.symm
  · have after := (List.pairwise_cons.1 a).1 g hg
    exact Std.ne_of_lt (String.lt_trans before after) same.symm

theorem find?_placeHandle (a : Ascending handles) :
    (placeHandle h handles).find? (·.id == id) =
      (handles.find? (·.id == id)).or (if h.id = id then some h else none) := by
  induction handles with
  | nil =>
    unfold placeHandle
    by_cases hid : h.id = id <;> simp [hid]
  | cons k rest ih =>
    obtain ⟨hk, hrest⟩ := List.pairwise_cons.1 a
    unfold placeHandle
    split
    -- a handle that goes in front has an id less than all that follow, so it was not there
    case isTrue before =>
      by_cases hid : h.id = id
      · subst hid
        have first : (h :: k :: rest).find? (·.id == h.id) = some h :=
          List.find?_cons_of_pos (beq_self_eq_true _)
        rw [find?_eq_none_of_before a before, first, if_pos rfl, Option.none_or]
      · rw [List.find?_cons_of_neg (by simpa using hid), if_neg hid, Option.or_none]
    case isFalse =>
      split
      case isTrue taken =>
        by_cases hid : h.id = id
        · rw [List.find?_cons_of_pos (by simpa [← taken] using hid), Option.some_or]
        · rw [if_neg hid, Option.or_none]
      case isFalse =>
        by_cases hid : k.id = id
        · rw [List.find?_cons_of_pos (by simpa using hid),
            List.find?_cons_of_pos (by simpa using hid), Option.some_or]
        · rw [List.find?_cons_of_neg (by simpa using hid), ih hrest,
            List.find?_cons_of_neg (by simpa using hid)]

end Handles

namespace Registry

variable {r s : Registry} {g h : Handle} {id : String}

theorem id_of_get? (found : r.get? id = some h) : h.id = id := by
  simpa using List.find?_some found

theorem mem_of_get? (found : r.get? id = some h) : h ∈ r.handles := List.mem_of_find?_eq_some found

theorem get?_of_mem (hh : h ∈ r.handles) : r.get? h.id = some h :=
  find?_eq_some_of_ascending r.ascending hh

theorem mem_handles_iff : h ∈ r.handles ↔ r.get? h.id = some h := ⟨get?_of_mem, mem_of_get?⟩

theorem contains_iff : r.contains id = true ↔ ∃ h ∈ r.handles, h.id = id := by
  unfold contains
  rw [Option.isSome_iff_exists]
  constructor
  · rintro ⟨h, found⟩
    exact ⟨h, mem_of_get? found, id_of_get? found⟩
  · rintro ⟨h, hh, rfl⟩
    exact ⟨h, get?_of_mem hh⟩

/-- Registries that find the same under every id are the same. -/
theorem ext_get? (same : ∀ id, r.get? id = s.get? id) : r = s := by
  have handles : r.handles = s.handles := by
    refine r.ascending.eq_of_mem_iff s.ascending ?_
    intro h
    rw [mem_handles_iff, mem_handles_iff, same]
  cases r
  cases s
  cases handles
  rfl

/-! ## After an edit -/

/-- A handle takes an id that is free. -/
theorem get?_register (r : Registry) (h : Handle) (id : String) :
    (r.register h).get? id = (r.get? id).or (if h.id = id then some h else none) :=
  find?_placeHandle r.ascending

theorem get?_filter (r : Registry) (keep : Handle → Bool) (id : String) :
    (r.filter keep).get? id = (r.get? id).filter keep := by
  ext h
  rw [Option.filter_eq_some_iff]
  constructor
  · intro found
    obtain ⟨hr, kept⟩ := List.mem_filter.1 (mem_of_get? found)
    obtain rfl := id_of_get? found
    exact ⟨get?_of_mem hr, kept⟩
  · rintro ⟨found, kept⟩
    obtain rfl := id_of_get? found
    exact get?_of_mem (List.mem_filter.2 ⟨mem_of_get? found, kept⟩)

theorem get?_unregister (r : Registry) (id other : String) :
    (r.unregister id).get? other = if other = id then none else r.get? other := by
  unfold unregister
  rw [get?_filter]
  cases found : r.get? other with
  | none => simp
  | some h =>
    obtain rfl := id_of_get? found
    by_cases same : h.id = id <;> simp [Option.filter, same]

/-- Of handles with one id, the first is taken, and none if the id is not free. -/
theorem get?_registerAll (handles : List Handle) (r : Registry) (id : String) :
    (r.registerAll handles).2.get? id = (r.get? id).or (handles.find? (·.id == id)) := by
  induction handles generalizing r with
  | nil => exact Option.or_none.symm
  | cons h rest ih =>
    show ((r.register h).registerAll rest).2.get? id = _
    rw [ih, get?_register, Option.or_assoc]
    by_cases hid : h.id = id
    · rw [if_pos hid, List.find?_cons_of_pos (by simpa using hid), Option.some_or]
    · rw [if_neg hid, List.find?_cons_of_neg (by simpa using hid), Option.none_or]

/-! ## Numbers of handles -/

theorem length_placeHandle (h : Handle) {handles : List Handle} (a : Ascending handles) :
    (placeHandle h handles).length =
      handles.length + if (handles.find? (·.id == h.id)).isSome then 0 else 1 := by
  induction handles with
  | nil => rfl
  | cons k rest ih =>
    unfold placeHandle
    split
    case isTrue before =>
      rw [find?_eq_none_of_before a before]
      rfl
    case isFalse =>
      split
      case isTrue taken =>
        rw [List.find?_cons_of_pos (by simp [taken])]
        rfl
      case isFalse other =>
        rw [List.find?_cons_of_neg (by simpa using Ne.symm other), List.length_cons,
          ih a.of_cons, List.length_cons, Nat.add_right_comm]

theorem length_register (r : Registry) (h : Handle) :
    (r.register h).handles.length = r.handles.length + if r.contains h.id then 0 else 1 :=
  length_placeHandle h r.ascending

theorem length_registerAll (handles : List Handle) (r : Registry) :
    (r.registerAll handles).2.handles.length =
      r.handles.length + (r.registerAll handles).1.count true := by
  induction handles generalizing r with
  | nil => rfl
  | cons h rest ih =>
    show ((r.register h).registerAll rest).2.handles.length =
      r.handles.length + ((!r.contains h.id) :: ((r.register h).registerAll rest).1).count true
    rw [ih, length_register]
    cases r.contains h.id with
    | true => simp
    | false => simp [Nat.add_assoc, Nat.add_comm]

end Registry

end HeatingHub

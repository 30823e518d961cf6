import HeatingHub.Proofs.Hub.Effect

/-!
# Calls that make sense

A call is admissible for an installation if it asks for a mode or a temperature that its component
can have, if that component exists, and if it finds what it removes and nothing in the place of what
it sets. `Orderly` is admissibility of calls made one after another: each is judged by what the
calls before it leave.
-/

namespace HeatingHub

/-! ## Temperatures in a range -/

namespace Number

open Float.Model

theorem le_iff_compare {a b : Float} :
    a ≤ b ↔ (a.toModel.unpack.compare b.toModel.unpack).any (·.isLE) = true := by
  show decide (a.toModel ≤ b.toModel) = true ↔ _
  rw [decide_eq_true_iff]
  exact Iff.rfl

/-- Only finite numbers lie between finite ones: nothing compares with NaN, and the infinite numbers
lie outside. -/
theorem isFinite_of_le_of_le {a b t : Float} (ha : a.isFinite = true) (hb : b.isFinite = true)
    (hat : a ≤ t) (htb : t ≤ b) : t.isFinite = true := by
  change a.toModel.unpack.isFinite = true at ha
  change b.toModel.unpack.isFinite = true at hb
  change t.toModel.unpack.isFinite = true
  rw [le_iff_compare] at hat htb
  generalize a.toModel.unpack = x at ha hat
  generalize b.toModel.unpack = y at hb htb
  generalize t.toModel.unpack = u at hat htb ⊢
  cases u with
  | zero _ => rfl
  | finite _ _ _ _ => rfl
  | notANumber => cases x <;> exact absurd hat Bool.false_ne_true
  | infinity sign =>
    cases sign with
    | positive =>
      cases y with
      | zero _ | finite _ _ _ _ => exact absurd htb Bool.false_ne_true
      | infinity _ | notANumber => exact absurd hb Bool.false_ne_true
    | negative =>
      cases x with
      | zero _ | finite _ _ _ _ => exact absurd hat Bool.false_ne_true
      | infinity _ | notANumber => exact absurd ha Bool.false_ne_true

end Number

/-- A number from `low` through `high`, and so neither infinite nor NaN. -/
structure Between (low high t : Float) : Prop where
  low_le : low ≤ t
  le_high : t ≤ high
  finite : t.isFinite = true

theorem Range.between_of_contains {r : Range} {t : Float} (hl : r.low.isFinite = true)
    (hh : r.high.isFinite = true) (h : r.contains t = true) : Between r.low r.high t := by
  simp only [Range.contains, Bool.and_eq_true, decide_eq_true_eq] at h
  exact ⟨h.1, h.2, Number.isFinite_of_le_of_le hl hh h.1 h.2⟩

theorem between_of_heatingRange {t : Float} (h : heatingRange.contains t = true) :
    Between 5 30 t :=
  Range.between_of_contains (by decide +kernel) (by decide +kernel) h

theorem between_of_hotWaterRange {t : Float} (h : hotWaterRange.contains t = true) :
    Between 35 70 t :=
  Range.between_of_contains (by decide +kernel) (by decide +kernel) h

/-! ## Admissible calls -/

/-- The call makes sense for the installation. -/
def Call.Admissible (i : Installation) : Call → Prop
  | setHotWaterMode id mode => (i.hotWater? id).isSome ∧ mode ∈ [.auto, .on, .off]
  | setHotWaterTarget id target => (i.hotWater? id).isSome ∧ Between 35 70 target
  | setRoomMode id mode =>
    (∃ r, i.room? id = some r ∧ r.veto = none) ∧ mode ∈ [.auto, .manual, .off]
  | setRoomTarget id target => (∃ r, i.room? id = some r ∧ r.veto = none) ∧ Between 5 30 target
  | setRoomVeto id veto => (∃ r, i.room? id = some r ∧ r.veto = none) ∧ Between 5 30 veto.target
  | removeRoomVeto id => ∃ r, i.room? id = some r ∧ r.veto ≠ none
  | setZoneMode id mode =>
    (∃ z, i.zone? id = some z ∧ z.veto = none) ∧ mode ∈ [.auto, .day, .night, .off]
  | setZoneVeto id veto => (∃ z, i.zone? id = some z ∧ z.veto = none) ∧ Between 5 30 veto.target
  | removeZoneVeto id => ∃ z, i.zone? id = some z ∧ z.veto ≠ none
  | setQuickMode _ => i.quickMode = none
  | removeQuickMode => i.quickMode ≠ none
  | setHoliday start finish target => start ≤ finish ∧ Between 5 30 target
  | removeHoliday => ∃ h, i.holiday = some h ∧ h.active = true

/-- The component of an admissible call exists. -/
theorem Call.Admissible.lands {i : Installation} {call : Call} (h : call.Admissible i) :
    call.Lands i := by
  intro id hid
  cases call with
  | setHotWaterMode _ _ | setHotWaterTarget _ _ =>
    obtain rfl := Option.some.inj hid
    obtain ⟨w, hw⟩ := Option.isSome_iff_exists.1 h.1
    simp [Installation.component?_hotWater hw]
  | setRoomMode _ _ | setRoomTarget _ _ | setRoomVeto _ _ =>
    obtain rfl := Option.some.inj hid
    obtain ⟨⟨r, hr, _⟩, _⟩ := h
    simp [Installation.component?_room hr]
  | removeRoomVeto _ =>
    obtain rfl := Option.some.inj hid
    obtain ⟨r, hr, _⟩ := h
    simp [Installation.component?_room hr]
  | setZoneMode _ _ | setZoneVeto _ _ =>
    obtain rfl := Option.some.inj hid
    obtain ⟨⟨z, hz, _⟩, _⟩ := h
    simp [Installation.component?_zone hz]
  | removeZoneVeto _ =>
    obtain rfl := Option.some.inj hid
    obtain ⟨z, hz, _⟩ := h
    simp [Installation.component?_zone hz]
  | setQuickMode _ | removeQuickMode | setHoliday _ _ _ | removeHoliday => cases hid

/-! ## One call after another -/

/-- Each call is admissible for what the calls before it leave. -/
def Orderly : Installation → List Call → Prop
  | _, [] => True
  | i, call :: rest => call.Admissible i ∧ Orderly (call.effect i) rest

theorem orderly_append {i : Installation} {calls more : List Call} :
    Orderly i (calls ++ more) ↔ Orderly i calls ∧ Orderly (i.following calls) more := by
  induction calls generalizing i with
  | nil =>
    constructor
    · intro h
      exact ⟨trivial, h⟩
    · intro h
      exact h.2
  | cons call calls ih =>
    show call.Admissible i ∧ Orderly (call.effect i) (calls ++ more) ↔
      (call.Admissible i ∧ Orderly (call.effect i) calls) ∧
        Orderly ((call.effect i).following calls) more
    rw [ih, and_assoc]

theorem Orderly.take {i : Installation} {calls : List Call} (h : Orderly i calls) (n : Nat) :
    Orderly i (calls.take n) := by
  rw [← List.take_append_drop n calls, orderly_append] at h
  exact h.1

theorem orderly_singleton {i : Installation} {call : Call} :
    Orderly i [call] ↔ call.Admissible i := by
  constructor
  · intro h
    exact h.1
  · intro h
    exact ⟨h, trivial⟩

end HeatingHub

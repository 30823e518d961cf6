import HeatingHub.Calendar.Moment
import HeatingHub.Mode

/-!
# Weekly programs

A program has slots for each day of the week, in order of their starts. A slot is in force from
its start to the start of the next one, on whatever day that is; the program repeats every week.
-/

namespace HeatingHub

open Calendar (ClockTime Moment Weekday)

/-- From `start` on, the program asks for a temperature or a setting. -/
structure Slot where
  start : ClockTime
  target : Option Float
  setting : Option SettingMode
deriving DecidableEq

/-! ## Slots in order -/

/-- Puts a slot before the first one that does not start earlier. -/
def place (s : Slot) : List Slot → List Slot
  | [] => [s]
  | t :: rest => if s.start ≤ t.start then s :: t :: rest else t :: place s rest

/-- Orders slots by their starts; slots with the same start keep their order. -/
def arrange (slots : List Slot) : List Slot := slots.foldr place []

/-- No slot starts before the one in front of it. -/
def InOrder (slots : List Slot) : Prop := slots.Pairwise fun s t => s.start ≤ t.start

theorem place_perm (s : Slot) (slots : List Slot) : (place s slots).Perm (s :: slots) := by
  induction slots with
  | nil => exact .refl _
  | cons t rest ih =>
    unfold place
    split
    · exact .refl _
    · exact (ih.cons t).trans (.swap s t rest)

theorem arrange_perm (slots : List Slot) : (arrange slots).Perm slots := by
  induction slots with
  | nil => exact .refl _
  | cons s rest ih => exact (place_perm s _).trans (ih.cons s)

theorem inOrder_place {s : Slot} {slots : List Slot} (h : InOrder slots) :
    InOrder (place s slots) := by
  induction slots with
  | nil => exact List.pairwise_singleton _ _
  | cons t rest ih =>
    obtain ⟨ht, hrest⟩ := List.pairwise_cons.1 h
    unfold place
    split
    case isTrue hs =>
      refine List.pairwise_cons.2 ⟨fun u hu => ?_, h⟩
      rcases List.mem_cons.1 hu with rfl | hu
      · exact hs
      · exact Nat.le_trans hs (ht u hu)
    case isFalse hs =>
      refine List.pairwise_cons.2 ⟨fun u hu => ?_, ih hrest⟩
      rcases List.mem_cons.1 ((place_perm s rest).mem_iff.1 hu) with rfl | hu
      · exact Nat.le_of_not_le hs
      · exact ht u hu

theorem inOrder_arrange (slots : List Slot) : InOrder (arrange slots) := by
  induction slots with
  | nil => exact List.Pairwise.nil
  | cons s rest ih => exact inOrder_place ih

/-! ## Programs -/

structure TimeProgram where
  days : Vector (List Slot) 7
  inOrder : ∀ w : Weekday, InOrder (days.get w)
deriving DecidableEq

namespace TimeProgram

/-- The program with the given slots for each day, Monday first. -/
def ofDays (days : Vector (List Slot) 7) : TimeProgram where
  days := days.map arrange
  inOrder w := by
    simpa [Vector.get] using inOrder_arrange _

/-- A program without slots. -/
def empty : TimeProgram := ofDays (Vector.replicate 7 [])

/-- The program that has the same slots every day. -/
def uniform (slots : List Slot) : TimeProgram := ofDays (Vector.replicate 7 slots)

def day (p : TimeProgram) (w : Weekday) : List Slot := p.days.get w

/-- The slot in force: the last one that has started today, else the last one of the nearest day
before that has any. -/
def settingAt (p : TimeProgram) (now : Moment) : Option Slot :=
  match ((p.day now.date.weekday).filter fun s => s.start ≤ now.time).getLast? with
  | some s => some s
  | none => (List.range' 1 7).findSome? fun (back : Nat) =>
      (p.day (now.date.addDays (-(back : Int))).weekday).getLast?

/-- The next slot and its moment: the first one still to start today, else the first one of the
nearest day after that has any. -/
def nextSetting (p : TimeProgram) (now : Moment) : Option (Moment × Slot) :=
  match (p.day now.date.weekday).find? fun s => now.time < s.start with
  | some s => some (⟨now.date, s.start⟩, s)
  | none => (List.range' 1 7).findSome? fun (ahead : Nat) =>
      let date := now.date.addDays ahead
      (p.day date.weekday).head?.map fun s => (⟨date, s.start⟩, s)

end TimeProgram

end HeatingHub

import HeatingHub.Calendar.Date

/-!
# Overrides

A quick veto replaces the target temperature of one zone or room for a while; a holiday governs
the whole installation from one day to another.
-/

namespace HeatingHub

open Calendar (Date)

structure QuickVeto where
  target : Float
  /-- Minutes that remain, if the veto ends by itself. -/
  duration : Option Nat
deriving DecidableEq

structure Holiday where
  active : Bool
  start : Option Date
  finish : Option Date
  target : Option Float
deriving DecidableEq

namespace Holiday

/-- An active holiday from one day through another. -/
def between (start finish : Date) (target : Float) : Holiday :=
  ⟨true, some start, some finish, some target⟩

def inactive : Holiday := ⟨false, none, none, none⟩

/-- The holiday governs the given day. -/
def isApplied (h : Holiday) (today : Date) : Bool :=
  match h.active, h.start, h.finish with
  | true, some start, some finish => decide (start ≤ today) && decide (today ≤ finish)
  | _, _, _ => false

end Holiday

end HeatingHub

/-!
# Throttle

A throttle lets a call through when enough time has passed since the last call it let through. Time
is a number of units from any fixed instant; it may step back.
-/

namespace HeatingHub

structure Throttle where
  /-- The least time between two calls let through. -/
  interval : Nat
  last : Option Int
deriving DecidableEq

namespace Throttle

def new (interval : Nat) : Throttle := ⟨interval, none⟩

/-- The call at `now` is let through; time before the last call counts as none. -/
def admits (t : Throttle) (now : Int) : Bool :=
  match t.last with
  | none => true
  | some last => decide (t.interval ≤ (now - last).toNat)

/-- Decides on a call at `now` and remembers it if it is let through. -/
def tryAcquire (t : Throttle) (now : Int) : Bool × Throttle :=
  if t.admits now then (true, { t with last := some now }) else (false, t)

/-- The throttle once it let a call at the instant through. -/
def acquired (t : Throttle) (instant : Int) : Throttle := { t with last := some instant }

theorem tryAcquire_of_admits {t : Throttle} {instant : Int} (h : t.admits instant = true) :
    t.tryAcquire instant = (true, t.acquired instant) := if_pos h

theorem tryAcquire_of_not_admits {t : Throttle} {instant : Int} (h : t.admits instant = false) :
    t.tryAcquire instant = (false, t) := if_neg (Bool.eq_false_iff.1 h)

/-- Decides on a sequence of calls. -/
def run (t : Throttle) : List Int → List Bool × Throttle
  | [] => ([], t)
  | now :: rest =>
    let (admitted, t) := t.tryAcquire now
    let (answers, t) := t.run rest
    (admitted :: answers, t)

example : ((new 10).run [0, 5, 10, 3, 19, 20]).1 = [true, false, true, false, false, true] := by
  decide

end Throttle

end HeatingHub

import HeatingHub.Proofs.Hub.Failure
import HeatingHub.Proofs.Hub.Target

/-!
# Rooms in manual mode

A manual room has a target of its own, so a request for a target sets it there and makes no quick
veto. What counts is the mode in force after one override was removed: if a holiday hid a quick mode
that governs rooms, the room is in that quick mode then, and gets its target as any other room does.
-/

namespace HeatingHub

open Calendar (Moment)

namespace Site

variable {σ : Type} {session : Session σ} {now : Moment} {op : Operation} {hub : Hub} {remote : σ}

end Site

section

variable {h : Hub} {i : Installation} {now : Moment} {entity : String} {r : Room} {target : Float}

end

end HeatingHub

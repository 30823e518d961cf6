import HeatingHub.Throttle
import Mathlib.Data.List.Chain
import Mathlib.Order.Bounds.Basic

/-!
# Calls kept apart

The calls that a throttle lets through keep its interval, whatever the clock does, and it refuses
only those that come too shortly after the last one. As long as the clock does not step back, no
other choice of calls that keep the interval has more of them.
-/

namespace HeatingHub.Throttle

/-- The calls of a sequence that are let through. -/
def accepted (t : Throttle) (calls : List Int) : List Int :=
  ((calls.zip (t.run calls).1).filter (·.2)).map (·.1)

/-- From each call to the next one the interval passes. -/
def Spaced (interval : Nat) (calls : List Int) : Prop :=
  calls.IsChain fun earlier later : Int => earlier + interval ≤ later

variable {t : Throttle} {interval : Nat} {now : Int} {calls : List Int}

/-! ## One call -/

theorem admits_eq_false_iff : t.admits now = false ↔
    ∃ last, t.last = some last ∧ (now - last).toNat < t.interval := by
  unfold admits
  split
  case h_1 first => simp [first]
  case h_2 last latest => simp [latest]

theorem passed_of_admits (h : t.admits now = true) {last : Int} (latest : t.last = some last) :
    t.interval ≤ (now - last).toNat := by
  unfold admits at h
  rw [latest] at h
  exact of_decide_eq_true h

theorem run_cons_of_admits (h : t.admits now = true) : t.run (now :: calls) =
    (true :: ((t.acquired now).run calls).1, ((t.acquired now).run calls).2) := by
  rw [run, tryAcquire_of_admits h]

theorem run_cons_of_not_admits (h : t.admits now = false) :
    t.run (now :: calls) = (false :: (t.run calls).1, (t.run calls).2) := by
  rw [run, tryAcquire_of_not_admits h]

theorem accepted_cons_of_admits (h : t.admits now = true) :
    t.accepted (now :: calls) = now :: (t.acquired now).accepted calls := by
  simp [accepted, run_cons_of_admits h]

theorem accepted_cons_of_not_admits (h : t.admits now = false) :
    t.accepted (now :: calls) = t.accepted calls := by
  simp [accepted, run_cons_of_not_admits h]

/-! ## Sequences of calls -/

theorem accepted_sublist (t : Throttle) (calls : List Int) : (t.accepted calls).Sublist calls := by
  induction calls generalizing t with
  | nil => exact List.Sublist.slnil
  | cons now calls ih =>
    cases admitted : t.admits now with
    | true =>
      rw [accepted_cons_of_admits admitted]
      exact (ih _).cons_cons now
    | false =>
      rw [accepted_cons_of_not_admits admitted]
      exact (ih t).cons now

/-- A throttle remembers the last call that it let through. -/
theorem snd_run (t : Throttle) (calls : List Int) :
    (t.run calls).2 = { t with last := (t.accepted calls).getLast?.or t.last } := by
  induction calls generalizing t with
  | nil => rfl
  | cons now calls ih =>
    cases admitted : t.admits now with
    | true =>
      rw [run_cons_of_admits admitted, accepted_cons_of_admits admitted, List.getLast?_cons]
      dsimp only
      rw [ih]
      cases ((t.acquired now).accepted calls).getLast? <;> rfl
    | false =>
      rw [run_cons_of_not_admits admitted, accepted_cons_of_not_admits admitted]
      exact ih t

/-- Each call is judged by the throttle that the calls before it left. -/
theorem getElem?_run (t : Throttle) (before : List Int) (now : Int) (after : List Int) :
    (t.run (before ++ now :: after)).1[before.length]? = some ((t.run before).2.admits now) := by
  induction before generalizing t with
  | nil =>
    cases admitted : t.admits now with
    | true => simp [run_cons_of_admits admitted, run, admitted]
    | false => simp [run_cons_of_not_admits admitted, run, admitted]
  | cons first before ih =>
    cases admitted : t.admits first with
    | true => simp [run_cons_of_admits admitted, ih]
    | false => simp [run_cons_of_not_admits admitted, ih]

/-! ## The interval is kept -/

/-- Nothing is let through before the interval has passed since the last call. -/
theorem le_of_head?_accepted (pos : 0 < t.interval) {last first : Int} (latest : t.last = some last)
    (head : (t.accepted calls).head? = some first) : last + t.interval ≤ first := by
  induction calls with
  | nil => cases head
  | cons now calls ih =>
    cases admitted : t.admits now with
    | true =>
      rw [accepted_cons_of_admits admitted] at head
      obtain rfl := Option.some.inj head
      have passed := passed_of_admits admitted latest
      omega
    | false =>
      rw [accepted_cons_of_not_admits admitted] at head
      exact ih head

theorem spaced_accepted (pos : 0 < t.interval) (calls : List Int) :
    Spaced t.interval (t.accepted calls) := by
  induction calls generalizing t with
  | nil => exact List.isChain_nil
  | cons now calls ih =>
    cases admitted : t.admits now with
    | true =>
      rw [accepted_cons_of_admits admitted]
      have later : Spaced t.interval ((t.acquired now).accepted calls) := ih (t := t.acquired now) pos
      refine List.IsChain.cons later fun first head => ?_
      exact le_of_head?_accepted (t := t.acquired now) pos rfl head
    | false =>
      rw [accepted_cons_of_not_admits admitted]
      exact ih pos

theorem Spaced.pairwise_lt (h : Spaced interval calls) (pos : 0 < interval) :
    calls.Pairwise (· < ·) := by
  have increasing : calls.IsChain (· < ·) := h.imp fun _ _ passed => by omega
  exact increasing.pairwise

/-! ## No choice has more -/

/-- Of the calls to come, those chosen so that they keep the interval since the last call are no
more than those let through. The induction is on the calls: where the throttle takes one that the
choice leaves out, that one takes the place of the first chosen call, which comes no earlier. -/
theorem length_le_of_spaced {chosen : List Int} (order : calls.Pairwise (· ≤ ·))
    (sub : chosen.Sublist calls) (spaced : Spaced t.interval chosen)
    (behind : ∀ last first, t.last = some last → chosen.head? = some first →
      last + t.interval ≤ first) :
    chosen.length ≤ (t.accepted calls).length := by
  induction calls generalizing t chosen with
  | nil =>
    rw [List.sublist_nil.1 sub]
    exact Nat.zero_le _
  | cons now calls ih =>
    obtain ⟨least, order⟩ := List.pairwise_cons.1 order
    cases admitted : t.admits now with
    | true =>
      rw [accepted_cons_of_admits admitted]
      cases chosen with
      | nil => exact Nat.zero_le _
      | cons first others =>
        obtain ⟨apart, spaced⟩ := List.isChain_cons.1 spaced
        have noEarlier : now ≤ first := by
          rcases List.mem_cons.1 (sub.subset List.mem_cons_self) with rfl | later
          · exact Int.le_refl _
          · exact least first later
        refine Nat.succ_le_succ (ih order sub.tail spaced fun last second latest head => ?_)
        obtain rfl := Option.some.inj latest
        exact Int.le_trans (Int.add_le_add_right noEarlier _) (apart second head)
    | false =>
      rw [accepted_cons_of_not_admits admitted]
      rcases List.sublist_cons_iff.1 sub with sub | ⟨others, rfl, -⟩
      · exact ih order sub spaced behind
      · obtain ⟨last, latest, soon⟩ := admits_eq_false_iff.1 admitted
        have := behind last now latest rfl
        omega

/-! ## New throttles -/

theorem admits_after_eq_false_iff (pos : 0 < interval) {before : List Int} :
    ((new interval).run before).2.admits now = false ↔
      ∃ last, ((new interval).accepted before).getLast? = some last ∧ now < last + interval := by
  have left : ((new interval).run before).2 =
      ⟨interval, ((new interval).accepted before).getLast?⟩ := by
    rw [snd_run]
    simp [new]
  rw [left, admits_eq_false_iff]
  refine exists_congr fun last => and_congr_right fun _ => ?_
  dsimp only
  omega

theorem accepted_new_zero (calls : List Int) : (new 0).accepted calls = calls := by
  suffices all : ∀ last, (Throttle.mk 0 last).accepted calls = calls from all none
  induction calls with
  | nil => exact fun _ => rfl
  | cons now calls ih =>
    intro last
    have admitted : (Throttle.mk 0 last).admits now = true := by
      rw [← Bool.not_eq_false, admits_eq_false_iff]
      rintro ⟨_, _, soon⟩
      exact absurd soon (Nat.not_lt_zero _)
    rw [accepted_cons_of_admits admitted]
    exact congrArg (now :: ·) (ih _)

/-- A new throttle lets calls through in ascending order and at least its interval apart, and it
refuses a call exactly if it let one through before and the interval has not passed since. Of calls
in order it lets as many through as can be chosen at least the interval apart. Without an interval
it lets all through. -/
theorem calls_kept_apart (interval : Nat) (calls : List Int) :
    (0 < interval →
      ((new interval).accepted calls).Pairwise (· < ·) ∧
      Spaced interval ((new interval).accepted calls) ∧
      (∀ before now after, calls = before ++ now :: after →
        ∃ admitted, ((new interval).run calls).1[before.length]? = some admitted ∧
          (admitted = false ↔ ∃ last, ((new interval).accepted before).getLast? = some last ∧
            now < last + interval)) ∧
      (calls.Pairwise (· ≤ ·) →
        IsGreatest {n | ∃ chosen : List Int, chosen.Sublist calls ∧ Spaced interval chosen ∧
          chosen.length = n} ((new interval).accepted calls).length)) ∧
    (interval = 0 → (new interval).accepted calls = calls) := by
  constructor
  · intro pos
    have spaced := spaced_accepted (t := new interval) pos calls
    refine ⟨spaced.pairwise_lt pos, spaced, ?_, fun order => ⟨?_, ?_⟩⟩
    · rintro before now after rfl
      exact ⟨_, getElem?_run _ before now after, admits_after_eq_false_iff pos⟩
    · exact ⟨_, accepted_sublist _ _, spaced, rfl⟩
    · rintro n ⟨chosen, sub, spaced, rfl⟩
      exact length_le_of_spaced (t := new interval) order sub spaced nofun
  · rintro rfl
    exact accepted_new_zero calls

/-- Of calls at 0, 4, 9, 10 and 21 an interval of ten lets the first, the fourth and the last
through: that at 9 comes too shortly after that at 0, and no other choice has more than three. -/
theorem calls_kept_apart_of_ten :
    let calls : List Int := [0, 4, 9, 10, 21]
    0 < 10 ∧ calls = [0, 4] ++ 9 :: [10, 21] ∧ calls.Pairwise (· ≤ ·) ∧
      (new 10).accepted calls = [0, 10, 21] ∧ Spaced 10 ((new 10).accepted calls) ∧
      (∃ last, ((new 10).accepted [0, 4]).getLast? = some last ∧ 9 < last + 10) ∧
      IsGreatest {n | ∃ chosen : List Int, chosen.Sublist calls ∧ Spaced 10 chosen ∧
        chosen.length = n} 3 := by
  intro calls
  have order : calls.Pairwise (· ≤ ·) := by decide
  obtain ⟨-, spaced, judged, greatest⟩ := (calls_kept_apart 10 calls).1 (by decide)
  obtain ⟨admitted, answer, refused⟩ := judged [0, 4] 9 [10, 21] rfl
  obtain rfl : false = admitted := Option.some.inj answer
  exact ⟨by decide, rfl, order, by decide, spaced, refused.1 rfl, greatest order⟩

end HeatingHub.Throttle

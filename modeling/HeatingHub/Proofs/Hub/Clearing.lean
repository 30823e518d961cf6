import HeatingHub.Proofs.Hub.Failure
import HeatingHub.Proofs.Hub.InForce

/-!
# Removing overrides again and again

Each removal takes away the first override that governs a kind of component: the holiday, and then
the quick mode (`Installation.removals`). An override is removed just when components of the kind
are in its mode, and no more than two removals bring all of them back to modes of their own.
-/

namespace HeatingHub

open Calendar (Date Moment)

/-! ## Modes of overrides -/

/-- The mode is that of an override. -/
def Mode.IsOverride (m : Mode) : Prop := m = .holiday ∨ ∃ q, m = .quick q

theorem not_isOverride_operating (m : OperatingMode) : ¬(Mode.operating m).IsOverride := by
  rintro (h | ⟨q, h⟩) <;> cases h

/-- A mode of its own is not that of an override. -/
theorem Component.not_isOverride_own (c : Component) (now : Moment) :
    ¬(c.own now).mode.IsOverride := by
  have own : ∃ m, (c.own now).mode = .operating m := by
    cases c with
    | zone z => exact ⟨_, Installation.mode_own_zone z now⟩
    | room r => exact ⟨_, Installation.mode_own_room r now⟩
    | hotWater w => exact ⟨_, Installation.mode_own_hotWater w now⟩
    | circulation c => exact ⟨_, Installation.mode_own_circulation c now⟩
  obtain ⟨m, hm⟩ := own
  rw [hm]
  exact not_isOverride_operating m

namespace Installation

variable {i : Installation} {kind : Kind} {today : Date} {now : Moment}

theorem mode_effective_of_away (h : i.Away now.date) (c : Component) :
    (c.effective i now).mode = .holiday := by
  obtain ⟨holiday, applied⟩ := Option.isSome_iff_exists.1 h
  cases c with
  | zone z => simp only [Component.effective, effectiveZone, applied]
  | room r => simp only [Component.effective, effectiveRoom, applied]
  | hotWater w => simp only [Component.effective, effectiveHotWater, applied]; rfl
  | circulation c => simp only [Component.effective, effectiveCirculation, applied]

/-- A component is in the mode of an override if and only if there is one to remove. -/
theorem isOverride_effective_iff {c : Component} (hc : c.kind ≠ .circulation) :
    (c.effective i now).mode.IsOverride ↔ (i.conflict c.kind now.date).isSome = true := by
  rcases i.conflict_cases c.kind now.date with ⟨ha, hr⟩ | ⟨ha, ⟨q, hq, applies⟩, hr⟩ |
    ⟨ha, hq, hr⟩ <;> rw [hr]
  · rw [mode_effective_of_away ha]
    exact iff_of_true (.inl rfl) rfl
  · rw [mode_effective_of_boosted ha hq applies]
    exact iff_of_true (.inr ⟨q, rfl⟩) rfl
  · rw [effective_of_free hc ha hq]
    exact iff_of_false (c.not_isOverride_own now) Bool.false_ne_true

/-! ## All that there is to remove -/

/-- The removals of the overrides that govern components of the kind, in their order. -/
def removals (i : Installation) (kind : Kind) (today : Date) : List Call :=
  (if i.Away today then [.removeHoliday] else []) ++
    (if i.Boosted kind then [.removeQuickMode] else [])

theorem mem_removals {call : Call} : call ∈ i.removals kind today ↔
    (call = .removeHoliday ∧ i.Away today) ∨ (call = .removeQuickMode ∧ i.Boosted kind) := by
  unfold removals
  by_cases ha : i.Away today <;> by_cases hq : i.Boosted kind <;> simp [ha, hq]

theorem length_removals_le (i : Installation) (kind : Kind) (today : Date) :
    (i.removals kind today).length ≤ 2 := by
  unfold removals
  split <;> split <;> simp

theorem removals_of_free (ha : ¬i.Away today) (hq : ¬i.Boosted kind) :
    i.removals kind today = [] := by
  unfold removals
  rw [if_neg ha, if_neg hq, List.append_nil]

/-- One removal leaves the others to be made. -/
theorem removals_cases (i : Installation) (kind : Kind) (today : Date) :
    (i.removals kind today = [] ∧ i.conflict kind today = none) ∨
      ∃ call rest, i.removals kind today = call :: rest ∧ i.conflict kind today = some call ∧
        (call.effect i).removals kind today = rest := by
  rcases i.conflict_cases kind today with ⟨ha, hc⟩ | ⟨ha, hq, hc⟩ | ⟨ha, hq, hc⟩
  · have home : ¬(Call.removeHoliday.effect i).Away today := not_away_of_inactive rfl
    have boosted : (Call.removeHoliday.effect i).Boosted kind ↔ i.Boosted kind := boosted_congr rfl
    refine .inr ⟨.removeHoliday, _, ?_, hc, rfl⟩
    unfold removals
    rw [if_pos ha, if_neg home]
    simp only [boosted]
    rfl
  · have away : (Call.removeQuickMode.effect i).Away today ↔ i.Away today := away_congr rfl
    refine .inr ⟨.removeQuickMode, [], ?_, hc, ?_⟩
    · unfold removals
      rw [if_neg ha, if_pos hq]
      rfl
    · exact removals_of_free (mt away.1 ha) (not_boosted_of_none rfl)
  · exact .inl ⟨removals_of_free ha hq, hc⟩

theorem orderly_removals (i : Installation) (kind : Kind) (today : Date) :
    Orderly i (i.removals kind today) := by
  rcases i.conflict_cases kind today with ⟨ha, _⟩ | ⟨ha, hq, _⟩ | ⟨ha, hq, _⟩
  · unfold removals
    rw [if_pos ha]
    refine ⟨ha.admissible, ?_⟩
    split
    case isTrue hq =>
      have boosted : (Call.removeHoliday.effect i).Boosted kind := hq
      exact orderly_singleton.2 boosted.admissible
    case isFalse => exact trivial
  · unfold removals
    rw [if_neg ha, if_pos hq]
    exact orderly_singleton.2 hq.admissible
  · rw [removals_of_free ha hq]
    exact trivial

/-- Once all were removed, no override governs the kind. -/
theorem free_following_removals (i : Installation) (kind : Kind) (today : Date) :
    ¬(i.following (i.removals kind today)).Away today ∧
      ¬(i.following (i.removals kind today)).Boosted kind := by
  unfold removals
  by_cases ha : i.Away today <;> by_cases hq : i.Boosted kind
  · rw [if_pos ha, if_pos hq]
    exact ⟨not_away_of_inactive rfl, not_boosted_of_none rfl⟩
  · rw [if_pos ha, if_neg hq]
    exact ⟨not_away_of_inactive rfl, hq⟩
  · rw [if_neg ha, if_pos hq]
    exact ⟨ha, not_boosted_of_none rfl⟩
  · rw [if_neg ha, if_neg hq]
    exact ⟨ha, hq⟩

end Installation

/-! ## Removing in a row -/

namespace Site

variable {σ : Type}

/-- Removes overrides that hide changes of components of the kind, a number of times. -/
def clearing (session : Session σ) (now : Moment) (kind : Kind) :
    Nat → Site σ → List (Except HubError Bool) × Site σ
  | 0, site => ([], site)
  | n + 1, site =>
    let (answer, next) := site.clearOverrides session now kind
    let (answers, last) := clearing session now kind n next
    (answer :: answers, last)

/-- A number of removals are steps of a run. -/
theorem clearing_snd (session : Session σ) (now : Moment) (kind : Kind) (n : Nat)
    (site : Site σ) : (clearing session now kind n site).2 =
      site.run session (List.replicate n (.operate now (.clearOverrides kind))) := by
  induction n generalizing site with
  | zero => rfl
  | succ n ih => exact ih _

section Willing

variable {session : Session σ} (willing : session.Willing) (now : Moment) (kind : Kind)
  {site : Site σ} {i : Installation}

include willing

theorem clearOverrides_willing (held : site.hub.snapshot.installation = some i) :
    ∃ remote, site.clearOverrides session now kind =
      (.ok (i.conflict kind now.date).isSome,
        ⟨site.hub.patched (i.conflict kind now.date).toList, remote,
          site.log ++ (i.conflict kind now.date).toList.map .done⟩) := by
  have carried := carryOut_willing willing (i.conflict kind now.date).toList site
  unfold clearOverrides
  simp only [installation_eq_ok.2 held]
  rcases carryOut_cases session (i.conflict kind now.date).toList site with
    ⟨remote, hc⟩ | ⟨_, _, _, _, _, _, hc⟩
  · exact ⟨remote, by rw [hc]⟩
  · rw [hc] at carried
    cases carried

/-- Every removal takes the next override away until none is left. -/
theorem clearing_willing (n : Nat) (held : site.hub.snapshot.installation = some i) :
    ∃ remote, clearing session now kind n site =
      (List.replicate (min n (i.removals kind now.date).length) (.ok true) ++
          List.replicate (n - (i.removals kind now.date).length) (.ok false),
        ⟨site.hub.patched ((i.removals kind now.date).take n), remote,
          site.log ++ ((i.removals kind now.date).take n).map .done⟩) := by
  -- the installation changes under the induction: what is left to remove is a tail of `removals`
  induction n generalizing site i with
  | zero =>
    refine ⟨site.remote, ?_⟩
    rw [List.take_zero, Nat.zero_min, Nat.zero_sub, List.map_nil, List.append_nil, patched_nil]
    rfl
  | succ n ih =>
    obtain ⟨remote, hr⟩ := clearOverrides_willing willing now kind held
    unfold clearing
    rw [hr]
    rcases i.removals_cases kind now.date with ⟨nothing, hc⟩ | ⟨call, rest, more, hc, later⟩
    · let next : Site σ := ⟨site.hub, remote, site.log⟩
      have held' : next.hub.snapshot.installation = some i := held
      obtain ⟨last, hl⟩ := ih held'
      refine ⟨last, ?_⟩
      simp only [hc, Option.toList_none, Option.isSome_none, List.map_nil, List.append_nil,
        patched_nil]
      rw [hl, nothing, List.length_nil, Nat.min_zero, Nat.min_zero, List.take_nil, List.take_nil]
      rfl
    · have ordered : Orderly i [call] := by
        have conflict := i.orderly_conflict kind now.date
        rwa [hc] at conflict
      let next : Site σ := ⟨site.hub.patched [call], remote, site.log ++ [.done call]⟩
      have held' : next.hub.snapshot.installation = some (call.effect i) :=
        congrArg Snapshot.installation (snapshot_patched held ordered)
      obtain ⟨last, hl⟩ := ih held'
      refine ⟨last, ?_⟩
      simp only [hc, Option.toList_some, Option.isSome_some, List.map_cons, List.map_nil]
      rw [hl, later, more, List.length_cons, Nat.add_sub_add_right, Nat.add_min_add_right,
        List.replicate_succ, List.take_succ_cons, List.map_cons, patched_cons, List.append_assoc]
      rfl

end Willing

/-- However often overrides that hide changes of a kind of component are removed by a session that
does not fail, the holiday is removed first, if it governs the day, then the quick mode, if it
applies to the kind, and nothing else. A removal tells that it removed something just when
components of the kind are in the mode of an override, and once it tells that it did not, every one
of them is in its own mode. -/
theorem clearing_converges {session : Session σ} (willing : session.Willing) {kind : Kind}
    (governable : kind ≠ .circulation) (now : Moment) (remote : σ) {hub : Hub} {i : Installation}
    (held : hub.snapshot.installation = some i) :
    let start := new hub (remote, [])
    let calls := i.removals kind now.date
    (∀ c : Component, c.kind = kind →
      ((start.clearOverrides session.recorded now kind).1 = .ok true ↔
          (c.effective i now).mode.IsOverride) ∧
        ((start.clearOverrides session.recorded now kind).1 = .ok false ↔
          ¬(c.effective i now).mode.IsOverride)) ∧
      calls.length ≤ 2 ∧
      ∀ n, let (answers, last) := clearing session.recorded now kind n start
        ∃ j, last.hub.snapshot.installation = some j ∧
          answers = List.replicate (min n calls.length) (.ok true) ++
            List.replicate (n - calls.length) (.ok false) ∧
          made last.remote.2 = calls.take n ∧
          (.ok false ∈ answers → ∀ c : Component, c.kind = kind →
            c.effective j now = c.own now) ∧
          (¬i.Away now.date → j.holiday = i.holiday) ∧
          (¬i.Boosted kind → j.quickMode = i.quickMode) := by
  intro start calls
  have held' : start.hub.snapshot.installation = some i := held
  refine ⟨?_, i.length_removals_le kind now.date, ?_⟩
  · rintro c rfl
    obtain ⟨after, hr⟩ := clearOverrides_willing willing.recorded now c.kind held'
    rw [hr, Installation.isOverride_effective_iff governable]
    cases (i.conflict c.kind now.date).isSome <;> simp
  · intro n
    obtain ⟨after, hr⟩ := clearing_willing willing.recorded now kind n held'
    have traced : made (clearing session.recorded now kind n start).2.remote.2 = calls.take n := by
      rw [clearing_snd, trace_run, made_filter, ← clearing_snd, hr]
      exact made_done _
    rw [hr] at traced ⊢
    have ordered : Orderly i (calls.take n) := (i.orderly_removals kind now.date).take n
    refine ⟨i.following (calls.take n), ?_, rfl, traced, ?_, ?_, ?_⟩
    · exact congrArg Snapshot.installation (snapshot_patched held ordered)
    · rintro done c rfl
      have enough : calls.length < n := by
        rcases Nat.lt_or_ge calls.length n with enough | few
        · exact enough
        · rw [Nat.sub_eq_zero_of_le few] at done
          simp at done
      obtain ⟨ha, hq⟩ := i.free_following_removals c.kind now.date
      rw [List.take_of_length_le (Nat.le_of_lt enough)]
      exact Installation.effective_of_free governable ha hq
    · intro ha
      refine Installation.find_following (·.holiday) ?_ i
      intro call hc j
      rcases Installation.mem_removals.1 (List.mem_of_mem_take hc) with ⟨rfl, away⟩ | ⟨rfl, _⟩
      · exact absurd away ha
      · rfl
    · intro hq
      refine Installation.find_following (·.quickMode) ?_ i
      intro call hc j
      rcases Installation.mem_removals.1 (List.mem_of_mem_take hc) with ⟨rfl, _⟩ | ⟨rfl, boosted⟩
      · rfl
      · exact absurd boosted hq

/-- On holiday, with a party set besides, two removals put a zone back in its own mode. -/
theorem clearing_converges_after_party :
    let zone : Zone := ⟨"1", "Ground", .ofDays (.replicate 7 []), none, 21, 18, .auto, none, none,
      false⟩
    let i : Installation := { Installation.empty with
      holiday := some (.between ⟨738000⟩ ⟨738009⟩ 15)
      quickMode := some .party
      zones := [zone] }
    let hub : Hub := { Hub.new 300 180 with snapshot := ⟨some i, 1⟩ }
    let now : Moment := ⟨⟨738003⟩, .midnight⟩
    Session.obliging.Willing ∧ Kind.zone ≠ .circulation ∧ hub.snapshot.installation = some i ∧
      ((Component.zone zone).effective i now).mode = .holiday ∧
      ∃ j, (clearing Session.obliging.recorded now .zone 3
          (new hub ((), []))).1 = [.ok true, .ok true, .ok false] ∧
        made (clearing Session.obliging.recorded now .zone 3
          (new hub ((), []))).2.remote.2 = [.removeHoliday, .removeQuickMode] ∧
        (Component.zone zone).effective j now = (Component.zone zone).own now := by
  intro zone i hub now
  have governable : Kind.zone ≠ .circulation := by decide
  have held : hub.snapshot.installation = some i := rfl
  obtain ⟨_, _, repeated⟩ := clearing_converges willing_obliging governable now () held
  obtain ⟨j, _, answers, removed, home, _⟩ := repeated 3
  refine ⟨willing_obliging, governable, held, rfl, j, answers, removed, home ?_ (.zone zone) rfl⟩
  rw [answers]
  exact .tail _ (.tail _ (.head _))

end Site

end HeatingHub

import HeatingHub.Proofs.Snapshot.Patches

/-!
# What versions tell

A snapshot changes by updates: an installation takes the place of the last one, or a patch is
applied. An update that changes anything raises the version by one (`Snapshot.update_cases`), so
that along any run the same version means the same installation.
-/

namespace HeatingHub

namespace Snapshot

/-- A change of a snapshot. -/
inductive Update where
  | replace (i : Installation)
  | apply (p : Patch)

def update (s : Snapshot) : Update → Snapshot
  | .replace i => s.replace i
  | .apply p => (s.apply p).2

/-- The snapshot after updates in order. -/
def updated (s : Snapshot) (updates : List Update) : Snapshot := updates.foldl update s

variable {s : Snapshot} {p : Patch}

/-! ## One update -/

theorem apply_eq_false_iff : (s.apply p).1 = false ↔
    s.installation = none ∨ ∃ i id, s.installation = some i ∧
      p.setting.component? = some id ∧ ¬i.Has id := by
  cases loaded : s.installation with
  | none => simp [apply_of_unloaded loaded]
  | some i =>
    by_cases h : p.setting.In i
    · rw [apply_of_in loaded h]
      constructor
      · intro applied
        cases applied
      · rintro (unloaded | ⟨j, id, hj, hid, missing⟩)
        · cases unloaded
        · obtain rfl := Option.some.inj hj
          exact absurd (h id hid) missing
    · rw [apply_of_not_in loaded h]
      obtain ⟨id, hid, missing⟩ : ∃ id, p.setting.component? = some id ∧ ¬i.Has id := by
        simpa [Setting.In] using h
      exact iff_of_true rfl (.inr ⟨i, id, rfl, hid, missing⟩)

theorem version_of_applied (applied : (s.apply p).1 = true) :
    (s.apply p).2.version = s.version + 1 := by
  unfold apply at applied ⊢
  split
  case h_1 => rfl
  case h_2 refused =>
    rw [refused] at applied
    cases applied

theorem snd_apply_of_refused (refused : (s.apply p).1 = false) : (s.apply p).2 = s := by
  unfold apply at refused ⊢
  split
  case h_1 applied =>
    rw [applied] at refused
    cases refused
  case h_2 => rfl

/-- An update raises the version, or it changes nothing. -/
theorem update_cases (s : Snapshot) (u : Update) :
    (s.update u).version = s.version + 1 ∨ s.update u = s := by
  cases u with
  | replace i => exact .inl rfl
  | apply p =>
    cases answer : (s.apply p).1 with
    | true => exact .inl (version_of_applied answer)
    | false => exact .inr (snd_apply_of_refused answer)

/-! ## Runs -/

theorem version_le_updated (s : Snapshot) (updates : List Update) :
    s.version ≤ (s.updated updates).version ∧
      (s.updated updates).version ≤ s.version + updates.length := by
  induction updates generalizing s with
  | nil => exact ⟨Nat.le_refl _, Nat.le_refl _⟩
  | cons u updates ih =>
    have later := ih (s.update u)
    show s.version ≤ ((s.update u).updated updates).version ∧
      ((s.update u).updated updates).version ≤ s.version + (updates.length + 1)
    rcases update_cases s u with raised | same
    · omega
    · rw [same] at later ⊢
      omega

/-- As long as the version stays, so does everything. -/
theorem updated_eq_self {updates : List Update}
    (same : (s.updated updates).version = s.version) : s.updated updates = s := by
  induction updates with
  | nil => rfl
  | cons u updates ih =>
    change ((s.update u).updated updates).version = s.version at same
    show (s.update u).updated updates = s
    have later := version_le_updated (s.update u) updates
    rcases update_cases s u with raised | unchanged
    · omega
    · rw [unchanged] at same ⊢
      exact ih same

/-- Between two points of a run with one version nothing changed. -/
theorem updated_take_eq {updates : List Update} {m n : Nat} (order : m ≤ n)
    (same : (s.updated (updates.take m)).version = (s.updated (updates.take n)).version) :
    s.updated (updates.take m) = s.updated (updates.take n) := by
  obtain ⟨k, rfl⟩ := Nat.exists_eq_add_of_le order
  have split : s.updated (updates.take (m + k)) =
      (s.updated (updates.take m)).updated ((updates.drop m).take k) := by
    rw [List.take_add]
    exact List.foldl_append
  rw [split] at same ⊢
  exact (updated_eq_self same.symm).symm

theorem updated_take_succ {updates : List Update} {n : Nat} {u : Update}
    (hu : updates[n]? = some u) :
    s.updated (updates.take (n + 1)) = (s.updated (updates.take n)).update u := by
  rw [List.take_add_one, hu]
  exact List.foldl_append

/-- Along every run of updates, an installation that is replaced and a patch that is applied raise
the version by one, and a patch that is refused, since nothing was loaded or its component is not
there, changes nothing. The version counts updates at most, and two points of the run with the same
version have the same installation. -/
theorem version_tells_changes (start : Snapshot) (updates : List Update) :
    let point (n : Nat) := start.updated (updates.take n)
    (∀ n i, updates[n]? = some (.replace i) →
      point (n + 1) = ⟨some i, (point n).version + 1⟩) ∧
      (∀ n p, updates[n]? = some (.apply p) →
        point (n + 1) = ((point n).apply p).2 ∧
          (((point n).apply p).1 = true → (point (n + 1)).version = (point n).version + 1) ∧
          (((point n).apply p).1 = false → point (n + 1) = point n) ∧
          (((point n).apply p).1 = false ↔ (point n).installation = none ∨
            ∃ i id, (point n).installation = some i ∧ p.setting.component? = some id ∧
              ¬i.Has id)) ∧
      (∀ n, (point n).version ≤ start.version + n) ∧
      ∀ m n, (point m).version = (point n).version →
        (point m).installation = (point n).installation := by
  intro point
  refine ⟨?_, ?_, ?_, ?_⟩
  · intro n i hu
    exact updated_take_succ hu
  · intro n p hu
    have next : point (n + 1) = ((point n).apply p).2 := updated_take_succ hu
    rw [next]
    exact ⟨rfl, version_of_applied, snd_apply_of_refused, apply_eq_false_iff⟩
  · intro n
    have counted := (version_le_updated start (updates.take n)).2
    have short := List.length_take_le n updates
    exact Nat.le_trans counted (Nat.add_le_add_left short _)
  · intro m n same
    rcases Nat.le_total m n with order | order
    · exact congrArg installation (updated_take_eq order same)
    · exact congrArg installation (updated_take_eq order same.symm).symm

end Snapshot

end HeatingHub

import Mathlib.Data.List.Forall2

/-!
# Computations that may fail

How results and failures of steps make up those of a sequence of steps. `FailsFirst` says which
failure of several possible ones is the one that shows, and `FailsBy` from which conditions it
follows.
-/

namespace HeatingHub

variable {ε α β : Type} {x : Except ε α}

/-! ## Results -/

theorem bind_eq_ok {f : α → Except ε β} {b : β} :
    x >>= f = .ok b ↔ ∃ a, x = .ok a ∧ f a = .ok b := by
  constructor
  · intro h
    cases x with
    | error e => cases h
    | ok a => exact ⟨a, rfl, h⟩
  · rintro ⟨a, rfl, hf⟩
    exact hf

theorem map_eq_ok {f : α → β} {b : β} : x.map f = .ok b ↔ ∃ a, x = .ok a ∧ f a = b := by
  cases x with
  | error e => simp [Except.map]
  | ok a => simp [Except.map]

theorem map_eq_error {f : α → β} {e : ε} : x.map f = .error e ↔ x = .error e := by
  cases x with
  | error e => simp [Except.map]
  | ok a => simp [Except.map]

/-- Going through a list gives one result for each entry, in order. -/
theorem mapM_eq_ok {f : α → Except ε β} {as : List α} {bs : List β} :
    as.mapM f = .ok bs ↔ List.Forall₂ (fun a b => f a = .ok b) as bs := by
  induction as generalizing bs with
  | nil =>
    have nothing : ([] : List α).mapM f = .ok [] := rfl
    rw [nothing, List.forall₂_nil_left_iff, Except.ok.injEq, eq_comm]
  | cons a rest ih =>
    rw [List.mapM_cons, bind_eq_ok, List.forall₂_cons_left_iff]
    constructor
    · rintro ⟨b, hb, h⟩
      obtain ⟨bs', hbs, h⟩ := bind_eq_ok.1 h
      obtain rfl : b :: bs' = bs := by simpa [pure, Except.pure] using h
      exact ⟨b, bs', hb, ih.1 hbs, rfl⟩
    · rintro ⟨b, bs', hb, hbs, rfl⟩
      exact ⟨b, hb, bind_eq_ok.2 ⟨bs', ih.2 hbs, rfl⟩⟩

/-! ## The first failure -/

section

variable {f : α → Except ε β} {l l' : List ε}

/-- The computation fails with the first of the complaints; it gives a result if there are none. -/
inductive FailsFirst : Except ε α → List ε → Prop where
  | ok (a : α) : FailsFirst (.ok a) []
  | error (e : ε) (later : List ε) : FailsFirst (.error e) (e :: later)

namespace FailsFirst

theorem error_iff (h : FailsFirst x l) (e : ε) : x = .error e ↔ l.head? = some e := by
  cases h with
  | ok a => simp
  | error e' later => simp

theorem ok_iff (h : FailsFirst x l) : (∃ a, x = .ok a) ↔ l = [] := by
  cases h with
  | ok a => simp
  | error e later => simp

/-- What comes after a step is only reached when the step has no complaint. -/
theorem bind (hx : FailsFirst x l) (hf : ∀ a, x = .ok a → FailsFirst (f a) l') :
    FailsFirst (x >>= f) (l ++ l') := by
  cases hx with
  | ok a => exact hf a rfl
  | error e later => exact .error e (later ++ l')

theorem bind_ok (hx : FailsFirst x l) (hf : ∀ a, ∃ b, f a = .ok b) :
    FailsFirst (x >>= f) l := by
  cases hx with
  | ok a =>
    obtain ⟨b, hb⟩ := hf a
    show FailsFirst (f a) []
    exact hb ▸ .ok b
  | error e later => exact .error e later

theorem map (hx : FailsFirst x l) (g : α → β) : FailsFirst (x.map g) l := by
  cases hx with
  | ok a => exact .ok (g a)
  | error e later => exact .error e later

theorem mapM {complaints : α → List ε} (h : ∀ a, FailsFirst (f a) (complaints a)) (as : List α) :
    FailsFirst (as.mapM f) (as.flatMap complaints) := by
  induction as with
  | nil => exact .ok []
  | cons a rest ih =>
    rw [List.mapM_cons, List.flatMap_cons]
    exact (h a).bind fun _ _ => ih.bind_ok fun _ => ⟨_, rfl⟩

end FailsFirst

/-- The failure of a computation, if it fails. -/
def failures : Except ε α → List ε
  | .ok _ => []
  | .error e => [e]

theorem failsFirst_failures (x : Except ε α) : FailsFirst x (failures x) := by
  cases x with
  | ok a => exact .ok a
  | error e => exact .error e []

theorem failures_eq_nil : failures x = [] ↔ ∃ a, x = .ok a := (failsFirst_failures x).ok_iff.symm

theorem head?_failures {e : ε} : (failures x).head? = some e ↔ x = .error e :=
  ((failsFirst_failures x).error_iff e).symm

theorem failures_map (g : α → β) : failures (x.map g) = failures x := by
  cases x <;> rfl

end

/-! ## The first condition -/

section

variable {fault : ε → Prop} {faults : List (ε → Prop)} {e : ε}

/-- A failure by one of several conditions, of which none before it holds for any failure. -/
def FirstOf (faults : List (ε → Prop)) (e : ε) : Prop :=
  ∃ before fault after, faults = before ++ fault :: after ∧ fault e ∧
    ∀ earlier ∈ before, ∀ e', ¬earlier e'

theorem firstOf_cons : FirstOf (fault :: faults) e ↔
    fault e ∨ (∀ e', ¬fault e') ∧ FirstOf faults e := by
  constructor
  · rintro ⟨before, found, after, split, holds, none⟩
    rcases List.cons_eq_append_iff.1 split with ⟨rfl, same⟩ | ⟨before', rfl, split'⟩
    · cases same
      exact .inl holds
    · rw [List.forall_mem_cons] at none
      exact .inr ⟨none.1, before', found, after, split', holds, none.2⟩
  · rintro (holds | ⟨none, before, found, after, rfl, holds, none'⟩)
    · exact ⟨[], fault, faults, rfl, holds, nofun⟩
    · exact ⟨fault :: before, found, after, rfl, holds, List.forall_mem_cons.2 ⟨none, none'⟩⟩

theorem exists_firstOf_iff :
    (∃ e, FirstOf faults e) ↔ ∃ fault ∈ faults, ∃ e, fault e := by
  constructor
  · rintro ⟨e, before, fault, after, rfl, holds, -⟩
    exact ⟨fault, List.mem_append_right _ List.mem_cons_self, e, holds⟩
  · intro h
    induction faults with
    | nil => simp at h
    | cons fault faults ih =>
      by_cases holds : ∃ e, fault e
      · obtain ⟨e, holds⟩ := holds
        exact ⟨e, firstOf_cons.2 (.inl holds)⟩
      · rw [List.exists_mem_cons_iff] at h
        obtain ⟨e, first⟩ := ih (h.resolve_left holds)
        exact ⟨e, firstOf_cons.2 (.inr ⟨not_exists.1 holds, first⟩)⟩

/-- The computation fails exactly by the first of the conditions that holds. -/
def FailsBy (x : Except ε α) (faults : List (ε → Prop)) : Prop :=
  ∀ e, x = .error e ↔ FirstOf faults e

theorem failsBy_ok (a : α) : FailsBy (.ok a) ([] : List (ε → Prop)) := by
  intro e
  simp [FirstOf]

theorem FailsBy.bind {f : α → Except ε β} (hx : ∀ e, x = .error e ↔ fault e)
    (hf : ∀ a, x = .ok a → FailsBy (f a) faults) : FailsBy (x >>= f) (fault :: faults) := by
  intro e
  rw [firstOf_cons, ← hx]
  cases x with
  | ok a =>
    have none : ∀ e', ¬fault e' := fun e' holds => nomatch (hx e').2 holds
    show f a = .error e ↔ _
    rw [hf a rfl e]
    simp [none]
  | error e' =>
    have holds := (hx e').1 rfl
    constructor
    · intro h
      cases h
      exact .inl rfl
    · rintro (h | ⟨none, -⟩)
      · cases h
        rfl
      · exact absurd holds (none e')

end

end HeatingHub

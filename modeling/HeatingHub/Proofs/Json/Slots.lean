import HeatingHub.Json.Fields
import Mathlib.Data.List.Basic

/-!
# One member, one field

A member of an object decides one field of the record. Two objects that differ in the document under
one key decode to records that differ in the field of that name, or to the same error
(`decode_of_follows`), whatever their other members are.
-/

namespace HeatingHub.Json.Fields

theorem inside_map {α β : Type} (s : Segment) (r : Except Path α) (f : α → β) :
    inside s (r.map f) = (inside s r).map f := by
  cases r <;> rfl

/-- The field under the key follows the document there: what `d` makes of the fields seen is `put`
of what `d'` makes of them, no other field notices, and the record is `f` of the other record. -/
structure Puts {α : Type} (fields : Fields α) (key : String) (d d' : Document) (f : α → α)
    (put : fields.Seen → fields.Seen) : Prop where
  known : key ∈ fields.names
  here : ∀ seen, fields.visit seen key d = (fields.visit seen key d').map put
  apart : ∀ k ∈ fields.names, k ≠ key → ∀ seen x,
    fields.visit (put seen) k x = (fields.visit seen k x).map put
  close : ∀ seen, fields.close (put seen) = (fields.close seen).map f

/-- Where the one document changes to the other under the key, the record changes by `f`. -/
def Follows {α : Type} (fields : Fields α) (key : String) (d d' : Document) (f : α → α) : Prop :=
  ∃ put, Puts fields key d d' f put

section Build

variable {α β : Type} {key : String} {d d' : Document}

/-! ## Fields and records -/

theorem Follows.field {decode : Decoder α} {absent short : Option α} {f : α → α}
    (h : decode d = (decode d').map f) :
    (Fields.field key decode absent short).Follows key d d' f := by
  refine ⟨fun seen => (Option.or seen absent).map f, List.mem_singleton_self key, fun _ => ?_, ?_,
    ?_⟩
  · show (decode d).map some = ((decode d').map some).map _
    rw [h]
    cases decode d' <;> rfl
  · intro k hk other
    exact absurd (List.mem_singleton.1 hk) other
  · intro seen
    show Option.or ((Option.or seen absent).map f) absent = (Option.or seen absent).map f
    cases seen with
    | some x => rfl
    | none => cases absent <;> rfl

theorem Follows.map {a : Fields α} {f : α → α} (h : a.Follows key d d' f) {g : α → β} {f' : β → β}
    (square : ∀ x, g (f x) = f' (g x)) : (g <$> a).Follows key d d' f' := by
  obtain ⟨put, known, here, apart, close⟩ := h
  refine ⟨put, known, here, apart, fun (seen : a.Seen) => ?_⟩
  show (a.close (put seen)).map g = ((a.close seen).map g).map f'
  rw [close, Option.map_map, Option.map_map]
  exact congrArg (Option.map · _) (funext square)

section Seq

variable {a : Fields (α → β)} {b : Fields α} {k : String} {x y : Document} {s s' : a.Seen}
  {t t' : b.Seen} {put : a.Seen → a.Seen} {put' : b.Seen → b.Seen}

theorem visit_first (first : k ∈ a.names) (h : a.visit s k x = (a.visit s' k y).map put) :
    (seq a b).visit (s, t) k x = ((seq a b).visit (s', t) k y).map (Prod.map put id) := by
  have visit (s : a.Seen) (x : Document) :
    (seq a b).visit (s, t) k x = (a.visit s k x).map (·, t) := if_pos first
  rw [visit, visit, h]
  cases a.visit s' k y <;> rfl

theorem visit_second (later : k ∉ a.names) (h : b.visit t k x = (b.visit t' k y).map put') :
    (seq a b).visit (s, t) k x = ((seq a b).visit (s, t') k y).map (Prod.map id put') := by
  have visit (t : b.Seen) (x : Document) :
    (seq a b).visit (s, t) k x = (b.visit t k x).map (s, ·) := if_neg later
  rw [visit, visit, h]
  cases b.visit t' k y <;> rfl

theorem visit_frame_first (later : k ∉ a.names) :
    (seq a b).visit (put s, t) k x = ((seq a b).visit (s, t) k x).map (Prod.map put id) := by
  have visit (s : a.Seen) : (seq a b).visit (s, t) k x = (b.visit t k x).map (s, ·) := if_neg later
  rw [visit, visit]
  cases b.visit t k x <;> rfl

theorem visit_frame_second (first : k ∈ a.names) :
    (seq a b).visit (s, put' t) k x = ((seq a b).visit (s, t) k x).map (Prod.map id put') := by
  have visit (t : b.Seen) : (seq a b).visit (s, t) k x = (a.visit s k x).map (·, t) := if_pos first
  rw [visit, visit]
  cases a.visit s k x <;> rfl

theorem close_seq (s : a.Seen) (t : b.Seen) :
    (seq a b).close (s, t) = (a.close s).bind fun g => (b.close t).map g := by
  show ((a.close s).bind fun g => (b.close t).bind fun x => some (g x)) = _
  cases a.close s <;> cases b.close t <;> rfl

/-- Of two groups of fields the first one follows. -/
theorem Follows.first {f : β → β} (h : a.Follows key d d' fun g x => f (g x)) :
    (a <*> b).Follows key d d' f := by
  obtain ⟨put, known, here, apart, close⟩ := h
  show (seq a b).Follows key d d' f
  refine ⟨Prod.map put id, List.mem_append_left _ known, ?_, ?_, ?_⟩
  · rintro ⟨s, t⟩
    exact visit_first known (here s)
  · rintro k hk other ⟨s, t⟩ x
    by_cases first : k ∈ a.names
    · exact visit_first first (apart k first other s x)
    · exact visit_frame_first first
  · rintro ⟨s, t⟩
    show (seq a b).close (put s, t) = _
    rw [close_seq, close_seq, close]
    cases a.close s <;> cases b.close t <;> rfl

/-- Of two groups of fields the second one follows. -/
theorem Follows.second {f : α → α} {f' : β → β} (h : b.Follows key d d' f) (later : key ∉ a.names)
    (square : ∀ s g, a.close s = some g → ∀ x, g (f x) = f' (g x)) :
    (a <*> b).Follows key d d' f' := by
  obtain ⟨put, known, here, apart, close⟩ := h
  show (seq a b).Follows key d d' f'
  refine ⟨Prod.map id put, List.mem_append_right _ known, ?_, ?_, ?_⟩
  · rintro ⟨s, t⟩
    exact visit_second later (here t)
  · rintro k hk other ⟨s, t⟩ x
    by_cases first : k ∈ a.names
    · exact visit_frame_second first
    · exact visit_second first (apart k ((List.mem_append.1 hk).resolve_left first) other t x)
  · rintro ⟨s, t⟩
    show (seq a b).close (s, put t) = _
    rw [close_seq, close_seq, close]
    cases ha : a.close s with
    | none => rfl
    | some g =>
      cases b.close t with
      | none => rfl
      | some x => exact congrArg some (square s g ha x)

end Seq

end Build

/-! ## Objects -/

section Decode

variable {α : Type} {fields : Fields α} {key : String} {d d' : Document} {f : α → α}
  {put : fields.Seen → fields.Seen}

/-- Once the key is taken, the members that follow do not notice the difference. -/
theorem visitMembers_put (puts : Puts fields key d d' f put) (ending : Ending)
    {taken : List String} (seen : fields.Seen) (members : List (Option String × Document))
    (past : key ∈ taken) : fields.visitMembers ending taken (put seen) members =
      (fields.visitMembers ending taken seen members).map put := by
  induction members generalizing taken seen with
  | nil =>
    unfold visitMembers
    cases Decoder.finish ending <;> rfl
  | cons m rest ih =>
    obtain ⟨k | k, x⟩ := m
    · rfl
    · unfold visitMembers
      by_cases known : k ∈ fields.names
      · rw [if_pos known, if_pos known]
        by_cases again : k ∈ taken
        · rw [if_pos again, if_pos again]
          rfl
        · rw [if_neg again, if_neg again,
            puts.apart k known (fun same => again (same ▸ past)), inside_map]
          cases inside (.key k) (fields.visit seen k x) with
          | error path => rfl
          | ok seen => exact ih seen (List.mem_cons_of_mem k past)
      · rw [if_neg known, if_neg known]
        by_cases sound : x.sound = true
        · rw [if_pos sound, if_pos sound]
          exact ih seen past
        · rw [if_neg sound, if_neg sound]
          rfl

theorem visitMembers_here (puts : Puts fields key d d' f put) (ending : Ending)
    (taken : List String) (seen : fields.Seen) (before after : List (Option String × Document)) :
    fields.visitMembers ending taken seen (before ++ (some key, d) :: after) =
      (fields.visitMembers ending taken seen (before ++ (some key, d') :: after)).map put := by
  induction before generalizing taken seen with
  | nil =>
    rw [List.nil_append, List.nil_append]
    unfold visitMembers
    rw [if_pos puts.known, if_pos puts.known]
    by_cases again : key ∈ taken
    · rw [if_pos again, if_pos again]
      rfl
    · rw [if_neg again, if_neg again, puts.here, inside_map]
      cases inside (.key key) (fields.visit seen key d') with
      | error path => rfl
      | ok seen => exact visitMembers_put puts ending seen after List.mem_cons_self
  | cons m before ih =>
    obtain ⟨k | k, x⟩ := m
    · rfl
    · rw [List.cons_append, List.cons_append]
      unfold visitMembers
      by_cases known : k ∈ fields.names
      · rw [if_pos known, if_pos known]
        by_cases again : k ∈ taken
        · rw [if_pos again, if_pos again]
          rfl
        · rw [if_neg again, if_neg again]
          cases inside (.key k) (fields.visit seen k x) with
          | error path => rfl
          | ok seen => exact ih (k :: taken) seen
      · rw [if_neg known, if_neg known]
        by_cases sound : x.sound = true
        · rw [if_pos sound, if_pos sound]
          exact ih taken seen
        · rw [if_neg sound, if_neg sound]
          rfl

theorem decode_of_follows (follows : fields.Follows key d d' f) (ending : Ending)
    (before after : List (Option String × Document)) :
    fields.decode (.object (before ++ (some key, d) :: after) ending) =
      (fields.decode (.object (before ++ (some key, d') :: after) ending)).map f := by
  obtain ⟨put, puts⟩ := follows
  unfold decode
  dsimp only
  rw [visitMembers_here puts]
  cases fields.visitMembers ending [] fields.start (before ++ (some key, d') :: after) with
  | error path => rfl
  | ok seen =>
    dsimp only [Except.map]
    rw [puts.close]
    cases fields.close seen <;> rfl

end Decode

end HeatingHub.Json.Fields

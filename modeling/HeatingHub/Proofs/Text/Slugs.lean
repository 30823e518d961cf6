import HeatingHub.Text.Slug

/-!
# The form of slugs

A slug is made of the runs of letters and numbers of a name in lower case, with one `_` between two
of them. A slug is its own slug: its letters are lower-case forms, which lower case leaves as they
are, and its runs are those it was made of.
-/

namespace HeatingHub.Text

/-! ## Lower-case forms -/

namespace CaseRun

variable {r q : CaseRun} {n : Nat}

/-- The lower-case forms of the one run lie before or behind the letters of the other, or on the
places that the other leaves out. -/
def apart (r q : CaseRun) : Bool :=
  Nat.blt (r.last + r.shift).toNat q.first || Nat.blt q.last (r.first + r.shift).toNat ||
    (q.step == 2 && (r.step == 2 || r.first == r.last) && Nat.blt 0 (r.first + r.shift).toNat &&
      ((r.first + r.shift).toNat + q.first) % 2 == 1)

theorem covers_iff : r.covers n = true ↔ r.first ≤ n ∧ n ≤ r.last ∧ (n - r.first) % r.step = 0 := by
  simp [covers, and_assoc]

theorem not_covers_of_apart (apart : r.apart q = true) (covered : r.covers n = true) :
    q.covers (n + r.shift).toNat = false := by
  obtain ⟨first, last, even⟩ := covers_iff.1 covered
  rw [Bool.eq_false_iff, ne_eq, covers_iff]
  rintro ⟨first', last', even'⟩
  simp only [CaseRun.apart, Bool.or_eq_true, Bool.and_eq_true, Nat.blt_eq, beq_iff_eq] at apart
  rcases apart with (before | behind) | ⟨⟨⟨step', steps⟩, least⟩, odd⟩
  · omega
  · omega
  · rw [step'] at even'
    rcases steps with step | single
    · rw [step] at even
      omega
    · omega

end CaseRun

/-- No lower-case form is a letter of a run again. -/
theorem apart_caseRuns : (caseRuns.all fun r => caseRuns.all r.apart) = true := by decide +kernel

theorem apart_of_mem {r q : CaseRun} (hr : r ∈ caseRuns) (hq : q ∈ caseRuns) :
    r.apart q = true :=
  List.all_eq_true.1 (List.all_eq_true.1 apart_caseRuns r hr) q hq

theorem caseRuns_pos : ∀ r ∈ caseRuns, 0 < r.first ∧ r.apart ⟨0x130, 0x130, 1, 0⟩ = true := by
  decide +kernel

theorem lowerCase_eq_self {c : Char} (single : c ≠ 'İ')
    (uncovered : ∀ r ∈ caseRuns, r.covers c.toNat = false) : lowerCase c = [c] := by
  have none : caseRuns.find? (·.covers c.toNat) = none := by
    rw [List.find?_eq_none]
    intro r mem
    rw [uncovered r mem]
    exact Bool.false_ne_true
  rw [lowerCase, if_neg single, none]

/-- What lower case produces it leaves as it is. -/
theorem lowerCase_of_mem {c d : Char} (mem : d ∈ lowerCase c) : lowerCase d = [d] := by
  unfold lowerCase at mem
  split at mem
  case isTrue =>
    simp only [List.mem_cons, List.not_mem_nil, or_false] at mem
    rcases mem with rfl | rfl
    · decide +kernel
    · decide +kernel
  case isFalse single =>
    split at mem
    case h_1 r found =>
      have run := List.mem_of_find?_eq_some found
      have covered : r.covers c.toNat = true := by simpa using List.find?_some found
      rw [List.mem_singleton] at mem
      have code : d.toNat = (c.toNat + r.shift).toNat ∨ d.toNat = 0 := by
        rw [mem, Char.ofNat]
        by_cases valid : (c.toNat + r.shift).toNat.isValidChar
        · exact .inl (by rw [dif_pos valid]; rfl)
        · exact .inr (by rw [dif_neg valid]; rfl)
      refine lowerCase_eq_self ?_ fun q mem' => ?_
      · rintro rfl
        have other := CaseRun.not_covers_of_apart (caseRuns_pos r run).2 covered
        rcases code with code | code
        · rw [← code] at other
          exact absurd other (by decide)
        · exact absurd code (by decide)
      · rcases code with code | code
        · rw [code]
          exact CaseRun.not_covers_of_apart (apart_of_mem run mem') covered
        · have := (caseRuns_pos q mem').1
          rw [code, Bool.eq_false_iff, ne_eq, CaseRun.covers_iff]
          omega
    case h_2 none =>
      rw [List.mem_singleton] at mem
      exact mem ▸ lowerCase_eq_self single fun r run =>
        Bool.eq_false_iff.2 (List.find?_eq_none.1 none r run)

theorem lowerCaseAll_eq_self {s : List Char} (h : ∀ c ∈ s, lowerCase c = [c]) :
    lowerCaseAll s = s := by
  induction s with
  | nil => rfl
  | cons c s ih =>
    have := ih fun d mem => h d (List.mem_cons_of_mem c mem)
    rw [lowerCaseAll] at this ⊢
    rw [List.flatMap_cons, h c List.mem_cons_self, this, List.singleton_append]

/-! ## Runs -/

/-- The maximal runs of letters and numbers in a text: what is left between the other characters. -/
def runs (s : List Char) : List (List Char) :=
  (s.splitOnP fun c => !isAlphanumeric c).filter (!·.isEmpty)

example : runs "ab--9 ".toList = [['a', 'b'], ['9']] := by decide +kernel

section

variable {s : List Char} {c : Char}

theorem splitOnP_cons_of_other (h : isAlphanumeric c = false) (s : List Char) :
    (c :: s).splitOnP (fun c => !isAlphanumeric c) =
      [] :: s.splitOnP fun c => !isAlphanumeric c := by
  rw [List.splitOnP_cons_eq_if_modifyHead, h]
  rfl

theorem splitOnP_cons_of_alphanumeric (h : isAlphanumeric c = true) (s : List Char) :
    (c :: s).splitOnP (fun c => !isAlphanumeric c) =
      (s.splitOnP fun c => !isAlphanumeric c).modifyHead (c :: ·) := by
  rw [List.splitOnP_cons_eq_if_modifyHead, h]
  rfl

/-- Behind the first letter the pass goes on with the run it is in, or owes a separator for the
next one. -/
theorem squeeze_started (s : List Char) {first : List Char} {others : List (List Char)}
    (split : (s.splitOnP fun c => !isAlphanumeric c) = first :: others) :
    squeeze true false s = first ++ (others.filter (!·.isEmpty)).flatMap ('_' :: ·) ∧
      squeeze true true s = (runs s).flatMap ('_' :: ·) := by
  unfold runs
  induction s generalizing first others with
  | nil =>
    rw [List.splitOnP_nil] at split
    cases split
    exact ⟨rfl, rfl⟩
  | cons c s ih =>
    obtain ⟨next, later, split'⟩ := List.exists_cons_of_ne_nil
      (List.splitOnP_ne_nil (fun c => !isAlphanumeric c) s)
    obtain ⟨inside, between⟩ := ih split'
    cases h : isAlphanumeric c with
    | true =>
      rw [splitOnP_cons_of_alphanumeric h, split', List.modifyHead_cons] at split
      cases split
      rw [squeeze_cons_of_alphanumeric h, squeeze_cons_of_alphanumeric h, inside,
        splitOnP_cons_of_alphanumeric h, split', List.modifyHead_cons]
      exact ⟨rfl, by simp⟩
    | false =>
      rw [splitOnP_cons_of_other h] at split
      cases split
      rw [squeeze_cons_of_other h, squeeze_cons_of_other h, between, splitOnP_cons_of_other h]
      exact ⟨rfl, by simp⟩

theorem runs_cons_of_other (h : isAlphanumeric c = false) (s : List Char) :
    runs (c :: s) = runs s := by
  rw [runs, splitOnP_cons_of_other h]
  rfl

theorem intercalate_cons (r : List Char) (rs : List (List Char)) :
    ['_'].intercalate (r :: rs) = r ++ rs.flatMap ('_' :: ·) := by
  induction rs generalizing r with
  | nil => simp
  | cons next rs ih => simp [List.intercalate_cons_cons, ih]

/-- The pass joins the runs. -/
theorem squeeze_eq_intercalate (gap : Bool) (s : List Char) :
    squeeze false gap s = ['_'].intercalate (runs s) := by
  induction s generalizing gap with
  | nil => rfl
  | cons c s ih =>
    cases h : isAlphanumeric c with
    | true =>
      obtain ⟨first, others, split⟩ := List.exists_cons_of_ne_nil
        (List.splitOnP_ne_nil (fun c => !isAlphanumeric c) s)
      have run : runs (c :: s) = (c :: first) :: others.filter (!·.isEmpty) := by
        rw [runs, splitOnP_cons_of_alphanumeric h, split]
        rfl
      rw [squeeze_cons_of_alphanumeric h, (squeeze_started s split).1, run, intercalate_cons]
      rfl
    | false =>
      rw [squeeze_cons_of_other h, runs_cons_of_other h, ih]

/-! ## Texts of runs -/

theorem isAlphanumeric_of_mem_splitOnP {r : List Char}
    (mem : r ∈ s.splitOnP fun c => !isAlphanumeric c) : ∀ c ∈ r, isAlphanumeric c = true := by
  induction s generalizing r with
  | nil =>
    rw [List.splitOnP_nil, List.mem_singleton] at mem
    simp [mem]
  | cons c s ih =>
    cases h : isAlphanumeric c with
    | true =>
      obtain ⟨first, others, split⟩ := List.exists_cons_of_ne_nil
        (List.splitOnP_ne_nil (fun c => !isAlphanumeric c) s)
      rw [split] at ih
      rw [splitOnP_cons_of_alphanumeric h, split, List.modifyHead_cons, List.mem_cons] at mem
      rcases mem with rfl | mem
      · exact List.forall_mem_cons.2 ⟨h, ih List.mem_cons_self⟩
      · exact ih (List.mem_cons_of_mem _ mem)
    | false =>
      rw [splitOnP_cons_of_other h, List.mem_cons] at mem
      rcases mem with rfl | mem
      · simp
      · exact ih mem

/-- A run has a character, and only letters and numbers. -/
def IsRun (r : List Char) : Prop := r ≠ [] ∧ ∀ c ∈ r, isAlphanumeric c = true

theorem isRun_of_mem_runs {r : List Char} (mem : r ∈ runs s) : IsRun r := by
  rw [runs, List.mem_filter, Bool.not_eq_true', List.isEmpty_eq_false_iff] at mem
  exact ⟨mem.2, isAlphanumeric_of_mem_splitOnP mem.1⟩

theorem splitOnP_intercalate {rs : List (List Char)} (isRun : ∀ r ∈ rs, IsRun r) (ne : rs ≠ []) :
    (['_'].intercalate rs).splitOnP (fun c => !isAlphanumeric c) = rs := by
  induction rs with
  | nil => exact absurd rfl ne
  | cons r rs ih =>
    have inside : ∀ c ∈ r, (!isAlphanumeric c) = false := fun c mem => by
      rw [(isRun r List.mem_cons_self).2 c mem]
      rfl
    cases rs with
    | nil => rw [List.intercalate_singleton, List.splitOnP_eq_singleton inside]
    | cons next rs =>
      have rest := ih (fun r mem => isRun r (List.mem_cons_of_mem _ mem)) (List.cons_ne_nil _ _)
      rw [List.intercalate_cons_cons, List.append_assoc, List.singleton_append,
        List.splitOnP_append_cons_of_forall_mem inside '_' (by rw [isAlphanumeric_underscore]; rfl),
        rest]

theorem runs_intercalate {rs : List (List Char)} (isRun : ∀ r ∈ rs, IsRun r) :
    runs (['_'].intercalate rs) = rs := by
  by_cases h : rs = []
  · rw [h]
    rfl
  · rw [runs, splitOnP_intercalate isRun h, List.filter_eq_self]
    intro r mem
    simpa using (isRun r mem).1

/-- On both sides of a separator stands a run. -/
theorem nil_notMem_of_split {rs : List (List Char)} (isRun : ∀ r ∈ rs, IsRun r)
    {before after : List Char} (split : ['_'].intercalate rs = before ++ '_' :: after) :
    [] ∉ before.splitOnP (fun c => !isAlphanumeric c) ∧
      [] ∉ after.splitOnP (fun c => !isAlphanumeric c) := by
  have ne : rs ≠ [] := by
    rintro rfl
    simp at split
  have whole := splitOnP_intercalate isRun ne
  rw [split, List.splitOnP_append_cons _ _ (by rw [isAlphanumeric_underscore]; rfl)] at whole
  constructor
  · exact fun mem => (isRun [] (whole ▸ List.mem_append_left _ mem)).1 rfl
  · exact fun mem => (isRun [] (whole ▸ List.mem_append_right _ mem)).1 rfl

end

/-! ## Slugs -/

theorem toList_slug (s : String) :
    (slug s).toList = ['_'].intercalate (runs (lowerCaseAll s.toList)) := by
  rw [slug, String.toList_ofList, squeeze_eq_intercalate]

theorem mem_squeeze {started gap : Bool} {s : List Char} {c : Char}
    (mem : c ∈ squeeze started gap s) : c = '_' ∨ c ∈ s := by
  induction s generalizing started gap with
  | nil => cases mem
  | cons d s ih =>
    cases h : isAlphanumeric d with
    | true =>
      rw [squeeze_cons_of_alphanumeric h, List.mem_append, List.mem_cons] at mem
      rcases mem with mem | rfl | mem
      · left
        split at mem
        · exact List.mem_singleton.1 mem
        · cases mem
      · exact .inr List.mem_cons_self
      · exact (ih mem).imp_right (List.mem_cons_of_mem d)
    | false =>
      rw [squeeze_cons_of_other h] at mem
      exact (ih mem).imp_right (List.mem_cons_of_mem d)

theorem lowerCaseAll_slug (s : String) : lowerCaseAll (slug s).toList = (slug s).toList := by
  refine lowerCaseAll_eq_self fun c mem => ?_
  rw [slug, String.toList_ofList] at mem
  rcases mem_squeeze mem with rfl | mem
  · decide +kernel
  · obtain ⟨d, -, form⟩ := List.mem_flatMap.1 mem
    exact lowerCase_of_mem form

/-- The slug of a name is its runs of letters and numbers in lower case, with one `_` between two of
them, and nothing is left to do for a slug. -/
theorem slug_normal (s : String) :
    (slug s).toList = ['_'].intercalate (runs (lowerCaseAll s.toList)) ∧
      (¬['_'] <+: (slug s).toList ∧ ¬['_'] <:+ (slug s).toList ∧
        ¬['_', '_'] <:+: (slug s).toList) ∧
      slug (slug s) = slug s := by
  have isRun : ∀ r ∈ runs (lowerCaseAll s.toList), IsRun r := fun r => isRun_of_mem_runs
  refine ⟨toList_slug s, ⟨?_, ?_, ?_⟩, ?_⟩
  · rintro ⟨after, split⟩
    rw [toList_slug] at split
    have before : [] ∉ List.splitOnP (fun c => !isAlphanumeric c) [] :=
      (nil_notMem_of_split isRun split.symm).1
    simp at before
  · rintro ⟨before, split⟩
    rw [toList_slug] at split
    have after : [] ∉ List.splitOnP (fun c => !isAlphanumeric c) [] :=
      (nil_notMem_of_split isRun split.symm).2
    simp at after
  · rintro ⟨before, after, split⟩
    rw [toList_slug, List.append_assoc] at split
    have behind : [] ∉ ('_' :: after).splitOnP fun c => !isAlphanumeric c :=
      (nil_notMem_of_split isRun split.symm).2
    rw [splitOnP_cons_of_other isAlphanumeric_underscore] at behind
    exact behind List.mem_cons_self
  · rw [← String.toList_inj, toList_slug (slug s), lowerCaseAll_slug, toList_slug,
      runs_intercalate isRun]

end HeatingHub.Text

import HeatingHub.Environment
import Mathlib.Data.List.TakeWhile

/-!
# Loading adds what is missing

A file gives values to the names that have none, and to each of these the value of its first
assignment (`load_first_wins`). A malformed line ends the loading, but what the lines before it
assign stays.
-/

namespace HeatingHub

/-! ## Setting names -/

namespace Environment

theorem get?_append (env added : Environment) (name : String) :
    get? (env ++ added) name = (env.get? name).or (get? added name) := by
  unfold get?
  rw [List.find?_append, Option.map_or]

theorem setNew_of_isSome {env : Environment} {name : String} (h : (env.get? name).isSome)
    (value : String) : env.setNew name value = env := if_pos h

theorem setNew_of_none {env : Environment} {name : String} (h : env.get? name = none)
    (value : String) : env.setNew name value = env ++ [(name, value)] := by
  simp [setNew, h]

theorem get?_setNew (env : Environment) (set value name : String) :
    (env.setNew set value).get? name =
      (env.get? name).or (if set = name then some value else none) := by
  cases h : env.get? set with
  | none =>
    rw [setNew_of_none h, get?_append]
    by_cases same : set = name <;> simp [get?, same]
  | some old =>
    rw [setNew_of_isSome (by simp [h])]
    by_cases same : set = name
    · subst same
      simp [h]
    · simp [same]

/-- Sets names in order, as far as they have no value. -/
def setAllNew (env : Environment) (assignments : List (String × String)) : Environment :=
  assignments.foldl (fun env a => env.setNew a.1 a.2) env

theorem setAllNew_append (env : Environment) (first later : List (String × String)) :
    env.setAllNew (first ++ later) = (env.setAllNew first).setAllNew later := List.foldl_append

/-- A name without a value gets that of its first assignment. -/
theorem get?_setAllNew (env : Environment) (assignments : List (String × String)) (name : String) :
    (env.setAllNew assignments).get? name = (env.get? name).or (assignments.lookup name) := by
  induction assignments generalizing env with
  | nil => simp [setAllNew]
  | cons a rest ih =>
    show ((env.setNew a.1 a.2).setAllNew rest).get? name = _
    rw [ih, get?_setNew, Option.or_assoc, List.lookup_cons]
    by_cases same : a.1 = name
    · simp [same]
    · simp [same, beq_false_of_ne (Ne.symm same)]

/-- The names that are added stand behind those there were, and each of them once. -/
theorem exists_added (env : Environment) (assignments : List (String × String)) :
    ∃ added, env.setAllNew assignments = env ++ added ∧ (added.map (·.1)).Nodup ∧
      ∀ a ∈ added, env.get? a.1 = none := by
  induction assignments generalizing env with
  | nil => exact ⟨[], (List.append_nil env).symm, List.nodup_nil, nofun⟩
  | cons a rest ih =>
    cases h : env.get? a.1 with
    | some old =>
      have unchanged : env.setAllNew (a :: rest) = env.setAllNew rest :=
        congrArg (setAllNew · rest) (setNew_of_isSome (by simp [h]) a.2)
      rw [unchanged]
      exact ih env
    | none =>
      obtain ⟨added, behind, nodup, missing⟩ := ih (env ++ [a])
      have apart (b : String × String) (hb : b ∈ added) : env.get? b.1 = none ∧ b.1 ≠ a.1 := by
        have none := missing b hb
        rw [get?_append, Option.or_eq_none_iff] at none
        refine ⟨none.1, fun same => ?_⟩
        simp [get?, same] at none
      refine ⟨a :: added, ?_, ?_, ?_⟩
      · show (env.setNew a.1 a.2).setAllNew rest = _
        rw [setNew_of_none h, behind]
        exact List.append_assoc env [a] added
      · rw [List.map_cons, List.nodup_cons]
        refine ⟨fun again => ?_, nodup⟩
        obtain ⟨b, hb, same⟩ := List.mem_map.1 again
        exact (apart b hb).2 same
      · intro b hb
        rcases List.mem_cons.1 hb with rfl | hb
        · exact h
        · exact (apart b hb).1

end Environment

namespace EnvFile

/-! ## Lines -/

def isMalformed (line : List Char) : Bool :=
  match readLine line with
  | .ok _ => false
  | .error _ => true

/-- The assignment of a line, if it makes one. -/
def assignment? (line : List Char) : Option (String × String) :=
  match readLine line with
  | .ok a => a
  | .error _ => none

/-- The assignments of lines, in order. -/
def assignments (lines : List (List Char)) : List (String × String) := lines.filterMap assignment?

variable {path : String} {lines before : List (List Char)} {line : List Char} {e : LineError}

theorem exists_of_isMalformed (h : isMalformed line = true) : ∃ e, readLine line = .error e := by
  unfold isMalformed at h
  split at h
  case h_1 => cases h
  case h_2 e malformed => exact ⟨e, malformed⟩

theorem isMalformed_of_error (h : readLine line = .error e) : isMalformed line = true := by
  unfold isMalformed
  rw [h]

theorem loadLines_malformed (h : readLine line = .error e) (number : Nat) (env : Environment)
    (rest : List (List Char)) :
    loadLines path number env (line :: rest) = (.error (.line path number e), env) := by
  rw [loadLines, h]

theorem loadLines_cons (sound : isMalformed line = false) (number : Nat)
    (env : Environment) (rest : List (List Char)) :
    loadLines path number env (line :: rest) =
      loadLines path (number + 1) (env.setAllNew (assignment? line).toList) rest := by
  unfold isMalformed at sound
  unfold assignment?
  split at sound
  case h_1 a read =>
    rw [loadLines, read]
    cases a <;> rfl
  case h_2 => cases sound

/-- Lines that are not malformed are loaded in order, and the loading goes on behind them. -/
theorem loadLines_append (sound : ∀ line ∈ lines, isMalformed line = false) (number : Nat)
    (env : Environment) (rest : List (List Char)) :
    loadLines path number env (lines ++ rest) =
      loadLines path (number + lines.length) (env.setAllNew (assignments lines)) rest := by
  induction lines generalizing number env with
  | nil => rfl
  | cons line lines ih =>
    have split : assignments (line :: lines) = (assignment? line).toList ++ assignments lines := by
      cases h : assignment? line <;> simp [assignments, h]
    rw [List.cons_append, loadLines_cons (sound line List.mem_cons_self),
      ih fun l hl => sound l (List.mem_cons_of_mem line hl), split, Environment.setAllNew_append,
      List.length_cons, Nat.add_right_comm, Nat.add_assoc]

/-- The first line of those that are malformed, with what stands before it. -/
structure FirstMalformed (lines before : List (List Char)) (line : List Char) (e : LineError) :
    Prop where
  sound : ∀ l ∈ before, isMalformed l = false
  malformed : readLine line = .error e
  split : ∃ after, lines = before ++ line :: after

theorem loadLines_of_sound (sound : ∀ line ∈ lines, isMalformed line = false) (number : Nat)
    (env : Environment) :
    loadLines path number env lines = (.ok (), env.setAllNew (assignments lines)) := by
  have all := @loadLines_append path lines sound number env []
  rwa [List.append_nil] at all

theorem loadLines_of_firstMalformed (h : FirstMalformed lines before line e) (number : Nat)
    (env : Environment) :
    loadLines path number env lines =
      (.error (.line path (number + before.length) e), env.setAllNew (assignments before)) := by
  obtain ⟨after, rfl⟩ := h.split
  rw [loadLines_append h.sound, loadLines_malformed h.malformed]

theorem FirstMalformed.mem (h : FirstMalformed lines before line e) : line ∈ lines := by
  obtain ⟨after, rfl⟩ := h.split
  exact List.mem_append_right before List.mem_cons_self

theorem FirstMalformed.not_sound (h : FirstMalformed lines before line e) :
    ¬∀ line ∈ lines, isMalformed line = false := by
  intro sound
  exact Bool.false_ne_true ((sound line h.mem).symm.trans (isMalformed_of_error h.malformed))

theorem sound_or_firstMalformed (lines : List (List Char)) :
    (∀ line ∈ lines, isMalformed line = false) ∨
      ∃ line e, FirstMalformed lines (lines.takeWhile (!isMalformed ·)) line e := by
  have split : lines = lines.takeWhile (!isMalformed ·) ++ lines.dropWhile (!isMalformed ·) :=
    List.takeWhile_append_dropWhile.symm
  have sound (l : List Char) (hl : l ∈ lines.takeWhile (!isMalformed ·)) : isMalformed l = false := by
    simpa using List.mem_takeWhile_imp hl
  cases rest : lines.dropWhile (!isMalformed ·) with
  | nil =>
    rw [rest, List.append_nil] at split
    exact .inl fun line hl => sound line (split ▸ hl)
  | cons line after =>
    have malformed : isMalformed line = true := by
      have stopped := List.head?_dropWhile_not (!isMalformed ·) lines
      rw [rest] at stopped
      simpa using stopped
    obtain ⟨e, malformed⟩ := exists_of_isMalformed malformed
    exact .inr ⟨line, e, sound, malformed, after, rest ▸ split⟩

/-! ## Files -/

/-- What is loaded are the lines before the first malformed one, or all of them. A name keeps the
value that it had; another gets that of its first assignment in these lines, and no other name is
added. The loading fails exactly if a line is malformed, and tells the number of the first such
line. -/
theorem load_first_wins (path content refusal : String) (env : Environment) :
    let lines := Text.lines content.toList
    let result := load path (some content) env refusal
    (∀ name, result.2.get? name = (env.get? name).or
      ((assignments (lines.takeWhile (!isMalformed ·))).lookup name)) ∧
    (∃ added, result.2 = env ++ added ∧ (added.map (·.1)).Nodup ∧
      ∀ a ∈ added, env.get? a.1 = none) ∧
    (result.1 = .ok () ↔ ∀ line ∈ lines, isMalformed line = false) ∧
    ∀ error, result.1 = .error error ↔ ∃ before line e, FirstMalformed lines before line e ∧
      error = .line path (before.length + 1) e := by
  intro lines result
  have failed {before : List (List Char)} {line : List Char} {e : LineError}
      (h : FirstMalformed lines before line e) :
      result = (.error (.line path (before.length + 1) e), env.setAllNew (assignments before)) := by
    rw [Nat.add_comm]
    exact loadLines_of_firstMalformed h 1 env
  rcases sound_or_firstMalformed lines with sound | ⟨line, e, first⟩
  · have all : lines.takeWhile (!isMalformed ·) = lines :=
      List.takeWhile_eq_self_iff.2 fun l hl => by simp [sound l hl]
    have loaded : result = (.ok (), env.setAllNew (assignments lines)) :=
      loadLines_of_sound sound 1 env
    rw [all, loaded]
    refine ⟨Environment.get?_setAllNew env _, Environment.exists_added env _,
      iff_of_true rfl sound, fun error => iff_of_false nofun ?_⟩
    rintro ⟨before, line, e, first, -⟩
    exact first.not_sound sound
  · have loaded := failed first
    refine ⟨?_, ?_, ?_, fun error => ⟨fun h => ?_, ?_⟩⟩
    · rw [loaded]
      exact Environment.get?_setAllNew env _
    · rw [loaded]
      exact Environment.exists_added env _
    · rw [loaded]
      exact iff_of_false nofun first.not_sound
    · rw [loaded] at h
      cases h
      exact ⟨_, line, e, first, rfl⟩
    · rintro ⟨before, line, e, first, rfl⟩
      rw [failed first]

/-- The first of two values wins, unless there was one before, and the line without a sign of
equality is the end. -/
example : load "env" (some "A=1\nB=2\r\n\nA=3\nC\nD=4") [("B", "")] =
    (.error (.line "env" 5 .noEquals), [("B", ""), ("A", "1")]) := by
  decide +kernel

end EnvFile

end HeatingHub

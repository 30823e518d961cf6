import HeatingHub.Command
import HeatingHub.Proofs.Number.Digits
import HeatingHub.Proofs.Outcome

/-!
# The arguments of commands

What a word is read as depends on the kind of argument that is expected (`Parameter.Reads`). Each
kind has its own reader and its own message about a word that it refuses (`Parameter.complaint`).
-/

namespace HeatingHub

open Calendar (Date)

/-- What kind of argument is expected. -/
inductive Parameter where
  | entity
  | date
  | temperature
  | duration
  | quickMode
  | hvacMode

/-- The value of an argument. -/
inductive Argument where
  | entity (id : String)
  | date (date : Date)
  | temperature (target : Float)
  | duration (minutes : Nat)
  | quickMode (mode : QuickMode)
  | hvacMode (mode : HvacMode)

namespace Parameter

/-- Every word is an entity id. A temperature is finite, and a duration is at least a minute and has
32 bits. -/
inductive Reads : Parameter → String → Argument → Prop
  | entity (id : String) : Reads .entity id (.entity id)
  | date {word : String} {date : Date} (read : Date.read? word = some date) :
      Reads .date word (.date date)
  | temperature {word : String} {w : Number.Written}
      (written : Number.written? (Text.trim word.toList) = some w)
      (finite : w.value.isFinite = true) : Reads .temperature word (.temperature w.value)
  | duration {word : String} {minutes : Nat} (denotes : Number.Denotes word.toList minutes)
      (least : 1 ≤ minutes) (fits : minutes < 2 ^ 32) :
      Reads .duration word (.duration minutes)
  | quickMode {word : String} {mode : QuickMode} (read : QuickMode.read word = .ok mode) :
      Reads .quickMode word (.quickMode mode)
  | hvacMode {word : String} {mode : HvacMode} (read : HvacMode.read word = .ok mode) :
      Reads .hvacMode word (.hvacMode mode)

/-- The word can stand for an argument of the kind. -/
def Accepts (p : Parameter) (word : String) : Prop := ∃ a, p.Reads word a

/-- What is said about a word that cannot. An entity id is never refused. -/
def complaint : Parameter → String → String
  | entity, _ => ""
  | date, word => "date must be in YYYY-MM-DD format, got " ++ word
  | temperature, word => "invalid temperature: " ++ word
  | duration, word => "invalid duration: " ++ word
  | quickMode, word => "unknown quick mode: " ++ word
  | hvacMode, word => "unknown hvac mode: " ++ lowerName word

/-- Reads a word as an argument of the kind. -/
def read : Parameter → String → Except CommandError Argument
  | entity, word => .ok (.entity word)
  | date, word => (readDate word).map .date
  | temperature, word => (readTemperature word).map .temperature
  | duration, word => (readDuration word).map .duration
  | quickMode, word => (readMode QuickMode.read word).map .quickMode
  | hvacMode, word => (readMode HvacMode.read word).map .hvacMode

theorem read_date (word : String) : read .date word = (readDate word).map .date := by rw [read]

theorem read_temperature (word : String) :
    read .temperature word = (readTemperature word).map .temperature := by rw [read]

theorem read_duration (word : String) :
    read .duration word = (readDuration word).map .duration := by rw [read]

theorem read_quickMode (word : String) :
    read .quickMode word = (readMode QuickMode.read word).map .quickMode := by rw [read]

theorem read_hvacMode (word : String) :
    read .hvacMode word = (readMode HvacMode.read word).map .hvacMode := by rw [read]

end Parameter

/-! ## Reading a word -/

section

variable {word : String}

theorem readDate_eq_ok {date : Date} : readDate word = .ok date ↔ Date.read? word = some date := by
  unfold readDate
  cases Date.read? word <;> simp

theorem readTemperature_eq_ok {t : Float} :
    readTemperature word = .ok t ↔
      ∃ w, Number.written? (Text.trim word.toList) = some w ∧ w.value.isFinite = true ∧
        w.value = t := by
  have finite : readTemperature word = .ok t ↔ Number.finite? word = some t := by
    unfold readTemperature
    cases Number.finite? word <;> simp
  rw [finite, Number.finite?, Option.filter_eq_some_iff, Option.map_eq_some_iff]
  constructor
  · rintro ⟨⟨w, written, rfl⟩, isFinite⟩
    exact ⟨w, written, isFinite, rfl⟩
  · rintro ⟨w, written, isFinite, rfl⟩
    exact ⟨⟨w, written, rfl⟩, isFinite⟩

theorem readDuration_eq_ok {minutes : Nat} :
    readDuration word = .ok minutes ↔
      Number.unsigned? (Number.twoTo 32) word.toList = some minutes ∧ 1 ≤ minutes := by
  unfold readDuration
  rw [show 4294967296 = Number.twoTo 32 from rfl]
  cases Number.unsigned? (Number.twoTo 32) word.toList with
  | none => simp
  | some n => by_cases hn : 0 < n <;> simp [Option.filter_some, hn] <;> omega

theorem readMode_eq_ok {α : Type} {read : String → Except UnknownMode α} {mode : α} :
    readMode read word = .ok mode ↔ read word = .ok mode := by
  unfold readMode
  cases read word <;> simp

variable {e : CommandError}

theorem error_of_readDate (h : readDate word = .error e) : e = .badDate word := by
  unfold readDate at h
  split at h <;> cases h
  rfl

theorem error_of_readTemperature (h : readTemperature word = .error e) :
    e = .badTemperature word := by
  unfold readTemperature at h
  split at h <;> cases h
  rfl

theorem error_of_readDuration (h : readDuration word = .error e) : e = .badDuration word := by
  unfold readDuration at h
  split at h <;> cases h
  rfl

theorem error_of_readMode {α : Type} {read : String → Except UnknownMode α}
    (h : readMode read word = .error e) :
    ∃ unknown, read word = .error unknown ∧ e = .unknownMode unknown := by
  unfold readMode at h
  split at h
  case h_1 => cases h
  case h_2 unknown failed =>
    cases h
    exact ⟨unknown, failed, rfl⟩

theorem error_of_readQuickMode {unknown : UnknownMode}
    (h : QuickMode.read word = .error unknown) : unknown = .quick word := by
  unfold QuickMode.read at h
  split at h <;> cases h
  rfl

theorem error_of_readHvacMode {unknown : UnknownMode}
    (h : HvacMode.read word = .error unknown) : unknown = .hvac (lowerName word) := by
  unfold HvacMode.read at h
  split at h <;> cases h
  rfl

end

namespace Parameter

variable {p : Parameter} {word : String}

theorem read_eq_ok {a : Argument} : p.read word = .ok a ↔ p.Reads word a := by
  constructor
  · intro h
    cases p with
    | entity =>
      cases h
      exact .entity word
    | date =>
      rw [read_date] at h
      obtain ⟨date, read, rfl⟩ := map_eq_ok.1 h
      exact .date (readDate_eq_ok.1 read)
    | temperature =>
      rw [read_temperature] at h
      obtain ⟨t, read, rfl⟩ := map_eq_ok.1 h
      obtain ⟨w, written, finite, rfl⟩ := readTemperature_eq_ok.1 read
      exact .temperature written finite
    | duration =>
      rw [read_duration] at h
      obtain ⟨minutes, read, rfl⟩ := map_eq_ok.1 h
      obtain ⟨number, least⟩ := readDuration_eq_ok.1 read
      obtain ⟨denotes, fits⟩ := Number.unsigned?_eq_some_iff.1 number
      exact .duration denotes least fits
    | quickMode =>
      rw [read_quickMode] at h
      obtain ⟨mode, read, rfl⟩ := map_eq_ok.1 h
      exact .quickMode (readMode_eq_ok.1 read)
    | hvacMode =>
      rw [read_hvacMode] at h
      obtain ⟨mode, read, rfl⟩ := map_eq_ok.1 h
      exact .hvacMode (readMode_eq_ok.1 read)
  · intro h
    cases h with
    | entity => rfl
    | date read =>
      rw [read_date]
      exact map_eq_ok.2 ⟨_, readDate_eq_ok.2 read, rfl⟩
    | temperature written finite =>
      rw [read_temperature]
      exact map_eq_ok.2 ⟨_, readTemperature_eq_ok.2 ⟨_, written, finite, rfl⟩, rfl⟩
    | duration denotes least fits =>
      rw [read_duration]
      have number := Number.unsigned?_eq_some_iff.2 ⟨denotes, fits⟩
      exact map_eq_ok.2 ⟨_, readDuration_eq_ok.2 ⟨number, least⟩, rfl⟩
    | quickMode read =>
      rw [read_quickMode]
      exact map_eq_ok.2 ⟨_, readMode_eq_ok.2 read, rfl⟩
    | hvacMode read =>
      rw [read_hvacMode]
      exact map_eq_ok.2 ⟨_, readMode_eq_ok.2 read, rfl⟩

theorem reads_of_read {α : Type} {x : Except CommandError α} {g : α → Argument} {a : α}
    (same : p.read word = x.map g) (h : x = .ok a) : p.Reads word (g a) :=
  read_eq_ok.1 (same.trans (map_eq_ok.2 ⟨a, h, rfl⟩))

theorem Reads.unique {a b : Argument} (ha : p.Reads word a) (hb : p.Reads word b) : a = b :=
  Except.ok.inj ((read_eq_ok.2 ha).symm.trans (read_eq_ok.2 hb))

theorem accepts_iff : p.Accepts word ↔ ∃ a, p.read word = .ok a :=
  exists_congr fun _ => read_eq_ok.symm

/-- A word that is not read is named in the message. -/
theorem message_of_read {e : CommandError} (h : p.read word = .error e) :
    e.message = p.complaint word := by
  cases p with
  | entity => cases h
  | date =>
    rw [read_date, map_eq_error] at h
    rw [error_of_readDate h]
    rfl
  | temperature =>
    rw [read_temperature, map_eq_error] at h
    rw [error_of_readTemperature h]
    rfl
  | duration =>
    rw [read_duration, map_eq_error] at h
    rw [error_of_readDuration h]
    rfl
  | quickMode =>
    rw [read_quickMode, map_eq_error] at h
    obtain ⟨unknown, failed, rfl⟩ := error_of_readMode h
    rw [error_of_readQuickMode failed]
    rfl
  | hvacMode =>
    rw [read_hvacMode, map_eq_error] at h
    obtain ⟨unknown, failed, rfl⟩ := error_of_readMode h
    rw [error_of_readHvacMode failed]
    rfl

end Parameter

end HeatingHub

import HeatingHub.Config
import HeatingHub.Proofs.Number.Digits
import HeatingHub.Proofs.Outcome

/-!
# Which values make up a configuration

A configuration is read unless one of the conditions of `faults` holds of the values, and then the
error is that of the first one. What is read are the values given, and the defaults where none are.
-/

namespace HeatingHub.Config

open Number (Denotes twoTo)

/-! ## Values given -/

section

variable {lookup : String → Option String} {key : String}

/-- The key has a value that is not blank, and this is it without the blanks around it. -/
def Gives (lookup : String → Option String) (key value : String) : Prop :=
  ∃ raw, lookup key = some raw ∧ Text.trimmed raw = value ∧ value ≠ ""

theorem present?_eq_some {value : String} :
    present? lookup key = some value ↔ Gives lookup key value := by
  unfold present? Gives
  rw [Option.filter_eq_some_iff, Option.map_eq_some_iff, ← exists_and_right]
  simp [and_assoc]

theorem present?_eq_none : present? lookup key = none ↔ ∀ value, ¬Gives lookup key value := by
  simp only [Option.eq_none_iff_forall_ne_some, ne_eq, present?_eq_some]

theorem Gives.unique {value value' : String} (h : Gives lookup key value)
    (h' : Gives lookup key value') : value = value' :=
  Option.some.inj ((present?_eq_some.2 h).symm.trans (present?_eq_some.2 h'))

/-- What is read from the value given, or the default if none is. -/
inductive Chosen {α : Type} (lookup : String → Option String) (key : String)
    (reads : String → α → Prop) (default : α) : α → Prop
  | given {value : String} {a : α} (gives : Gives lookup key value) (read : reads value a) :
      Chosen lookup key reads default a
  | absent (none : ∀ value, ¬Gives lookup key value) : Chosen lookup key reads default default

theorem Chosen.unique {α : Type} {reads : String → α → Prop} {default a b : α}
    (ha : Chosen lookup key reads default a)
    (functional : ∀ {value a b}, reads value a → reads value b → a = b)
    (hb : Chosen lookup key reads default b) : a = b := by
  cases ha with
  | given gives read =>
    cases hb with
    | given gives' read' =>
      cases gives.unique gives'
      exact functional read read'
    | absent none => exact absurd gives (none _)
  | absent none =>
    cases hb with
    | given gives _ => exact absurd gives (none _)
    | absent _ => rfl

theorem chosen_getD (key default : String) :
    Chosen lookup key (fun value text => text = value) default
      ((present? lookup key).getD default) := by
  cases h : present? lookup key with
  | none => exact .absent (present?_eq_none.1 h)
  | some value => exact .given (present?_eq_some.1 h) rfl

theorem chosen_present? (key : String) :
    Chosen lookup key (fun value text => text = some value) none (present? lookup key) := by
  cases h : present? lookup key with
  | none => exact .absent (present?_eq_none.1 h)
  | some value => exact .given (present?_eq_some.1 h) rfl

/-- The value is a number of so many bits. -/
def ReadsBits (bits : Nat) (value : String) (n : Nat) : Prop :=
  Denotes value.toList n ∧ n < 2 ^ bits

/-! ## Faults -/

def LacksUsername (lookup : String → Option String) (e : Error) : Prop :=
  (∀ value, ¬Gives lookup usernameKey value) ∧ e = .missing usernameKey

/-- A password is taken as it is, blanks included. -/
def LacksPassword (lookup : String → Option String) (e : Error) : Prop :=
  (∀ raw, lookup passwordKey = some raw → raw = "") ∧ e = .missing passwordKey

def NotNumber (lookup : String → Option String) (key : String) (bits : Nat) (e : Error) : Prop :=
  ∃ value, Gives lookup key value ∧ (∀ n, ¬ReadsBits bits value n) ∧ e = .notNumber key value

def IsZero (lookup : String → Option String) (key : String) (e : Error) : Prop :=
  ∃ value, Gives lookup key value ∧ Denotes value.toList 0 ∧ e = .zero key

/-- What can be wrong with the values, in the order in which it is noticed. -/
def faults (lookup : String → Option String) : List (Error → Prop) :=
  [LacksUsername lookup, LacksPassword lookup, NotNumber lookup scanKey 64, IsZero lookup scanKey,
    NotNumber lookup vetoKey 32, IsZero lookup vetoKey, NotNumber lookup timeoutKey 64]

/-! ## Steps of the reading -/

theorem required_eq_ok {value : Option String} {s : String} :
    required key value = .ok s ↔ value = some s := by
  cases value <;> simp [required]

theorem required_eq_error {value : Option String} {e : Error} :
    required key value = .error e ↔ value = none ∧ e = .missing key := by
  cases value <;> simp [required, eq_comm]

theorem username_eq_error {e : Error} :
    required usernameKey (present? lookup usernameKey) = .error e ↔ LacksUsername lookup e := by
  rw [required_eq_error, present?_eq_none, LacksUsername]

theorem password_eq_ok {s : String} :
    required passwordKey ((lookup passwordKey).filter (!·.isEmpty)) = .ok s ↔
      lookup passwordKey = some s ∧ s ≠ "" := by
  rw [required_eq_ok, Option.filter_eq_some_iff]
  simp

theorem password_eq_error {e : Error} :
    required passwordKey ((lookup passwordKey).filter (!·.isEmpty)) = .error e ↔
      LacksPassword lookup e := by
  rw [required_eq_error, LacksPassword, Option.filter_eq_none_iff]
  simp

section

variable {bits default n : Nat}

theorem number_of_absent (limit default : Nat) (none : ∀ value, ¬Gives lookup key value) :
    number lookup key limit default = .ok default := by
  rw [number, present?_eq_none.2 none]

theorem number_of_reads {value : String} (gives : Gives lookup key value)
    (read : ReadsBits bits value n) : number lookup key (twoTo bits) default = .ok n := by
  have fits : Number.unsigned? (twoTo bits) value.toList = some n :=
    Number.unsigned?_eq_some_iff.2 read
  simp only [number, present?_eq_some.2 gives, fits]

theorem number_of_not_reads {value : String} (gives : Gives lookup key value)
    (unread : ∀ n, ¬ReadsBits bits value n) :
    number lookup key (twoTo bits) default = .error (.notNumber key value) := by
  have none : Number.unsigned? (twoTo bits) value.toList = none := by
    rw [Option.eq_none_iff_forall_ne_some]
    exact fun n read => unread n (Number.unsigned?_eq_some_iff.1 read)
  simp only [number, present?_eq_some.2 gives, none]

theorem number_cases (lookup : String → Option String) (key : String) (bits default : Nat) :
    (∃ n, number lookup key (twoTo bits) default = .ok n ∧
      Chosen lookup key (ReadsBits bits) default n) ∨
    ∃ e, number lookup key (twoTo bits) default = .error e ∧ NotNumber lookup key bits e := by
  by_cases given : ∃ value, Gives lookup key value
  · obtain ⟨value, gives⟩ := given
    by_cases fits : ∃ n, ReadsBits bits value n
    · obtain ⟨n, read⟩ := fits
      exact .inl ⟨n, number_of_reads gives read, .given gives read⟩
    · have unread := not_exists.1 fits
      exact .inr ⟨_, number_of_not_reads gives unread, value, gives, unread, rfl⟩
  · have none := not_exists.1 given
    exact .inl ⟨default, number_of_absent _ _ none, .absent none⟩

theorem number_eq_ok : number lookup key (twoTo bits) default = .ok n ↔
    Chosen lookup key (ReadsBits bits) default n := by
  constructor
  · intro h
    rcases number_cases lookup key bits default with ⟨m, read, chosen⟩ | ⟨e, failed, -⟩
    · cases read.symm.trans h
      exact chosen
    · cases failed.symm.trans h
  · rintro (⟨gives, read⟩ | none)
    · exact number_of_reads gives read
    · exact number_of_absent _ _ none

theorem number_eq_error {e : Error} :
    number lookup key (twoTo bits) default = .error e ↔ NotNumber lookup key bits e := by
  constructor
  · intro h
    rcases number_cases lookup key bits default with ⟨m, read, -⟩ | ⟨e', failed, bad⟩
    · cases read.symm.trans h
    · cases failed.symm.trans h
      exact bad
  · rintro ⟨value, gives, unread, rfl⟩
    exact number_of_not_reads gives unread

end

theorem positive_eq_ok {n m : Nat} : positive key n = .ok m ↔ n = m ∧ 1 ≤ m := by
  unfold positive
  split
  · simp
    omega
  · simp
    omega

theorem positive_eq_error {n : Nat} {e : Error} :
    positive key n = .error e ↔ n = 0 ∧ e = .zero key := by
  unfold positive
  split
  case isTrue h => simp [h, eq_comm]
  case isFalse h => simp [h]

/-- A default is positive, so a zero was given. -/
theorem zero_eq_error {bits default n : Nat} (pos : default ≠ 0)
    (chosen : Chosen lookup key (ReadsBits bits) default n) {e : Error} :
    positive key n = .error e ↔ IsZero lookup key e := by
  rw [positive_eq_error]
  constructor
  · rintro ⟨rfl, rfl⟩
    cases chosen with
    | given gives read => exact ⟨_, gives, read.1, rfl⟩
    | absent none => exact absurd rfl pos
  · rintro ⟨value, gives, zero, rfl⟩
    cases chosen with
    | given gives' read =>
      cases gives.unique gives'
      exact ⟨read.1.unique zero, rfl⟩
    | absent none => exact absurd gives (none value)

end

/-! ## The configuration -/

/-- The configuration has the values given, and the defaults where none are. -/
structure Describes (lookup : String → Option String) (deviceId : String) (c : Config) : Prop where
  username : Gives lookup usernameKey c.username
  password : lookup passwordKey = some c.password ∧ c.password ≠ ""
  deviceId : Chosen lookup deviceIdKey (fun value id => id = value) deviceId c.deviceId
  serial : Chosen lookup serialKey (fun value serial => serial = some value) none c.serial
  scanSeconds : Chosen lookup scanKey (ReadsBits 64) 60 c.scanSeconds ∧ 1 ≤ c.scanSeconds
  vetoMinutes : Chosen lookup vetoKey (ReadsBits 32) 180 c.vetoMinutes ∧ 1 ≤ c.vetoMinutes
  timeoutSeconds : Chosen lookup timeoutKey (ReadsBits 64) 30 c.timeoutSeconds

variable {lookup : String → Option String} {deviceId : String}

theorem read_failsBy (lookup : String → Option String) (deviceId : String) :
    FailsBy (read lookup deviceId) (faults lookup) := by
  refine .bind (fun _ => username_eq_error) fun _ _ => ?_
  refine .bind (fun _ => password_eq_error) fun _ _ => ?_
  refine .bind (fun _ => number_eq_error) fun _ scan => ?_
  refine .bind (fun _ => zero_eq_error (by decide) (number_eq_ok.1 scan)) fun _ _ => ?_
  refine .bind (fun _ => number_eq_error) fun _ veto => ?_
  refine .bind (fun _ => zero_eq_error (by decide) (number_eq_ok.1 veto)) fun _ _ => ?_
  exact .bind (fun _ => number_eq_error) fun _ _ => failsBy_ok _

theorem Describes.unique {c d : Config} (hc : Describes lookup deviceId c)
    (hd : Describes lookup deviceId d) : c = d := by
  have bits {b n m : Nat} {value : String} (hn : ReadsBits b value n) (hm : ReadsBits b value m) :
      n = m := hn.1.unique hm.1
  cases c
  cases d
  congr
  · exact hc.username.unique hd.username
  · exact Option.some.inj (hc.password.1.symm.trans hd.password.1)
  · exact hc.deviceId.unique (fun ha hb => ha.trans hb.symm) hd.deviceId
  · exact hc.serial.unique (fun ha hb => ha.trans hb.symm) hd.serial
  · exact hc.scanSeconds.1.unique bits hd.scanSeconds.1
  · exact hc.vetoMinutes.1.unique bits hd.vetoMinutes.1
  · exact hc.timeoutSeconds.unique bits hd.timeoutSeconds

theorem describes_of_read {c : Config} (h : read lookup deviceId = .ok c) :
    Describes lookup deviceId c := by
  obtain ⟨username, hu, h⟩ := bind_eq_ok.1 h
  obtain ⟨password, hp, h⟩ := bind_eq_ok.1 h
  obtain ⟨scan, hs, h⟩ := bind_eq_ok.1 h
  obtain ⟨scan', hs', h⟩ := bind_eq_ok.1 h
  obtain ⟨veto, hv, h⟩ := bind_eq_ok.1 h
  obtain ⟨veto', hv', h⟩ := bind_eq_ok.1 h
  obtain ⟨timeout, ht, h⟩ := bind_eq_ok.1 h
  cases h
  obtain ⟨rfl, leastScan⟩ := positive_eq_ok.1 hs'
  obtain ⟨rfl, leastVeto⟩ := positive_eq_ok.1 hv'
  exact {
    username := present?_eq_some.1 (required_eq_ok.1 hu)
    password := password_eq_ok.1 hp
    deviceId := chosen_getD deviceIdKey deviceId
    serial := chosen_present? serialKey
    scanSeconds := ⟨number_eq_ok.1 hs, leastScan⟩
    vetoMinutes := ⟨number_eq_ok.1 hv, leastVeto⟩
    timeoutSeconds := number_eq_ok.1 ht }

/-- Reading fails exactly if something is wrong with the values, with the first of the faults; and
otherwise the configuration is the one that the values describe. -/
theorem validation_exact (lookup : String → Option String) (deviceId : String) :
    ((∃ e, read lookup deviceId = .error e) ↔ ∃ fault ∈ faults lookup, ∃ e, fault e) ∧
      (∀ e, read lookup deviceId = .error e ↔ FirstOf (faults lookup) e) ∧
      ∀ c, read lookup deviceId = .ok c ↔
        (∀ fault ∈ faults lookup, ∀ e, ¬fault e) ∧ Describes lookup deviceId c := by
  have first := read_failsBy lookup deviceId
  have fails : (∃ e, read lookup deviceId = .error e) ↔ ∃ fault ∈ faults lookup, ∃ e, fault e :=
    (exists_congr first).trans exists_firstOf_iff
  refine ⟨fails, first, fun c => ⟨fun h => ⟨?_, describes_of_read h⟩, ?_⟩⟩
  · intro fault mem e holds
    obtain ⟨e', failed⟩ := fails.2 ⟨fault, mem, e, holds⟩
    cases h.symm.trans failed
  · rintro ⟨sound, described⟩
    cases h : read lookup deviceId with
    | error e =>
      obtain ⟨fault, mem, e', holds⟩ := fails.1 ⟨e, h⟩
      exact absurd holds (sound fault mem e')
    | ok d => rw [(describes_of_read h).unique described]

end HeatingHub.Config

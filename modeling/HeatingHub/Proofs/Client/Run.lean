import HeatingHub.Proofs.Client.Transcript

/-!
# Runs of clients

A run is a login and the uses of the session after it. Every use but a logout begins with the
facility, and what holds of each client in a run is kept by three kinds of exchange: finding the
facility, calling it, and logging out (`Kept`).
-/

namespace HeatingHub

open Exchange
open Json (Decoder Document)

/-! ## Requests to the facility -/

/-- The request to the facility. -/
def Ask.toFacility (a : Ask) (serial : String) : Ask :=
  { a with path := facilitiesPath ++ "/" ++ serial ++ a.path }

/-- The request for the facilities of the account. -/
def facilitiesAsk : Ask := ⟨.get, facilitiesPath, none⟩

def logoutAsk : Ask := ⟨.post, logoutPath, none⟩

/-- The requests that a session makes of its facility, their paths below that of the facility. -/
inductive OfFacility : Ask → Prop
  | call (c : Call) : OfFacility c.ask
  | update : OfFacility ⟨.put, "/hvacstate/v1/hvacMessages/update", none⟩
  | control : OfFacility ⟨.get, "/systemcontrol/v1", none⟩
  | rooms : OfFacility ⟨.get, "/rbr/v1/rooms", none⟩
  | liveReport : OfFacility ⟨.get, "/livereport/v1", none⟩
  | hvacStates : OfFacility ⟨.get, "/hvacstate/v1/overview", none⟩

/-- The request is for the account, not for a facility. -/
def Ask.OfAccount (a : Ask) : Prop :=
  a.path = tokenPath ∨ a.path = authenticatePath ∨ a.path = logoutPath

/-- The request is to some facility. -/
def Ask.IsToFacility (a : Ask) : Prop := ∃ rest, a.path = facilitiesPath ++ "/" ++ rest

namespace Ask

variable {a : Ask} {serial : String}

theorem isToFacility_toFacility : (a.toFacility serial).IsToFacility :=
  ⟨serial ++ a.path, by unfold toFacility; simp only [String.append_assoc]⟩

theorem IsToFacility.path_ne (h : a.IsToFacility) : a.path ≠ facilitiesPath := by
  obtain ⟨rest, path⟩ := h
  rw [path]
  intro same
  have lengths := congrArg String.length same
  simp only [String.length_append] at lengths
  have one : "/".length = 1 := by decide
  omega

/-- The paths of the account differ from all others in their first letter. -/
theorem OfAccount.not_facilities (h : a.OfAccount) (rest : String) :
    a.path ≠ facilitiesPath ++ rest := by
  intro same
  have letters := congrArg (fun path => path.toList.take 2) same
  rw [String.toList_append] at letters
  rcases h with path | path | path <;> rw [path] at letters <;> revert letters <;>
    simp [tokenPath, authenticatePath, logoutPath, facilitiesPath]

theorem not_ofAccount_facilitiesAsk : ¬ facilitiesAsk.OfAccount :=
  fun account => account.not_facilities "" rfl

theorem IsToFacility.not_ofAccount (h : a.IsToFacility) : ¬ a.OfAccount := by
  obtain ⟨rest, path⟩ := h
  intro account
  rw [String.append_assoc] at path
  exact account.not_facilities _ path

end Ask

/-! ## Properties kept by exchanges -/

/-- Whatever the exchange comes to, the property holds after it if it held before. -/
def Exchange.Keeps {α : Type} (P : Client → Prop) (x : Exchange α) : Prop :=
  ∀ c, P c → P (x c).2

namespace Exchange

variable {α β : Type} {P : Client → Prop}

theorem keeps_pure (a : α) : Keeps P (pure a : Exchange α) := fun _ h => h

theorem keeps_throw (e : ApiError) : Keeps P (throw e : Exchange α) := fun _ h => h

theorem Keeps.bind {x : Exchange α} {f : α → Exchange β} (first : Keeps P x)
    (rest : ∀ a, Keeps P (f a)) : Keeps P (x >>= f) := by
  intro c h
  have mid := first c h
  rw [bind_apply]
  cases done : x c with
  | mk result next =>
    rw [done] at mid
    cases result with
    | ok a => exact rest a next mid
    | error e => exact mid

theorem keeps_decode (asked : String) (decoder : Decoder α) (text : String) :
    Keeps P (decode asked decoder text) := by
  intro c h
  rcases decode_apply asked decoder text c with ⟨x, -, decoded⟩ | ⟨e, -, decoded⟩ <;> rw [decoded] <;>
    exact h

end Exchange

/-! ## Finding the facility -/

/-- The first of the facilities that the text lists. -/
def listedFacility? (text : String) : Option String :=
  (Wire.envelope Wire.facilitiesFields.decode (Document.read text)).toOption.bind
    fun facilities => facilities.head?.map Wire.Facility.serial

namespace Exchange

variable {P : Client → Prop} {c next : Client} {script : Script} {facility : String}

/-- Takes the first of the facilities that the text lists. -/
def resolve (text : String) : Exchange String := do
  match ← decode facilitiesPath (Wire.envelope Wire.facilitiesFields.decode) text with
  | [] => throw (.payload "account has no facility")
  | facility :: _ =>
    modify fun c => { c with serial := some facility.serial }
    return facility.serial

theorem resolve_cases (text : String) (c : Client) :
    (∃ facility, listedFacility? text = some facility ∧
        resolve text c = (.ok facility, { c with serial := some facility })) ∨
      (listedFacility? text = none ∧ ∃ e, resolve text c = (.error e, c)) := by
  unfold resolve listedFacility?
  rcases decode_apply facilitiesPath (Wire.envelope Wire.facilitiesFields.decode) text c with
    ⟨facilities, read, decoded⟩ | ⟨part, read, decoded⟩
  · rw [bind_ok decoded, read]
    cases facilities with
    | nil => exact .inr ⟨rfl, _, rfl⟩
    | cons facility _ => exact .inl ⟨facility.serial, rfl, rfl⟩
  · rw [bind_error decoded, read]
    exact .inr ⟨rfl, _, rfl⟩

theorem serial_of_known (known : c.serial = some facility) : serial c = (.ok facility, c) := by
  have here : (get : Exchange Client) c = (.ok c, c) := rfl
  unfold serial
  rw [bind_ok here, known]
  rfl

theorem serial_of_unknown (unknown : c.serial = none) :
    serial c = (call facilitiesAsk >>= resolve) c := by
  have here : (get : Exchange Client) c = (.ok c, c) := rfl
  unfold serial
  rw [bind_ok here, unknown]
  rfl

/-- A facility that was found is known from then on. -/
theorem serial_of_serial_ok (found : serial c = (.ok facility, next)) :
    next.serial = some facility := by
  cases known : c.serial with
  | some serial =>
    rw [serial_of_known known] at found
    cases found
    exact known
  | none =>
    rw [serial_of_unknown known, bind_apply] at found
    cases called : call facilitiesAsk c with
    | mk result mid =>
      rw [called] at found
      cases result with
      | error e => cases found
      | ok text =>
        rcases resolve_cases text mid with ⟨serial, -, resolved⟩ | ⟨-, e, resolved⟩
        · rw [show resolve text mid = (.ok facility, next) from found] at resolved
          cases resolved
          rfl
        · rw [show resolve text mid = (.ok facility, next) from found] at resolved
          cases resolved

/-- The facility is found by a call, if it is not known, in the first place of what is listed. -/
theorem serial_cases (follows : c.Follows script) (unknown : c.serial = none) :
    ∃ turns mid body, c.Took script turns mid ∧
      Called c.credentials facilitiesAsk c.loggedIn turns body mid.loggedIn ∧ mid.serial = none ∧
      ((∃ facility, body.bind listedFacility? = some facility ∧
          serial c = (.ok facility, { mid with serial := some facility })) ∨
        (body.bind listedFacility? = none ∧ ∃ e, serial c = (.error e, mid))) := by
  obtain ⟨turns, mid, result, done, took, same, called⟩ := call_cases follows facilitiesAsk
  refine ⟨turns, mid, result.toOption, took, called, same.trans unknown, ?_⟩
  rw [serial_of_unknown unknown]
  cases result with
  | error e => exact .inr ⟨rfl, e, bind_error done resolve⟩
  | ok text =>
    rw [bind_ok done]
    exact resolve_cases text mid

/-- What is kept in finding the facility, whatever facility it is. -/
theorem keeps_serial (call : Keeps P (call facilitiesAsk))
    (found : ∀ c facility, P c → P { c with serial := some facility }) : Keeps P serial := by
  intro c h
  cases known : c.serial with
  | some facility =>
    rw [serial_of_known known]
    exact h
  | none =>
    rw [serial_of_unknown known]
    refine call.bind (fun text mid h => ?_) c h
    rcases resolve_cases text mid with ⟨facility, -, resolved⟩ | ⟨-, e, resolved⟩ <;> rw [resolved]
    · exact found mid facility h
    · exact h

end Exchange

/-! ## Logging out -/

/-- A logout that is answered in any way ends the login. -/
theorem Exchange.logout_cases (c : Client) :
    (c.script.next.1.IsMissing ∧ (logout c).2 = c.asked logoutAsk) ∨
      (logout c).2 = { c.asked logoutAsk with loggedIn := false } := by
  have sent := send_apply logoutAsk c
  cases answer : c.script.next.1 with
  | failure text =>
    rw [answer] at sent
    exact .inl ⟨⟨text, rfl⟩, congrArg Prod.snd (bind_error sent _)⟩
  | reply status text =>
    rw [answer] at sent
    refine .inr ((congrArg Prod.snd (bind_ok sent _)).trans ?_)
    show ((check (status, text) >>= fun _ => pure ()) { c.asked logoutAsk with loggedIn := false }).2 = _
    rcases checks_check status text with ⟨-, body⟩ | ⟨-, e, error⟩
    · rw [body]
      rfl
    · rw [error]
      rfl

/-! ## Uses of a session -/

/-- A use of a session. -/
inductive Use where
  | perform (c : Call)
  | requestUpdate
  | fetch
  | logout

/-- What a use of the session comes to, but for what it fetches. -/
def Use.on {σ : Type} (session : Session σ) (s : σ) : Use → Except ApiError Unit × σ
  | perform c => session.perform c s
  | requestUpdate => session.requestUpdate s
  | fetch => ((session.fetch s).1.map fun _ => (), (session.fetch s).2)
  | logout => session.logout s

namespace Client

/-- The client after a use. -/
def use (c : Client) (u : Use) : Client := (u.on clientSession c).2

/-- A client logs in, and is used if that succeeds. -/
def run (credentials : Credentials) (serial : Option String) (script : Script) (uses : List Use) :
    Client :=
  match login (new credentials serial script) with
  | (.ok (), c) => uses.foldl use c
  | (.error _, c) => c

end Client

/-- Kept by the exchanges that all uses are made of. -/
structure Kept (P : Client → Prop) : Prop where
  serial : Keeps P serial
  call {c : Client} {a : Ask} {facility : String} (h : P c) (known : c.serial = some facility)
    (asked : OfFacility a) : P (call (a.toFacility facility) c).2
  logout : Keeps P logout

namespace Kept

variable {P : Client → Prop} {c : Client}

theorem facilityCall (kept : Kept P) {a : Ask} (asked : OfFacility a) :
    Keeps P (facilityCall a.method a.path a.body) := by
  intro c h
  unfold Exchange.facilityCall
  have mid := kept.serial c h
  rw [bind_apply]
  cases found : Exchange.serial c with
  | mk result next =>
    rw [found] at mid
    cases result with
    | error e => exact mid
    | ok facility => exact kept.call mid (serial_of_serial_ok found) asked

theorem read (kept : Kept P) {α : Type} {path : String} (asked : OfFacility ⟨.get, path, none⟩)
    (decoder : Decoder α) : Keeps P (read path decoder) :=
  (kept.facilityCall asked).bind fun text => keeps_decode _ _ text

theorem fetch (kept : Kept P) : Keeps P Exchange.fetch :=
  (kept.read .control _).bind fun control =>
  (kept.read .rooms _).bind fun rooms =>
  (kept.read .liveReport _).bind fun liveReport =>
  (kept.read .hvacStates _).bind fun hvacStates => by
    cases Wire.assemble ⟨control, rooms, liveReport, hvacStates⟩ with
    | ok i => exact keeps_pure i
    | error e => exact keeps_throw _

theorem use (kept : Kept P) (h : P c) (u : Use) : P (c.use u) := by
  cases u with
  | perform call =>
    exact (kept.facilityCall (.call call)).bind (fun _ => keeps_pure ()) c h
  | requestUpdate => exact (kept.facilityCall .update).bind (fun _ => keeps_pure ()) c h
  | fetch => exact kept.fetch c h
  | logout => exact kept.logout c h

theorem uses (kept : Kept P) (uses : List Use) : ∀ c, P c → P (uses.foldl Client.use c) := by
  induction uses with
  | nil => exact fun _ h => h
  | cons u uses ih => exact fun c h => ih (c.use u) (kept.use h u)

/-- What holds once the login has ended, and is kept by all that comes after, holds in the end. -/
theorem run (kept : Kept P) {credentials : Credentials} {serial : Option String} {script : Script}
    (started : P (login (.new credentials serial script)).2) (uses : List Use) :
    P (Client.run credentials serial script uses) := by
  unfold Client.run
  cases done : login (.new credentials serial script) with
  | mk result c =>
    rw [done] at started
    cases result with
    | ok _ => exact kept.uses uses c started
    | error e => exact started

end Kept

/-! ## Uses that begin with the facility -/

/-- The facility is found first, and all else comes after. -/
def Exchange.BeginsWithFacility {α : Type} (x : Exchange α) : Prop := ∃ rest, x = serial >>= rest

namespace Exchange.BeginsWithFacility

variable {α β : Type} {x : Exchange α} {c next : Client}

theorem bind (begins : BeginsWithFacility x) (f : α → Exchange β) :
    BeginsWithFacility (x >>= f) := by
  obtain ⟨rest, rfl⟩ := begins
  exact ⟨fun facility => rest facility >>= f, bind_assoc ..⟩

theorem facilityCall (method : Method) (path : String) (body : Option Json.Value) :
    BeginsWithFacility (facilityCall method path body) :=
  ⟨_, rfl⟩

theorem fetch : BeginsWithFacility fetch :=
  (((facilityCall .get "/systemcontrol/v1" none).bind _).bind _)

theorem of_found {facility : String} (begins : BeginsWithFacility x)
    (found : serial c = (.ok facility, next)) : x c = x next := by
  obtain ⟨rest, rfl⟩ := begins
  rw [bind_ok found, bind_ok (serial_of_known (serial_of_serial_ok found))]

theorem of_not_found {e : ApiError} (begins : BeginsWithFacility x)
    (failed : serial c = (.error e, next)) : x c = (.error e, next) := by
  obtain ⟨rest, rfl⟩ := begins
  exact bind_error failed rest

end Exchange.BeginsWithFacility

theorem Use.beginsWithFacility {u : Use} (h : u ≠ .logout) :
    BeginsWithFacility fun c => u.on clientSession c := by
  cases u with
  | perform call => exact (BeginsWithFacility.facilityCall ..).bind _
  | requestUpdate => exact (BeginsWithFacility.facilityCall ..).bind _
  | fetch =>
    have same : (fun c => Use.fetch.on clientSession c) =
        (Exchange.fetch >>= fun _ => pure () : Exchange Unit) := by
      funext c
      rw [bind_apply]
      show ((Exchange.fetch c).1.map fun _ => (), (Exchange.fetch c).2) = _
      cases Exchange.fetch c with
      | mk result next => cases result <;> rfl
    rw [same]
    exact BeginsWithFacility.fetch.bind _
  | logout => exact absurd rfl h

/-! ## Turns of a run -/

/-- Whatever a client does, it takes turns. -/
theorem kept_took (script : Script) (c : Client) :
    Kept fun next => ∃ turns, c.Took script turns next := by
  have call (a : Ask) : Keeps (fun next => ∃ turns, c.Took script turns next) (call a) := by
    rintro mid ⟨turns, took⟩
    obtain ⟨more, next, result, done, rest, -⟩ := call_cases took.follows a
    rw [done]
    exact ⟨turns ++ more, took.trans rest⟩
  refine ⟨keeps_serial (call _) ?_, fun h _ _ => call _ _ h, ?_⟩
  · rintro mid facility ⟨turns, took⟩
    exact ⟨turns, took.setSerial _⟩
  · rintro mid ⟨turns, took⟩
    have rest := took.trans (took.follows.took_asked logoutAsk)
    rcases logout_cases mid with ⟨-, state⟩ | state <;> rw [state]
    · exact ⟨_, rest⟩
    · exact ⟨_, rest.setLoggedIn false⟩

end HeatingHub

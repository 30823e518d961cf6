import HeatingHub.Proofs.Client.Run
import HeatingHub.Proofs.Hub.Admissible
import HeatingHub.Proofs.Json.Rereading
import HeatingHub.Proofs.Wire.Overrides

/-!
# Overrides sent and served back

The API tells the override that was set in the words in which it was set: what a client sends for a
holiday or a quick mode can stand in the payload that it fetches. The installation then has the
override of the call, whatever else the payload says (`overrides_echo`). Only the temperature of a
holiday comes back as what its digits are read as. That is the temperature itself if the digits are
those of a number below `2 ^ 53`.
-/

namespace HeatingHub

open Json (Decoder Document Value rereadMembers FiniteMembers)

/-! ## Payloads with a gap -/

namespace Json

theorem rereadMembers_append (l l' : List (String × Value)) :
    rereadMembers (l ++ l') = rereadMembers l ++ rereadMembers l' := by
  induction l with
  | nil => rfl
  | cons m l ih =>
    rw [List.cons_append, rereadMembers, ih]
    rfl

theorem finiteMembers_append {l l' : List (String × Value)} (h : FiniteMembers l)
    (h' : FiniteMembers l') : FiniteMembers (l ++ l') := by
  induction l with
  | nil => exact h'
  | cons m l ih => exact ⟨h.1, ih h.2⟩

end Json

/-- The other members of an object, before and after one. -/
structure Others where
  before : List (String × Value)
  after : List (String × Value)

namespace Others

def object (o : Others) (key : String) (v : Value) : Value :=
  .object (o.before ++ (key, v) :: o.after)

/-- Every number in the members can be written. -/
structure Finite (o : Others) : Prop where
  before : FiniteMembers o.before
  after : FiniteMembers o.after

theorem Finite.object {o : Others} (h : o.Finite) (key : String) {v : Value} (hv : v.Finite) :
    (o.object key v).Finite := Json.finiteMembers_append h.before ⟨hv, h.after⟩

theorem reread_object (o : Others) (key : String) (v : Value) : (o.object key v).reread =
    .object (rereadMembers o.before ++ (some key, v.reread) :: rereadMembers o.after) .closed := by
  show Document.object (rereadMembers (o.before ++ (key, v) :: o.after)) .closed = _
  rw [Json.rereadMembers_append]
  rfl

end Others

/-- All of a control payload but one override. -/
structure ControlFrame where
  answer : Others
  payload : Others
  configuration : Others

namespace ControlFrame

/-- The payload with the value under the key of an override. -/
def value (s : ControlFrame) (key : String) (v : Value) : Value :=
  s.answer.object "body" (s.payload.object "configuration" (s.configuration.object key v))

/-- The text of the payload. -/
def text (s : ControlFrame) (key : String) (v : Value) : String := (s.value key v).render

structure Finite (s : ControlFrame) : Prop where
  answer : s.answer.Finite
  payload : s.payload.Finite
  configuration : s.configuration.Finite

variable {s : ControlFrame} {key : String} {v : Value}

theorem read_text (h : s.Finite) (hv : v.Finite) :
    Document.read (s.text key v) = (s.value key v).reread :=
  Document.read_render (h.answer.object _ (h.payload.object _ (h.configuration.object _ hv)))

/-- The payload with another override is read as the payload with other overrides. -/
theorem decode_overriding {f : Wire.Overrides → Wire.Overrides} (h : s.Finite) (hv : v.Finite)
    (follows : Wire.Overrides.fields.Follows key v.reread .null f) :
    Wire.envelope Wire.Control.fields.decode (Document.read (s.text key v)) =
      (Wire.envelope Wire.Control.fields.decode (Document.read (s.text key .null))).map
        (Wire.Control.overriding f) := by
  have outer := Wire.follows_overrides follows (rereadMembers s.configuration.before)
    (rereadMembers s.configuration.after) .closed
  have blank : Value.null.Finite := trivial
  rw [read_text h hv, read_text h blank]
  unfold value Wire.envelope
  simp only [Others.reread_object]
  exact Json.Fields.decode_of_follows
    (Wire.follows_envelope (Json.Fields.decode_of_follows outer _ _ _)) _ _ _

/-- The payload with `null` in the place of the quick mode has none. -/
theorem overriding_null {p : Wire.Payloads} (h : s.Finite)
    (blank : Wire.envelope Wire.Control.fields.decode (Document.read (s.text "quickmode" .null)) =
      .ok p.control) : p.overriding (fun o => { o with quickMode := none }) = p := by
  have part : Decoder.option Wire.QuickModePart.fields.decode (Value.reread .null) = .ok none := rfl
  have finite : Value.null.Finite := trivial
  have again := decode_overriding h finite (Wire.follows_quickMode part)
  rw [blank] at again
  have same := Except.ok.inj again
  unfold Wire.Payloads.overriding
  rw [← same]

end ControlFrame

/-! ## Fetching -/

/-- The client that is going to be answered with the text. -/
def Client.awaiting (c : Client) (text : String) : Client :=
  { c with script := { c.script with answers := .reply 200 text :: c.script.answers } }

namespace Exchange

variable {c : Client} {facility : String}

theorem call_awaiting (a : Ask) (loggedIn : c.loggedIn = true) (text : String) :
    call a (c.awaiting text) = (.ok text, { c with sent := c.sent ++ [a] }) := by
  have known : ¬ (c.awaiting text).script.next.1.IsUnauthorized := by
    rintro ⟨text, same⟩
    cases same
  have sent : send a (c.awaiting text) = (.ok (200, text), { c with sent := c.sent ++ [a] }) :=
    send_apply a _
  rw [call_eq]
  refine (if_pos loggedIn).trans ?_
  rw [attempt_of_not_unauthorized a known]
  exact bind_ok sent check

theorem read_awaiting {α : Type} (path : String) (decoder : Decoder α)
    (loggedIn : c.loggedIn = true) (known : c.serial = some facility) (text : String) :
    read path decoder (c.awaiting text) =
      (readBody c.script.wording path (Wire.envelope decoder) text, { c with
        sent := c.sent ++ [⟨.get, facilitiesPath ++ "/" ++ facility ++ path, none⟩] }) := by
  have located : serial (c.awaiting text) = (.ok facility, c.awaiting text) := serial_of_known known
  have called : facilityCall .get path none (c.awaiting text) = (.ok text, _) :=
    (bind_ok located _).trans (call_awaiting _ loggedIn text)
  refine (bind_ok called _).trans ?_
  unfold decode
  cases Wire.envelope decoder (Document.read text) <;> rfl

theorem map_apply {α β : Type} (f : α → β) (x : Exchange α) (c : Client) :
    (f <$> x) c = ((x c).1.map f, (x c).2) := by
  rw [map_eq_pure_bind, bind_apply]
  rcases x c with ⟨e | a, next⟩ <;> rfl

/-- What is fetched after the payload of the overrides. -/
def fetchRest (control : Wire.Control) : Exchange Installation := do
  let rooms ← read "/rbr/v1/rooms" Wire.roomsFields.decode
  let liveReport ← read "/livereport/v1" Wire.liveReportFields.decode
  let hvacStates ← read "/hvacstate/v1/overview" Wire.decodeHvacStates
  match Wire.assemble ⟨control, rooms, liveReport, hvacStates⟩ with
  | .ok i => return i
  | .error e => throw (.payload e.message)

theorem fetch_eq : fetch = read "/systemcontrol/v1" Wire.Control.fields.decode >>= fetchRest := rfl

/-- An installation that is assembled as another one but for a change. -/
theorem fetchRest_of_assemble {control control' : Wire.Control} {g : Installation → Installation}
    (h : ∀ rooms liveReport hvacStates, Wire.assemble ⟨control, rooms, liveReport, hvacStates⟩ =
      (Wire.assemble ⟨control', rooms, liveReport, hvacStates⟩).map g) :
    fetchRest control = g <$> fetchRest control' := by
  unfold fetchRest
  simp only [map_bind]
  congr 1
  funext rooms
  congr 1
  funext liveReport
  congr 1
  funext hvacStates
  rw [h]
  cases Wire.assemble ⟨control', rooms, liveReport, hvacStates⟩ <;> rfl

/-- The error without the words about the part at fault. -/
def ApiError.wordless : ApiError → ApiError
  | .json misfit => .json { misfit with complaint := "" }
  | e => e

/-- The same outcome, but for the words about a part at fault. -/
def Alike {α : Type} (x y : Except ApiError α × Client) : Prop :=
  x.1.mapError ApiError.wordless = y.1.mapError ApiError.wordless ∧ x.2 = y.2

theorem Alike.of_eq {α : Type} {x y : Except ApiError α × Client} (h : x = y) : Alike x y := by
  subst h
  exact ⟨rfl, rfl⟩

theorem Alike.ok {α : Type} {x y : Except ApiError α × Client} {a : α} (alike : Alike x y)
    (h : y.1 = .ok a) : x.1 = .ok a := by
  have same := alike.1
  rw [h] at same
  cases done : x.1 with
  | ok b =>
    rw [done] at same
    exact congrArg _ (Except.ok.inj same)
  | error e =>
    rw [done] at same
    cases same

theorem fetch_overriding {s : ControlFrame} {key : String} {v : Value}
    {f : Wire.Overrides → Wire.Overrides} {g : Installation → Installation}
    (loggedIn : c.loggedIn = true) (known : c.serial = some facility) (hs : s.Finite)
    (hv : v.Finite) (follows : Wire.Overrides.fields.Follows key v.reread .null f)
    (assembles : ∀ p : Wire.Payloads, Wire.envelope Wire.Control.fields.decode
        (Document.read (s.text key .null)) = .ok p.control →
      Wire.assemble (p.overriding f) = (Wire.assemble p).map g) :
    Alike (fetch (c.awaiting (s.text key v))) ((g <$> fetch) (c.awaiting (s.text key .null))) := by
  have decoded := ControlFrame.decode_overriding hs hv follows
  rw [fetch_eq, map_bind, bind_apply, bind_apply, read_awaiting _ _ loggedIn known,
    read_awaiting _ _ loggedIn known]
  unfold readBody
  rw [decoded]
  cases blank : Wire.envelope Wire.Control.fields.decode (Document.read (s.text key .null)) with
  | error part => exact ⟨rfl, rfl⟩
  | ok control =>
    have rest : fetchRest (control.overriding f) = g <$> fetchRest control :=
      fetchRest_of_assemble fun rooms liveReport hvacStates =>
        assembles ⟨control, rooms, liveReport, hvacStates⟩ blank
    exact .of_eq (congrFun rest _)

end Exchange

/-! ## Temperatures -/

namespace Number

open Float.Model

theorem exponent_le_of_compare {m m' : Nat} {e e' : Int} {pos : 0 < m} {pos' : 0 < m'}
    (h : ((UnpackedFloat.finite .positive m e pos).compare (.finite .positive m' e' pos')).any
      (·.isLE) = true) : e ≤ e' := by
  change ((compare e e').then (compare m m')).isLE = true at h
  by_contra more
  rw [compare_gt_iff_gt.2 (not_le.1 more)] at h
  cases h

theorem double_of_heatingRange {t : Float} (h : heatingRange.contains t = true) :
    ∃ m, Double.of t = .finite false m ∧ 2 ^ 52 ≤ m.mantissa ∧ -50 ≤ m.exponent ∧
      m.exponent ≤ -48 := by
  obtain ⟨low, high, -⟩ := between_of_heatingRange h
  rw [le_iff_compare] at low high
  have five : (5 : Float).toModel.unpack = .finite .positive (5 * 2 ^ 50) (-50) (by decide) := rfl
  have thirty : (30 : Float).toModel.unpack = .finite .positive (30 * 2 ^ 48) (-48) (by decide) :=
    rfl
  rw [five] at low
  rw [thirty] at high
  cases unpacked : t.toModel.unpack with
  | notANumber => rw [unpacked] at low; cases low
  | zero sign => rw [unpacked] at low; cases low
  | infinity sign =>
    rw [unpacked] at low high
    cases sign with
    | positive => cases high
    | negative => cases low
  | finite sign m e pos =>
    rw [unpacked] at low high
    cases sign with
    | negative => cases low
    | positive =>
      have least := exponent_le_of_compare low
      have most := exponent_le_of_compare high
      obtain ⟨normal, l, double⟩ := double_of_unpack unpacked (by omega)
      exact ⟨_, double, normal, least, most⟩

end Number

/-- A temperature of the range is written and read back as some temperature. -/
theorem reread_of_heatingRange {t : Float} (h : heatingRange.contains t = true) :
    ∃ t', (Json.Number.real t).reread = some (.real t') ∧ ∀ m,
      Number.Double.of t = .finite false m → m.shortest.coefficient < 2 ^ 53 → t' = t := by
  obtain ⟨m, double, normal, least, most⟩ := Number.double_of_heatingRange h
  obtain ⟨numeral, t', proper, text, number, same⟩ :=
    Json.literal_read_back double normal least most
  refine ⟨t', ?_, fun m' double' short => same ?_⟩
  · have read : Json.Numeral.read? (numeral.spelling ++ []) = _ :=
      Json.Numeral.read?_spelling proper nofun
    rw [List.append_nil, ← text] at read
    show (Json.Numeral.read? (Number.literal t).toList).bind _ = _
    rw [read]
    exact number
  · rw [double] at double'
    obtain ⟨-, rfl⟩ := Number.Double.finite.inj double'
    exact short

/-! ## Overrides -/

namespace Call

/-- What is sent for a holiday is read as a holiday. -/
theorem reread_setHoliday (start finish : Calendar.Date) {t t' : Float}
    (range : heatingRange.contains t = true)
    (reread : (Json.Number.real t).reread = some (.real t')) :
    ∃ body, (setHoliday start finish t).ask.body = some body ∧ body.Finite ∧
      body.reread = Wire.holidayDocument start finish t' := by
  have finite := (between_of_heatingRange range).finite
  have written : Value.ofFloat t = .number (.real t) := if_pos finite
  refine ⟨.object [("active", .bool true), ("end_date", .text finish.text),
    ("start_date", .text start.text), ("temperature_setpoint", .number (.real t))], ?_, ?_, ?_⟩
  · rw [← written]
    rfl
  · exact ⟨trivial, trivial, trivial, finite, trivial⟩
  · show Document.object [_, _, _, (_, .number (Json.Number.real t).reread)] .closed = _
    rw [reread]
    rfl

theorem reread_setQuickMode (q : QuickMode) :
    ∃ body, (setQuickMode q).ask.body = some (.object [("quickmode", body)]) ∧ body.Finite ∧
      body.reread = Wire.quickModeDocument q := by
  have zero : (Json.Number.int 0).reread = some (.int 0) := by decide +kernel
  refine ⟨_, rfl, ⟨trivial, trivial, trivial⟩, ?_⟩
  show Document.object [(_, .number (Json.Number.int 0).reread), _] .closed = _
  rw [zero]
  rfl

end Call

/-! ## What is fetched -/

/-- A payload that says nothing but one override. -/
def ControlFrame.bare : ControlFrame := ⟨⟨[], []⟩, ⟨[], []⟩, ⟨[], []⟩⟩

theorem ControlFrame.finite_bare : bare.Finite :=
  ⟨⟨trivial, trivial⟩, ⟨trivial, trivial⟩, ⟨trivial, trivial⟩⟩

/-- A client whose facility has no rooms and reports nothing. -/
def Client.ofEmptyFacility : Client where
  credentials := ⟨"user", "secret", "device"⟩
  loggedIn := true
  serial := some "1"
  script := ⟨[.reply 200 "\x7b\"body\":\x7b\x7d\x7d", .reply 200 "\x7b\"body\":\x7b\x7d\x7d",
    .reply 200 "\x7b\"body\":[]\x7d"], .failure "no answer"⟩
  sent := []

/-- The value under the key of an override comes back as a change of the installation. -/
structure Echoes (key : String) (v : Value) (change : Installation → Installation) : Prop where
  /-- Whatever else the answers say, it is fetched what is fetched with `null` there, but changed;
  or else the same part is at fault. -/
  fetched : ∀ (c : Client) (s : ControlFrame), c.loggedIn = true → c.serial.isSome → s.Finite →
    Exchange.Alike (Exchange.fetch (c.awaiting (s.text key v)))
      ((change <$> Exchange.fetch) (c.awaiting (s.text key .null)))
  /-- Where the answers say nothing else, an installation is fetched. -/
  alone : (Exchange.fetch (Client.ofEmptyFacility.awaiting (ControlFrame.bare.text key v))).1 =
    .ok (change .empty)

theorem Echoes.of_follows {key : String} {v : Value} {f : Wire.Overrides → Wire.Overrides}
    {change : Installation → Installation} (hv : v.Finite)
    (follows : Wire.Overrides.fields.Follows key v.reread .null f)
    (blank : (Exchange.fetch (Client.ofEmptyFacility.awaiting
      (ControlFrame.bare.text key .null))).1 = .ok .empty)
    (assembles : ∀ (s : ControlFrame) (p : Wire.Payloads), s.Finite →
      Wire.envelope Wire.Control.fields.decode (Document.read (s.text key .null)) = .ok p.control →
      Wire.assemble (p.overriding f) = (Wire.assemble p).map change) : Echoes key v change := by
  have fetched (c : Client) (s : ControlFrame) (loggedIn : c.loggedIn = true)
      (known : c.serial.isSome) (hs : s.Finite) :
      Exchange.Alike (Exchange.fetch (c.awaiting (s.text key v)))
        ((change <$> Exchange.fetch) (c.awaiting (s.text key .null))) := by
    obtain ⟨facility, known⟩ := Option.isSome_iff_exists.1 known
    exact Exchange.fetch_overriding loggedIn known hs hv follows fun p => assembles s p hs
  refine ⟨fetched, (fetched _ _ rfl rfl ControlFrame.finite_bare).ok ?_⟩
  rw [Exchange.map_apply, blank]
  rfl

/-- An override that is set comes back as it was set: of a quick mode and of the days of a holiday
that holds exactly. The temperature of a holiday comes back as `t'`, which is what its digits are
read as. -/
theorem overrides_echo :
    (∀ (start finish : Calendar.Date) (t : Float), start.inRange = true → finish.inRange = true →
      heatingRange.contains t = true →
      ∃ body t', (Call.setHoliday start finish t).ask.body = some body ∧
        (Json.Number.real t).reread = some (.real t') ∧
        (∀ m, Number.Double.of t = .finite false m → m.shortest.coefficient < 2 ^ 53 → t' = t) ∧
        Echoes "holidaymode" body fun i =>
          { i with holiday := some (.between start finish t') }) ∧
    ∀ q : QuickMode, ∃ body,
      (Call.setQuickMode q).ask.body = some (.object [("quickmode", body)]) ∧
        Echoes "quickmode" body fun i => { i with quickMode := some q } := by
  constructor
  · intro start finish t hstart hfinish range
    obtain ⟨t', reread, same⟩ := reread_of_heatingRange range
    obtain ⟨body, sent, finite, document⟩ := Call.reread_setHoliday start finish range reread
    have part : Decoder.option Wire.HolidayPart.fields.decode body.reread =
        .ok (some ⟨true, some start, some finish, some t'⟩) := by
      rw [document]
      exact congrArg (Except.map some) (Wire.decode_holiday hstart hfinish t')
    refine ⟨body, t', sent, reread, same, ?_⟩
    exact .of_follows finite (Wire.follows_holiday part) (by decide +kernel)
      fun _ p _ _ => Wire.assemble_holiday p _
  · intro q
    obtain ⟨body, sent, finite, document⟩ := Call.reread_setQuickMode q
    have part : Decoder.option Wire.QuickModePart.fields.decode body.reread =
        .ok (some ⟨q.wireName, some 0⟩) := by
      rw [document]
      exact congrArg (Except.map some) (Wire.decode_quickMode q)
    refine ⟨body, sent, .of_follows finite (Wire.follows_quickMode part) (by decide +kernel) ?_⟩
    intro s p hs blank
    have assembled := Wire.assemble_quickMode p (Wire.quickMode_wireName q)
    rwa [ControlFrame.overriding_null hs blank] at assembled

/-- What is fetched after a holiday from 15 January 2024 through 25 January was set. -/
def echoedHoliday (t : Float) : Option Installation :=
  (Call.setHoliday ⟨738899⟩ ⟨738909⟩ t).ask.body.bind fun body => (Exchange.fetch
    (Client.ofEmptyFacility.awaiting (ControlFrame.bare.text "holidaymode" body))).1.toOption

theorem echoedHoliday_short : echoedHoliday 21.5 =
    some { Installation.empty with holiday := some (.between ⟨738899⟩ ⟨738909⟩ 21.5) } := by
  have double : Number.Double.of 21.5 = .finite false ⟨6051711999279104, -48, false⟩ := by
    decide +kernel
  obtain ⟨body, t', sent, -, same, echoes⟩ := overrides_echo.1 ⟨738899⟩ ⟨738909⟩ 21.5
    (by decide +kernel) (by decide +kernel) (by decide +kernel)
  obtain rfl := same _ double (by decide +kernel)
  unfold echoedHoliday
  rw [sent, Option.bind_some, echoes.alone]
  rfl

/-- The digits of this temperature, taken for a number, lie between two doubles, and the colder one
is taken. -/
theorem echoedHoliday_long : heatingRange.contains 12.222222222222221 = true ∧
    echoedHoliday 12.222222222222221 = some { Installation.empty with
      holiday := some (.between ⟨738899⟩ ⟨738909⟩ 12.22222222222222) } ∧
    echoedHoliday 12.222222222222221 ≠ some { Installation.empty with
      holiday := some (.between ⟨738899⟩ ⟨738909⟩ 12.222222222222221) } := by
  decide +kernel

end HeatingHub

import HeatingHub.Proofs.Calendar.DateText
import HeatingHub.Proofs.Client.Facility
import Mathlib.Data.List.Infix

/-!
# Calls told by their requests

The request of a call tells which call it is. The path is a frame with the name of a component
inside. The name may be any text, but no two frames that go with one method both begin alike and
end alike. The body tells what else the call was given.
-/

namespace HeatingHub

open Exchange
open Json (Value)

/-! ## Methods and paths -/

/-- What a call does, whatever it is given. -/
inductive Call.Shape where
  | hotWaterMode
  | hotWaterTarget
  | roomMode
  | roomTarget
  | roomVeto
  | roomVetoRemoval
  | zoneMode
  | zoneVeto
  | zoneVetoRemoval
  | quickMode
  | quickModeRemoval
  | holiday
  | holidayRemoval
deriving DecidableEq

namespace Call.Shape

def all : List Shape :=
  [hotWaterMode, hotWaterTarget, roomMode, roomTarget, roomVeto, roomVetoRemoval, zoneMode, zoneVeto,
    zoneVetoRemoval, quickMode, quickModeRemoval, holiday, holidayRemoval]

theorem mem_all (s : Shape) : s ∈ all := by
  cases s <;> decide

def method : Shape → Method
  | roomVetoRemoval | zoneVetoRemoval | quickModeRemoval | holidayRemoval => .delete
  | _ => .put

/-- What stands in the path before the name of the component. -/
def before : Shape → String
  | hotWaterMode | hotWaterTarget => "/systemcontrol/v1/dhw/"
  | roomMode | roomTarget | roomVeto | roomVetoRemoval => "/rbr/v1/rooms/"
  | zoneMode | zoneVeto | zoneVetoRemoval => "/systemcontrol/v1/zones/"
  | quickMode | quickModeRemoval => quickModePath
  | holiday | holidayRemoval => holidayPath

/-- What stands in the path behind the name of the component. -/
def behind : Shape → String
  | hotWaterMode => "/hotwater/configuration" ++ "/operation_mode"
  | hotWaterTarget => "/hotwater/configuration" ++ "/temperature_setpoint"
  | roomMode => "/configuration" ++ "/operationMode"
  | roomTarget => "/configuration" ++ "/temperatureSetpoint"
  | roomVeto | roomVetoRemoval => "/configuration" ++ "/quickVeto"
  | zoneMode => "/heating/configuration/mode"
  | zoneVeto | zoneVetoRemoval => "/configuration/quick_veto"
  | quickMode | quickModeRemoval | holiday | holidayRemoval => ""

/-- Shapes that have the same method are the same, if their paths can begin alike and end alike. -/
theorem eq_of_comparable {s t : Shape} (method : s.method = t.method)
    (front : s.before.toList <+: t.before.toList ∨ t.before.toList <+: s.before.toList)
    (back : s.behind.toList <:+ t.behind.toList ∨ t.behind.toList <:+ s.behind.toList) : s = t := by
  have table : ∀ s ∈ all, ∀ t ∈ all, s.method = t.method →
      (s.before.toList <+: t.before.toList ∨ t.before.toList <+: s.before.toList) →
      (s.behind.toList <:+ t.behind.toList ∨ t.behind.toList <:+ s.behind.toList) → s = t := by
    decide +kernel
  exact table s (mem_all s) t (mem_all t) method front back

end Call.Shape

namespace Call

def shape : Call → Shape
  | setHotWaterMode .. => .hotWaterMode
  | setHotWaterTarget .. => .hotWaterTarget
  | setRoomMode .. => .roomMode
  | setRoomTarget .. => .roomTarget
  | setRoomVeto .. => .roomVeto
  | removeRoomVeto _ => .roomVetoRemoval
  | setZoneMode .. => .zoneMode
  | setZoneVeto .. => .zoneVeto
  | removeZoneVeto _ => .zoneVetoRemoval
  | setQuickMode _ => .quickMode
  | removeQuickMode => .quickModeRemoval
  | setHoliday .. => .holiday
  | removeHoliday => .holidayRemoval

/-- The component that the call acts on; none for a call of the whole system. -/
def subject : Call → String
  | setHotWaterMode id _ | setHotWaterTarget id _ | setRoomMode id _ | setRoomTarget id _
  | setRoomVeto id _ | removeRoomVeto id | setZoneMode id _ | setZoneVeto id _
  | removeZoneVeto id => id
  | setQuickMode _ | removeQuickMode | setHoliday .. | removeHoliday => ""

theorem method_ask (c : Call) : c.ask.method = c.shape.method := by
  cases c <;> rfl

theorem path_ask (c : Call) :
    c.ask.path = c.shape.before ++ (c.subject ++ c.shape.behind) := by
  cases c with
  | setQuickMode _ | removeQuickMode => exact String.append_empty.symm
  | setHoliday _ _ _ | removeHoliday => exact String.append_empty.symm
  | setZoneMode _ _ | setZoneVeto _ _ | removeZoneVeto _ => exact String.append_assoc
  | setHotWaterMode _ _ | setHotWaterTarget _ _ | setRoomMode _ _ | setRoomTarget _ _
  | setRoomVeto _ _ | removeRoomVeto _ => exact String.append_assoc.trans String.append_assoc

variable {c d : Call}

theorem shape_eq_of_path (method : c.ask.method = d.ask.method)
    (path : c.ask.path = d.ask.path) : c.shape = d.shape := by
  rw [method_ask, method_ask] at method
  rw [path_ask, path_ask, ← String.toList_inj] at path
  simp only [String.toList_append] at path
  apply Shape.eq_of_comparable method
  · have front : d.shape.before.toList <+: c.shape.before.toList ++
        (c.subject.toList ++ c.shape.behind.toList) := path ▸ List.prefix_append _ _
    exact List.prefix_or_prefix_of_prefix (List.prefix_append _ _) front
  · rw [← List.append_assoc, ← List.append_assoc] at path
    have back : d.shape.behind.toList <:+ c.shape.before.toList ++ c.subject.toList ++
        c.shape.behind.toList := path ▸ List.suffix_append _ _
    exact List.suffix_or_suffix_of_suffix (List.suffix_append _ _) back

/-- The path tells the component, once the shape is known. -/
theorem subject_eq_of_path (shape : c.shape = d.shape)
    (path : c.ask.path = d.ask.path) : c.subject = d.subject := by
  rw [path_ask, path_ask, shape, String.append_right_inj, String.append_left_inj] at path
  exact path

end Call

/-! ## Bodies -/

theorem OperatingMode.ofName?_name (m : OperatingMode) : ofName? m.name = some m := by
  cases m <;> rfl

theorem OperatingMode.name_injective {m n : OperatingMode} (h : m.name = n.name) : m = n := by
  have read := ofName?_name m
  rw [h, ofName?_name] at read
  exact (Option.some.inj read).symm

theorem QuickMode.ofName?_name (q : QuickMode) : ofName? q.name = some q := by
  cases q <;> rfl

theorem QuickMode.wireName_injective {q r : QuickMode} (h : q.wireName = r.wireName) : q = r := by
  have read := ofName?_name q
  rw [(String.append_right_inj _).1 h, ofName?_name] at read
  exact (Option.some.inj read).symm

theorem ofFloat_injective {x y : Float} (hx : x.isFinite = true) (hy : y.isFinite = true)
    (h : Value.ofFloat x = Value.ofFloat y) : x = y := by
  unfold Value.ofFloat at h
  rw [if_pos hx, if_pos hy] at h
  cases h
  rfl

theorem ofNat_injective {m n : Nat} (h : Value.ofNat m = Value.ofNat n) : m = n :=
  Int.ofNat.inj (Json.Number.int.inj (Value.number.inj h))

theorem veto_of_members {v w : QuickVeto} {key : String} (hv : v.target.isFinite = true)
    (hw : w.target.isFinite = true)
    (h : durationMember v ++ [(key, Value.ofFloat v.target)] =
      durationMember w ++ [(key, Value.ofFloat w.target)]) : v = w := by
  obtain ⟨x, m⟩ := v
  obtain ⟨y, n⟩ := w
  obtain ⟨durations, targets⟩ := List.append_inj' h rfl
  have target : x = y := ofFloat_injective hv hw (congrArg Prod.snd (List.cons_eq_cons.1 targets).1)
  subst target
  cases m with
  | none =>
    cases n with
    | none => rfl
    | some n => cases durations
  | some m =>
    cases n with
    | none => cases durations
    | some n => rw [ofNat_injective (congrArg Prod.snd (List.cons_eq_cons.1 durations).1)]

/-- The temperature that the call sets, if it sets one. -/
def Call.temperature? : Call → Option Float
  | setHotWaterTarget _ target | setRoomTarget _ target | setHoliday _ _ target => some target
  | setRoomVeto _ veto | setZoneVeto _ veto => some veto.target
  | _ => none

/-- The call sets no temperature but a finite one. -/
def Call.IsFinite (c : Call) : Prop := ∀ t ∈ c.temperature?, t.isFinite = true

/-- Calls with the same request are the same. -/
theorem ask_injective {c d : Call} (hc : c.IsFinite) (hd : d.IsFinite)
    (method : c.ask.method = d.ask.method) (path : c.ask.path = d.ask.path)
    (body : c.ask.body = d.ask.body) : c = d := by
  have shape := Call.shape_eq_of_path method path
  have subject := Call.subject_eq_of_path shape path
  cases c <;> cases d <;> cases shape
  case setHotWaterMode id mode id' mode' | setRoomMode id mode id' mode'
      | setZoneMode id mode id' mode' =>
    obtain rfl : id = id' := subject
    have names : mode.name = mode'.name := by simpa [Call.ask] using body
    rw [OperatingMode.name_injective names]
  case setHotWaterTarget id target id' target' | setRoomTarget id target id' target' =>
    obtain rfl : id = id' := subject
    have targets : Value.ofFloat target = Value.ofFloat target' := by simpa [Call.ask] using body
    rw [ofFloat_injective (hc target rfl) (hd target' rfl) targets]
  case setRoomVeto id veto id' veto' | setZoneVeto id veto id' veto' =>
    obtain rfl : id = id' := subject
    rw [veto_of_members (hc _ rfl) (hd _ rfl) (Value.object.inj (Option.some.inj body))]
  case removeRoomVeto id id' | removeZoneVeto id id' =>
    obtain rfl : id = id' := subject
    rfl
  case setQuickMode mode mode' =>
    have names : mode.wireName = mode'.wireName := by simpa [Call.ask] using body
    rw [QuickMode.wireName_injective names]
  case setHoliday start finish target start' finish' target' =>
    have members : finish.text = finish'.text ∧ start.text = start'.text ∧
        Value.ofFloat target = Value.ofFloat target' := by simpa [Call.ask] using body
    rw [Calendar.text_injective members.1, Calendar.text_injective members.2.1,
      ofFloat_injective (hc target rfl) (hd target' rfl) members.2.2]
  case removeQuickMode | removeHoliday => rfl

/-! ## Requests sent for a call -/

namespace Exchange

theorem sent_of_call (a : Ask) (c : Client) : ∃ asks, (call a c).2.sent = c.sent ++ asks ∧
    ∀ x ∈ asks, x.OfAccount ∨ x = a := by
  obtain ⟨script, follows⟩ := c.exists_follows
  obtain ⟨turns, next, result, done, took, -, called⟩ := call_cases follows a
  rw [done]
  exact ⟨_, took.sent, List.forall_mem_map.2 called.asks⟩

theorem sent_of_serial (c : Client) : ∃ asks, (serial c).2.sent = c.sent ++ asks ∧
    ∀ x ∈ asks, ¬ x.IsToFacility := by
  cases known : c.serial with
  | some facility =>
    rw [serial_of_known known]
    exact ⟨[], (List.append_nil _).symm, List.forall_mem_nil _⟩
  | none =>
    obtain ⟨script, follows⟩ := c.exists_follows
    obtain ⟨turns, mid, body, took, called, -, found⟩ := serial_cases follows known
    have sent : (serial c).2.sent = mid.sent := by
      rcases found with ⟨facility, -, done⟩ | ⟨-, e, done⟩ <;> rw [done]
    refine ⟨_, sent.trans took.sent, List.forall_mem_map.2 fun turn member toFacility => ?_⟩
    rcases called.asks turn member with account | search
    · exact toFacility.not_ofAccount account
    · exact toFacility.path_ne (congrArg Ask.path search)

/-- What is sent to a facility is the request of the call, to the facility that is known then. -/
theorem sent_of_facilityCall (a : Ask) (c : Client) :
    ∃ asks, (facilityCall a.method a.path a.body c).2.sent = c.sent ++ asks ∧
      ∀ x ∈ asks, x.IsToFacility → ∃ facility,
        (facilityCall a.method a.path a.body c).2.serial = some facility ∧
          x = a.toFacility facility := by
  obtain ⟨asks, sent, search⟩ := sent_of_serial c
  unfold facilityCall
  rw [bind_apply]
  cases found : serial c with
  | mk result mid =>
    rw [found] at sent
    cases result with
    | error e => exact ⟨asks, sent, fun x member toFacility => absurd toFacility (search x member)⟩
    | ok facility =>
      have known := serial_of_serial_ok found
      obtain ⟨script, follows⟩ := mid.exists_follows
      obtain ⟨more, called, asked⟩ := sent_of_call (a.toFacility facility) mid
      obtain ⟨_, next, _, done, -, same, -⟩ := call_cases follows (a.toFacility facility)
      show ∃ asks, (call (a.toFacility facility) mid).2.sent = _ ∧ ∀ x ∈ asks, _ → ∃ facility',
        (call (a.toFacility facility) mid).2.serial = _ ∧ _
      refine ⟨asks ++ more, by rw [called, sent, List.append_assoc], fun x member toFacility => ?_⟩
      refine ⟨facility, by rw [done]; exact same.trans known, ?_⟩
      rcases List.mem_append.1 member with member | member
      · exact absurd toFacility (search x member)
      · exact (asked x member).resolve_left toFacility.not_ofAccount

end Exchange

/-- Carrying out the call, the client sends the request to the facility. -/
structure Client.Controls (k : Client) (facility : String) (c : Call) (x : Ask) : Prop where
  facility : (k.use (.perform c)).serial = some facility
  sent : x ∈ (k.use (.perform c)).sent.drop k.sent.length
  toFacility : x.IsToFacility

theorem Client.Controls.eq_toFacility {k : Client} {facility : String} {c : Call} {x : Ask}
    (h : k.Controls facility c x) : x = c.ask.toFacility facility := by
  obtain ⟨asks, sent, told⟩ := sent_of_facilityCall c.ask k
  have after : k.use (.perform c) = (facilityCall c.ask.method c.ask.path c.ask.body k).2 := by
    show ((facilityCall c.ask.method c.ask.path c.ask.body >>= fun _ => pure () : Exchange Unit) k).2 = _
    rw [bind_apply]
    rcases facilityCall c.ask.method c.ask.path c.ask.body k with ⟨_ | _, _⟩ <;> rfl
  obtain ⟨known, member, toFacility⟩ := h
  rw [after, sent, List.drop_left] at member
  obtain ⟨facility', known', same⟩ := told x member toFacility
  rw [after, known'] at known
  cases known
  exact same

/-- Whatever clients send to a facility for two calls, the requests are the same only if the calls
are. -/
theorem request_identifies_call {facility : String} {k l : Client} {c d : Call} {x y : Ask}
    (hx : k.Controls facility c x) (hy : l.Controls facility d y) (hc : c.IsFinite)
    (hd : d.IsFinite) (method : x.method = y.method) (url : x.url = y.url)
    (body : x.body = y.body) : c = d := by
  rw [hx.eq_toFacility] at method url body
  rw [hy.eq_toFacility] at method url body
  unfold Ask.url Ask.toFacility at url
  simp only [String.append_right_inj] at url
  exact ask_injective hc hd method url body

/-- One client is answered, the other is told that its login has expired and gets no new one. Both
have sent the request for the veto of a zone. -/
theorem request_identifies_call_of_veto :
    let ready : Client := ⟨⟨"user", "secret", "phone"⟩, true, some "21", ⟨[], .reply 200 ""⟩, []⟩
    let expired : Client := { ready with script := ⟨[.reply 401 ""], .failure "closed"⟩ }
    let c : Call := .setZoneVeto "up/left" ⟨21.5, some 90⟩
    let d : Call := .setZoneVeto ("up" ++ "/" ++ "left") ⟨21.5, some (60 + 30)⟩
    ready.Controls "21" c (c.ask.toFacility "21") ∧
      expired.Controls "21" d (d.ask.toFacility "21") ∧ c.IsFinite ∧ d.IsFinite ∧
      (c.ask.toFacility "21").url = (d.ask.toFacility "21").url ∧ c = d := by
  intro ready expired c d
  have hx : ready.Controls "21" c (c.ask.toFacility "21") :=
    ⟨rfl, List.mem_singleton.2 rfl, Ask.isToFacility_toFacility⟩
  have hy : expired.Controls "21" d (d.ask.toFacility "21") :=
    ⟨rfl, List.mem_cons_self, Ask.isToFacility_toFacility⟩
  have finite : (21.5 : Float).isFinite = true := by decide +kernel
  have hc : c.IsFinite := fun _ member => Option.mem_some.1 member ▸ finite
  have hd : d.IsFinite := fun _ member => Option.mem_some.1 member ▸ finite
  have url : (c.ask.toFacility "21").url = (d.ask.toFacility "21").url := by decide +kernel
  exact ⟨hx, hy, hc, hd, url, request_identifies_call hx hy hc hd rfl url rfl⟩

end HeatingHub

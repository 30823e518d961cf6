import HeatingHub.Proofs.Calendar.DateReading
import HeatingHub.Proofs.Json.Slots
import HeatingHub.Proofs.Wire.Stages

/-!
# Overrides in a payload

What stands under `holidaymode` or `quickmode` in the configuration decides the holiday or the quick
mode of the installation, and nothing else: a payload with an override there gives the installation
of the payload with `null` there, but for this override (`assemble_overriding`).
-/

namespace HeatingHub

open Json (Decoder Document Fields)

/-! ## Members that can be read -/

namespace Json.Fields

section Visit

variable {α β : Type} {a : Fields (α → β)} {b : Fields α} {s s' : a.Seen} {t t' : b.Seen}
  {k : String} {d : Document}

theorem visit_field_ok {name : String} {decode : Decoder α} {absent short seen : Option α} {x : α}
    (h : decode d = .ok x) : (field name decode absent short).visit seen k d = .ok (some x) :=
  congrArg (Except.map some) h

theorem visit_map_ok {a : Fields α} {s s' : a.Seen} (g : α → β) (h : a.visit s k d = .ok s') :
    (g <$> a).visit s k d = .ok s' := h

theorem visit_first_ok (first : k ∈ a.names) (h : a.visit s k d = .ok s') :
    (a <*> b).visit (s, t) k d = .ok (s', t) :=
  (if_pos first).trans (congrArg (Except.map (·, t)) h)

theorem visit_second_ok (later : k ∉ a.names) (h : b.visit t k d = .ok t') :
    (a <*> b).visit (s, t) k d = .ok (s, t') :=
  (if_neg later).trans (congrArg (Except.map (s, ·)) h)

end Visit

variable {α : Type} {fields : Fields α} {ending : Json.Ending} {taken : List String}
  {seen seen' : fields.Seen} {key : String} {d : Document} {rest : List (Option String × Document)}

theorem visitMembers_ok (known : key ∈ fields.names) (fresh : key ∉ taken)
    (visited : fields.visit seen key d = .ok seen') :
    fields.visitMembers ending taken seen ((some key, d) :: rest) =
      fields.visitMembers ending (key :: taken) seen' rest := by
  rw [visitMembers, if_pos known, if_neg fresh, visited]
  rfl

end Json.Fields

/-! ## Reading an override -/

namespace Wire

/-- A holiday as it is read. -/
def holidayDocument (start finish : Calendar.Date) (t : Float) : Document :=
  .object [(some "active", .bool true), (some "end_date", .text (some finish.text)),
    (some "start_date", .text (some start.text)),
    (some "temperature_setpoint", .number (some (.real t)))] .closed

/-- A quick mode as it is read. -/
def quickModeDocument (q : QuickMode) : Document :=
  .object [(some "duration", .number (some (.int 0))), (some "quickmode", .text (some q.wireName))]
    .closed

theorem decodeDate_text {d : Calendar.Date} (range : d.inRange = true) :
    decodeDate (.text (some d.text)) = .ok d := by
  unfold decodeDate Decoder.parsed
  dsimp only [Decoder.text]
  rw [Calendar.readLoose?_text range]

theorem decode_holiday {start finish : Calendar.Date} (hs : start.inRange = true)
    (hf : finish.inRange = true) (t : Float) :
    HolidayPart.fields.decode (holidayDocument start finish t) =
      .ok ⟨true, some start, some finish, some t⟩ := by
  have dated (d : Calendar.Date) (range : d.inRange = true) :
      Decoder.option decodeDate (.text (some d.text)) = .ok (some d) :=
    congrArg (Except.map some) (decodeDate_text range)
  have active : HolidayPart.fields.visit HolidayPart.fields.start "active" (.bool true) =
      .ok (((some true, none), none), none) :=
    Fields.visit_first_ok (by decide) (Fields.visit_first_ok (by decide)
      (Fields.visit_first_ok (by decide) (Fields.visit_map_ok _ (Fields.visit_field_ok rfl))))
  have last : HolidayPart.fields.visit (((some true, none), none), none) "end_date"
      (.text (some finish.text)) = .ok (((some true, none), some (some finish)), none) :=
    Fields.visit_first_ok (by decide) (Fields.visit_second_ok (by decide)
      (Fields.visit_field_ok (dated finish hf)))
  have first : HolidayPart.fields.visit (((some true, none), some (some finish)), none) "start_date"
      (.text (some start.text)) =
        .ok (((some true, some (some start)), some (some finish)), none) :=
    Fields.visit_first_ok (by decide) (Fields.visit_first_ok (by decide)
      (Fields.visit_second_ok (by decide) (Fields.visit_field_ok (dated start hs))))
  have target : HolidayPart.fields.visit
      (((some true, some (some start)), some (some finish)), none) "temperature_setpoint"
      (.number (some (.real t))) =
        .ok (((some true, some (some start)), some (some finish)), some (some t)) :=
    Fields.visit_second_ok (by decide) (Fields.visit_field_ok rfl)
  unfold holidayDocument Fields.decode
  dsimp only
  rw [Fields.visitMembers_ok (by decide) (by decide) active,
    Fields.visitMembers_ok (by decide) (by decide) last,
    Fields.visitMembers_ok (by decide) (by decide) first,
    Fields.visitMembers_ok (by decide) (by decide) target]
  rfl

theorem decode_quickMode (q : QuickMode) :
    QuickModePart.fields.decode (quickModeDocument q) = .ok ⟨q.wireName, some 0⟩ := by
  have duration : QuickModePart.fields.visit QuickModePart.fields.start "duration"
      (.number (some (.int 0))) = .ok (none, some (some 0)) :=
    Fields.visit_second_ok (by decide) (Fields.visit_field_ok rfl)
  have name : QuickModePart.fields.visit (none, some (some 0)) "quickmode"
      (.text (some q.wireName)) = .ok (some q.wireName, some (some 0)) :=
    Fields.visit_first_ok (by decide) (Fields.visit_map_ok _ (Fields.visit_field_ok rfl))
  unfold quickModeDocument Fields.decode
  dsimp only
  rw [Fields.visitMembers_ok (by decide) (by decide) duration,
    Fields.visitMembers_ok (by decide) (by decide) name]
  rfl

theorem quickMode_wireName (q : QuickMode) :
    QuickModePart.quickMode ⟨q.wireName, some 0⟩ = .ok q := by
  cases q <;> decide +kernel

/-! ## The payload -/

/-- The payload with its overrides changed; without overrides there are none of either kind. -/
def Control.overriding (f : Overrides → Overrides) (c : Control) : Control :=
  { c with overrides := some (f (c.overrides.getD ⟨none, none⟩)) }

theorem option_object {α : Type} (decode : Decoder α) (members : List (Option String × Document))
    (ending : Json.Ending) : Decoder.option decode (.object members ending) =
      (decode (.object members ending)).map some := rfl

theorem follows_holiday {d : Document} {part : Option HolidayPart}
    (h : Decoder.option HolidayPart.fields.decode d = .ok part) :
    Overrides.fields.Follows "holidaymode" d .null fun o => { o with holiday := part } :=
  .first (.map (.field (f := fun _ => part) h) fun _ => rfl)

theorem follows_quickMode {d : Document} {part : Option QuickModePart}
    (h : Decoder.option QuickModePart.fields.decode d = .ok part) :
    Overrides.fields.Follows "quickmode" d .null fun o => { o with quickMode := part } := by
  refine .second (.field (f := fun _ => part) h) (by decide) ?_
  intro s g hg x
  obtain ⟨holiday, -, rfl⟩ := Option.map_eq_some_iff.1 hg
  rfl

/-- The payload with another document in the overrides has other overrides. -/
theorem follows_overrides {key : String} {d d' : Document} {f : Overrides → Overrides}
    (follows : Overrides.fields.Follows key d d' f) (before after : List (Option String × Document))
    (ending : Json.Ending) : Control.fields.Follows "configuration"
      (.object (before ++ (some key, d) :: after) ending)
      (.object (before ++ (some key, d') :: after) ending) (Control.overriding f) := by
  refine .first (.first (.first (.map
    (.field (f := fun o => some (f (o.getD ⟨none, none⟩))) ?_) fun _ => rfl)))
  rw [option_object, option_object, Fields.decode_of_follows follows]
  cases Overrides.fields.decode (.object (before ++ (some key, d') :: after) ending) <;> rfl

theorem follows_envelope {α : Type} {decode : Decoder α} {d d' : Document} {f : α → α}
    (h : decode d = (decode d').map f) :
    (id <$> Fields.required "body" decode : Fields α).Follows "body" d d' f :=
  .map (.field h) fun _ => rfl

/-! ## The installation -/

/-- The payloads with their overrides changed. -/
def Payloads.overriding (f : Overrides → Overrides) (p : Payloads) : Payloads :=
  { p with control := p.control.overriding f }

theorem assemble_holiday (p : Payloads) (part : HolidayPart) :
    assemble (p.overriding fun o => { o with holiday := some part }) =
      (assemble p).map fun i => { i with holiday := some part.holiday } := by
  have quickMode :
      (p.overriding fun o => { o with holiday := some part }).quickMode = p.quickMode := by
    obtain ⟨⟨overrides, _⟩, _⟩ := p
    cases overrides <;> rfl
  rw [assemble_eq, assemble_eq, quickMode]
  show _ = Functor.map _ _
  simp only [map_bind]
  rfl

/-- A quick mode that can be read comes in the place of none. -/
theorem assemble_quickMode (p : Payloads) {part : QuickModePart} {q : QuickMode}
    (read : part.quickMode = .ok q) :
    assemble (p.overriding fun o => { o with quickMode := some part }) =
      (assemble (p.overriding fun o => { o with quickMode := none })).map
        fun i => { i with quickMode := some q } := by
  have quickMode :
      (p.overriding fun o => { o with quickMode := some part }).quickMode = .ok (some q) := by
    show part.quickMode.map some = _
    rw [read]
    rfl
  have nothing : (p.overriding fun o => { o with quickMode := none }).quickMode = .ok none := rfl
  rw [assemble_eq, assemble_eq, quickMode, nothing]
  show _ = Functor.map _ _
  simp only [map_bind]
  rfl

end Wire

end HeatingHub

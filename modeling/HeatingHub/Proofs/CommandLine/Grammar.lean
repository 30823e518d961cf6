import HeatingHub.Proofs.CommandLine.Arguments

/-!
# The grammar of commands

The words of a command are its name and a word for each of its arguments. A verb says which kinds of
arguments it takes, and in which order they are checked. `parse_grammar` says which words are which
command, and `Rejected` which words are none, with the text that says why.
-/

namespace HeatingHub

/-! ## Reading the arguments -/

/-- The arguments that the verb takes, those that may be left out included. -/
def Verb.parameters : Verb → List Parameter
  | setHoliday => [.date, .date, .temperature]
  | removeHoliday | status => []
  | setQuickMode => [.quickMode]
  | removeQuickMode | removeVeto => [.entity]
  | setVeto => [.entity, .temperature, .duration]
  | setTemperature => [.entity, .temperature]
  | setHvac => [.entity, .hvacMode]

/-- The words for the arguments, in the order in which they are checked: as they stand, but those of
a veto from the last one on. -/
def Verb.checks (v : Verb) (words : List String) : List (Parameter × String) :=
  if v = .setVeto then (v.parameters.zip words).reverse else v.parameters.zip words

def Command.arguments : Command → List Argument
  | setHoliday start finish target => [.date start, .date finish, .temperature target]
  | removeHoliday | status => []
  | setQuickMode mode => [.quickMode mode]
  | removeQuickMode entity => (entity.map .entity).toList
  | setVeto entity target duration =>
    [.entity entity, .temperature target] ++ (duration.map .duration).toList
  | removeVeto entity => [.entity entity]
  | setTemperature entity target => [.entity entity, .temperature target]
  | setHvac entity mode => [.entity entity, .hvacMode mode]

theorem Command.eq_of_arguments {c d : Command} (verb : c.verb = d.verb)
    (arguments : c.arguments = d.arguments) : c = d := by
  cases c with
  | setVeto entity target duration =>
    cases d with
    | setVeto entity' target' duration' =>
      cases duration <;> cases duration' <;> simp_all [Command.arguments]
    | _ => cases verb
  | removeQuickMode entity =>
    cases d with
    | removeQuickMode entity' => cases entity <;> cases entity' <;> simp_all [Command.arguments]
    | _ => cases verb
  | _ =>
    cases d <;> cases verb
    simp_all [Command.arguments]

namespace Parameter

/-- What keeps a word from being read. -/
def complaints (x : Parameter × String) : List CommandError := failures (x.1.read x.2)

theorem complaints_entity (word : String) : complaints (.entity, word) = [] := rfl

theorem complaints_eq_nil {x : Parameter × String} : complaints x = [] ↔ x.1.Accepts x.2 :=
  failures_eq_nil.trans accepts_iff.symm

theorem head?_complaints {x : Parameter × String} {e : CommandError} :
    (complaints x).head? = some e ↔ x.1.read x.2 = .error e := head?_failures

theorem failsFirst_of_read {α : Type} {x : Except CommandError α} {g : α → Argument}
    {p : Parameter} {word : String} (same : p.read word = x.map g) :
    FailsFirst x (complaints (p, word)) := by
  rw [complaints, same, failures_map]
  exact failsFirst_failures x

end Parameter

section

variable {v : Verb} {words : List String}

theorem readArguments_of_count (h : v.admits words.length = false) :
    Command.readArguments v words = .error (.wrongCount v) := by
  unfold Command.readArguments
  split
  case h_12 => rfl
  all_goals cases h

/-- The arguments are read one after the other, in the order of the checks. -/
theorem readArguments_failsFirst (h : v.admits words.length = true) :
    FailsFirst (Command.readArguments v words) ((v.checks words).flatMap Parameter.complaints) := by
  have date (word : String) := Parameter.failsFirst_of_read (Parameter.read_date word)
  have temperature (word : String) := Parameter.failsFirst_of_read (Parameter.read_temperature word)
  have duration (word : String) := Parameter.failsFirst_of_read (Parameter.read_duration word)
  have quickMode (word : String) := Parameter.failsFirst_of_read (Parameter.read_quickMode word)
  have hvacMode (word : String) := Parameter.failsFirst_of_read (Parameter.read_hvacMode word)
  unfold Command.readArguments
  split
  case h_1 start finish target =>
    show FailsFirst _ (List.flatMap Parameter.complaints
      [(.date, start), (.date, finish), (.temperature, target)])
    simp only [List.flatMap_cons]
    exact (date start).bind fun _ _ => (date finish).bind fun _ _ =>
      (temperature target).bind fun _ _ => .ok _
  case h_3 mode =>
    show FailsFirst _ (List.flatMap Parameter.complaints [(.quickMode, mode)])
    rw [List.flatMap_singleton]
    exact (quickMode mode).map _
  case h_6 entity target =>
    show FailsFirst _ (List.flatMap Parameter.complaints
      [(.temperature, target), (.entity, entity)])
    simp only [List.flatMap_cons]
    exact (temperature target).bind fun _ _ => .ok _
  case h_7 entity target minutes =>
    show FailsFirst _ (List.flatMap Parameter.complaints
      [(.duration, minutes), (.temperature, target), (.entity, entity)])
    simp only [List.flatMap_cons]
    exact (duration minutes).bind fun _ _ => (temperature target).bind fun _ _ => .ok _
  case h_9 entity target =>
    show FailsFirst _ (List.flatMap Parameter.complaints
      [(.entity, entity), (.temperature, target)])
    simp only [List.flatMap_cons, Parameter.complaints_entity, List.nil_append]
    exact (temperature target).bind fun _ _ => .ok _
  case h_10 entity mode =>
    show FailsFirst _ (List.flatMap Parameter.complaints [(.entity, entity), (.hvacMode, mode)])
    simp only [List.flatMap_cons, Parameter.complaints_entity, List.nil_append]
    exact (hvacMode mode).bind fun _ _ => .ok _
  case h_2 | h_4 | h_5 | h_8 | h_11 => exact .ok _
  case h_12 =>
    -- Words of an admitted number have one of the forms above.
    exfalso
    simp only [Verb.admits, decide_eq_true_eq] at h
    cases v <;> rcases words with _ | ⟨a, _ | ⟨b, _ | ⟨c, _ | ⟨d, rest⟩⟩⟩⟩ <;>
      grind [Verb.arity]

/-- The words for the arguments are read as those of the command. -/
theorem reads_of_readArguments {c : Command} (h : Command.readArguments v words = .ok c) :
    c.verb = v ∧
      List.Forall₂ (fun x a => x.1.Reads x.2 a) (v.parameters.zip words) c.arguments := by
  unfold Command.readArguments at h
  split at h
  case h_1 =>
    obtain ⟨_, start, h⟩ := bind_eq_ok.1 h
    obtain ⟨_, finish, h⟩ := bind_eq_ok.1 h
    obtain ⟨_, target, h⟩ := bind_eq_ok.1 h
    cases h
    exact ⟨rfl, .cons (Parameter.reads_of_read (Parameter.read_date _) start) <|
      .cons (Parameter.reads_of_read (Parameter.read_date _) finish) <|
      .cons (Parameter.reads_of_read (Parameter.read_temperature _) target) .nil⟩
  case h_3 =>
    obtain ⟨_, mode, h⟩ := map_eq_ok.1 h
    cases h
    exact ⟨rfl, .cons (Parameter.reads_of_read (Parameter.read_quickMode _) mode) .nil⟩
  case h_6 =>
    obtain ⟨_, target, h⟩ := bind_eq_ok.1 h
    cases h
    exact ⟨rfl, .cons (.entity _) <|
      .cons (Parameter.reads_of_read (Parameter.read_temperature _) target) .nil⟩
  case h_7 =>
    obtain ⟨_, minutes, h⟩ := bind_eq_ok.1 h
    obtain ⟨_, target, h⟩ := bind_eq_ok.1 h
    cases h
    exact ⟨rfl, .cons (.entity _) <|
      .cons (Parameter.reads_of_read (Parameter.read_temperature _) target) <|
      .cons (Parameter.reads_of_read (Parameter.read_duration _) minutes) .nil⟩
  case h_9 =>
    obtain ⟨_, target, h⟩ := bind_eq_ok.1 h
    cases h
    exact ⟨rfl, .cons (.entity _) <|
      .cons (Parameter.reads_of_read (Parameter.read_temperature _) target) .nil⟩
  case h_10 =>
    obtain ⟨_, mode, h⟩ := bind_eq_ok.1 h
    cases h
    exact ⟨rfl, .cons (.entity _) <|
      .cons (Parameter.reads_of_read (Parameter.read_hvacMode _) mode) .nil⟩
  case h_5 | h_8 =>
    cases h
    exact ⟨rfl, .cons (.entity _) .nil⟩
  case h_2 | h_4 | h_11 =>
    cases h
    exact ⟨rfl, .nil⟩
  case h_12 => cases h

theorem mem_checks {x : Parameter × String} : x ∈ v.checks words ↔ x ∈ v.parameters.zip words := by
  unfold Verb.checks
  split
  · exact List.mem_reverse
  · rfl

theorem exists_readArguments_iff :
    (∃ c, Command.readArguments v words = .ok c) ↔
      v.admits words.length = true ∧ ∀ x ∈ v.parameters.zip words, x.1.Accepts x.2 := by
  cases count : v.admits words.length with
  | false => simp [readArguments_of_count count]
  | true =>
    rw [(readArguments_failsFirst count).ok_iff, List.flatMap_eq_nil_iff]
    simp only [mem_checks, Parameter.complaints_eq_nil, true_and]

theorem readArguments_eq_ok {c : Command} :
    Command.readArguments v words = .ok c ↔
      v.admits words.length = true ∧ c.verb = v ∧
        List.Forall₂ (fun x a => x.1.Reads x.2 a) (v.parameters.zip words) c.arguments := by
  constructor
  · intro h
    exact ⟨(exists_readArguments_iff.1 ⟨c, h⟩).1, reads_of_readArguments h⟩
  · rintro ⟨count, verb, reads⟩
    have accepted : ∀ x ∈ v.parameters.zip words, x.1.Accepts x.2 :=
      ((List.forall₂_and_left _ _).1 (reads.imp fun _ a read => ⟨⟨a, read⟩, read⟩)).1
    obtain ⟨d, h⟩ := exists_readArguments_iff.2 ⟨count, accepted⟩
    obtain ⟨verb', reads'⟩ := reads_of_readArguments h
    -- Words are read in one way only, so this is the command.
    have unique : Relator.RightUnique fun (x : Parameter × String) a => x.1.Reads x.2 a :=
      fun _ _ _ ha hb => ha.unique hb
    rw [h, Command.eq_of_arguments (verb'.trans verb.symm) (unique.forall₂ reads' reads)]

theorem readArguments_eq_error (count : v.admits words.length = true) {e : CommandError} :
    Command.readArguments v words = .error e ↔
      ∃ before x after, v.checks words = before ++ x :: after ∧ x.1.read x.2 = .error e ∧
        ∀ y ∈ before, y.1.Accepts y.2 := by
  rw [(readArguments_failsFirst count).error_iff, List.head?_flatMap, List.findSome?_eq_some_iff]
  simp only [List.head?_eq_none_iff, Parameter.complaints_eq_nil, Parameter.head?_complaints]

end

/-! ## The words of a command -/

theorem Verb.ofName?_name (v : Verb) : Verb.ofName? v.name = some v := by
  cases v <;> decide +kernel

theorem parse_name (v : Verb) (words : List String) :
    Command.parse (v.name :: words) = (Command.readArguments v words).map some := by
  simp only [Command.parse, Verb.ofName?_name]

theorem parse_unknown {name : String} (unknown : ∀ v : Verb, v.name ≠ name) (words : List String) :
    Command.parse (name :: words) = .error (.unknownCommand name) := by
  have none : Verb.ofName? name = none := by
    rw [Verb.ofName?, List.find?_eq_none]
    intro v _
    simpa using unknown v
  simp only [Command.parse, none]

theorem known_or_unknown (name : String) :
    (∃ v : Verb, v.name = name) ∨ ∀ v : Verb, v.name ≠ name := by
  rw [← not_exists]
  exact Classical.em _

theorem parse_eq_none {words : List String} : Command.parse words = .ok none ↔ words = [] := by
  constructor
  · intro h
    cases words with
    | nil => rfl
    | cons name words =>
      rcases known_or_unknown name with ⟨v, rfl⟩ | unknown
      · obtain ⟨c, -, same⟩ := map_eq_ok.1 ((parse_name v words).symm.trans h)
        cases same
      · cases (parse_unknown unknown words).symm.trans h
  · rintro rfl
    rfl

theorem words_of_parse {words : List String} {c : Command}
    (h : Command.parse words = .ok (some c)) :
    ∃ v arguments, words = Verb.name v :: arguments ∧
      Command.readArguments v arguments = .ok c := by
  cases words with
  | nil => cases h
  | cons name arguments =>
    rcases known_or_unknown name with ⟨v, rfl⟩ | unknown
    · obtain ⟨d, read, same⟩ := map_eq_ok.1 ((parse_name v arguments).symm.trans h)
      cases same
      exact ⟨v, arguments, rfl, read⟩
    · cases (parse_unknown unknown arguments).symm.trans h

theorem parse_eq_ok {words : List String} {c : Command} :
    Command.parse words = .ok (some c) ↔
      ∃ arguments, words = c.verb.name :: arguments ∧
        c.verb.admits arguments.length = true ∧
        List.Forall₂ (fun x a => x.1.Reads x.2 a) (c.verb.parameters.zip arguments)
          c.arguments := by
  constructor
  · intro h
    obtain ⟨v, arguments, rfl, read⟩ := words_of_parse h
    obtain ⟨count, rfl, reads⟩ := readArguments_eq_ok.1 read
    exact ⟨arguments, rfl, count, reads⟩
  · rintro ⟨arguments, rfl, count, reads⟩
    rw [parse_name]
    exact map_eq_ok.2 ⟨c, readArguments_eq_ok.2 ⟨count, rfl, reads⟩, rfl⟩

/-! ## Words that are rejected -/

/-- Words that make up no command, and what is said about them. The number of arguments is checked
before any of them, and of several words that cannot be read the first one checked is named. -/
inductive Rejected : List String → String → Prop
  | unknown {name : String} {words : List String} (unknown : ∀ v : Verb, v.name ≠ name) :
      Rejected (name :: words) ("unknown command: " ++ name ++ "\n" ++ usage)
  | count {v : Verb} {words : List String} (count : v.admits words.length = false) :
      Rejected (v.name :: words) (v.name ++ ": wrong number of arguments\n" ++ usage)
  | argument {v : Verb} {words : List String} {before after : List (Parameter × String)}
      {parameter : Parameter} {word : String} (count : v.admits words.length = true)
      (order : v.checks words = before ++ (parameter, word) :: after)
      (accepted : ∀ x ∈ before, x.1.Accepts x.2) (refused : ¬parameter.Accepts word) :
      Rejected (v.name :: words) (parameter.complaint word)

theorem Verb.name_injective {v w : Verb} (h : v.name = w.name) : v = w := by
  have := Verb.ofName?_name w
  rw [← h, Verb.ofName?_name] at this
  exact Option.some.inj this

theorem rejected_name_iff {v : Verb} {words : List String} {text : String} :
    Rejected (v.name :: words) text ↔
      (v.admits words.length = false ∧
        text = v.name ++ ": wrong number of arguments\n" ++ usage) ∨
      (v.admits words.length = true ∧ ∃ before x after,
        v.checks words = before ++ x :: after ∧ (∀ y ∈ before, y.1.Accepts y.2) ∧
          ¬x.1.Accepts x.2 ∧ text = x.1.complaint x.2) := by
  constructor
  · intro h
    generalize same : v.name :: words = all at h
    cases h with
    | unknown unknown => exact absurd (List.cons.inj same).1 (unknown v)
    | count count =>
      obtain ⟨name, rfl⟩ := List.cons.inj same
      cases Verb.name_injective name
      exact .inl ⟨count, rfl⟩
    | argument count order accepted refused =>
      obtain ⟨name, rfl⟩ := List.cons.inj same
      cases Verb.name_injective name
      exact .inr ⟨count, _, _, _, order, accepted, refused, rfl⟩
  · rintro (⟨count, rfl⟩ | ⟨count, before, x, after, order, accepted, refused, rfl⟩)
    · exact .count count
    · exact .argument count order accepted refused

theorem rejected_unknown_iff {name : String} {words : List String} {text : String}
    (unknown : ∀ v : Verb, v.name ≠ name) :
    Rejected (name :: words) text ↔ text = "unknown command: " ++ name ++ "\n" ++ usage := by
  constructor
  · intro h
    generalize same : name :: words = all at h
    cases h with
    | unknown _ =>
      cases (List.cons.inj same).1
      rfl
    | count _ => exact absurd (List.cons.inj same).1.symm (unknown _)
    | argument _ _ _ _ => exact absurd (List.cons.inj same).1.symm (unknown _)
  · rintro rfl
    exact .unknown unknown

theorem readArguments_rejected (v : Verb) (words : List String) (text : String) :
    (∃ e, Command.readArguments v words = .error e ∧ e.message = text) ↔
      Rejected (v.name :: words) text := by
  rw [rejected_name_iff]
  cases count : v.admits words.length with
  | false =>
    rw [readArguments_of_count count]
    constructor
    · rintro ⟨e, h, rfl⟩
      cases h
      exact .inl ⟨rfl, rfl⟩
    · rintro (⟨-, rfl⟩ | ⟨h, -⟩)
      · exact ⟨_, rfl, rfl⟩
      · cases h
  | true =>
    constructor
    · rintro ⟨e, h, rfl⟩
      obtain ⟨before, x, after, order, failed, accepted⟩ := (readArguments_eq_error count).1 h
      have refused : ¬x.1.Accepts x.2 := by
        rw [Parameter.accepts_iff, failed]
        nofun
      exact .inr ⟨rfl, before, x, after, order, accepted, refused,
        Parameter.message_of_read failed⟩
    · rintro (⟨h, -⟩ | ⟨-, before, x, after, order, accepted, refused, rfl⟩)
      · cases h
      · cases failed : x.1.read x.2 with
        | ok a => exact absurd ⟨a, Parameter.read_eq_ok.1 failed⟩ refused
        | error e =>
          exact ⟨e, (readArguments_eq_error count).2 ⟨before, x, after, order, failed, accepted⟩,
            Parameter.message_of_read failed⟩

theorem parse_rejected (words : List String) (text : String) :
    (∃ e, Command.parse words = .error e ∧ e.message = text) ↔ Rejected words text := by
  cases words with
  | nil =>
    constructor
    · rintro ⟨e, h, -⟩
      cases h
    · nofun
  | cons name words =>
    rcases known_or_unknown name with ⟨v, rfl⟩ | unknown
    · rw [← readArguments_rejected, parse_name]
      simp only [map_eq_error]
    · rw [rejected_unknown_iff unknown, parse_unknown unknown]
      constructor
      · rintro ⟨e, h, rfl⟩
        cases h
        rfl
      · rintro rfl
        exact ⟨_, rfl, rfl⟩

/-- No words are no command. Others are one exactly if they are the name of a verb and as many words
as it admits, each of them accepted as an argument of the kind expected there; the command is the
one of that verb whose arguments the words are read as. All other words are rejected. -/
theorem parse_grammar (words : List String) :
    (Command.parse words = .ok none ↔ words = []) ∧
      ((∃ c, Command.parse words = .ok (some c)) ↔
        ∃ v : Verb, ∃ arguments, words = v.name :: arguments ∧
          v.admits arguments.length = true ∧
          ∀ x ∈ v.parameters.zip arguments, x.1.Accepts x.2) ∧
      (∀ c, Command.parse words = .ok (some c) ↔
        ∃ arguments, words = c.verb.name :: arguments ∧
          c.verb.admits arguments.length = true ∧
          List.Forall₂ (fun x a => x.1.Reads x.2 a) (c.verb.parameters.zip arguments)
            c.arguments) ∧
      ∀ text, (∃ e, Command.parse words = .error e ∧ e.message = text) ↔ Rejected words text := by
  refine ⟨parse_eq_none, ?_, fun c => parse_eq_ok, parse_rejected words⟩
  constructor
  · rintro ⟨c, h⟩
    obtain ⟨arguments, rfl, count, reads⟩ := parse_eq_ok.1 h
    have read : Command.readArguments c.verb arguments = .ok c :=
      readArguments_eq_ok.2 ⟨count, rfl, reads⟩
    exact ⟨c.verb, arguments, rfl, exists_readArguments_iff.1 ⟨c, read⟩⟩
  · rintro ⟨v, arguments, rfl, readable⟩
    obtain ⟨c, read⟩ := exists_readArguments_iff.2 readable
    exact ⟨c, (parse_name v arguments).trans (map_eq_ok.2 ⟨c, read, rfl⟩)⟩

-- The duration of a veto is checked before its temperature.
example : Command.parse ["set_quick_veto", "climate.multimatic_hall", "hot", "0"] =
    .error (.badDuration "0") := by rfl

end HeatingHub

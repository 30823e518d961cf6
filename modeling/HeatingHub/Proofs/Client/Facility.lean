import HeatingHub.Proofs.Client.Run

/-!
# The facility of a client

A client controls one facility: the one that it was given, or else the first that the account was
found to have. Which one it is can be told from the turns (`facilityAfter`), and the requests to a
facility are to this one only.
-/

namespace HeatingHub

open Exchange

/-! ## The facility in the turns -/

/-- The first of the facilities that the account was found to have. -/
def Turn.facility? (turn : Turn) : Option String :=
  if turn.ask.path = facilitiesPath then turn.answer.success?.bind listedFacility? else none

/-- The facility after the turns: the one given, else the first that was found. -/
def facilityAfter (given : Option String) (turns : List Turn) : Option String :=
  given.or (turns.findSome? Turn.facility?)

/-- The requests for facilities are those of a client that has none, and the requests to a facility
are to the one it has. -/
structure Addressed (given : Option String) (before : List Turn) (turn : Turn) : Prop where
  search : turn.ask.path = facilitiesPath →
    turn.ask = facilitiesAsk ∧ facilityAfter given before = none
  facility : turn.ask.IsToFacility → ∃ facility a, facilityAfter given before = some facility ∧
    OfFacility a ∧ turn.ask = a.toFacility facility

section

variable {given : Option String} {before turns early late : List Turn} {turn : Turn}

theorem Turn.facility?_of_path_ne (path : turn.ask.path ≠ facilitiesPath) :
    turn.facility? = none := if_neg path

theorem Ask.OfAccount.facility? (account : turn.ask.OfAccount) : turn.facility? = none :=
  Turn.facility?_of_path_ne fun path => account.not_facilities "" path

theorem facilityAfter_append : facilityAfter given (before ++ turns) =
    (facilityAfter given before).or (turns.findSome? Turn.facility?) := by
  unfold facilityAfter
  rw [List.findSome?_append, Option.or_assoc]

/-- Turns in which no facility was found change nothing. -/
theorem facilityAfter_of_silent (silent : turns.findSome? Turn.facility? = none) :
    facilityAfter given (before ++ turns) = facilityAfter given before := by
  rw [facilityAfter_append, silent, Option.or_none]

/-- A facility that is known is never another. -/
theorem facilityAfter_of_known {facility : String}
    (known : facilityAfter given before = some facility) :
    facilityAfter given (before ++ turns) = some facility := by
  rw [facilityAfter_append, known]
  rfl

theorem addressed_of_account (account : turn.ask.OfAccount) : Addressed given before turn where
  search path := absurd path (account.not_facilities "")
  facility toFacility := absurd account toFacility.not_ofAccount

theorem addressed_toFacility {a : Ask} {facility : String} (answer : Answer)
    (known : facilityAfter given before = some facility) (asked : OfFacility a) :
    Addressed given before ⟨a.toFacility facility, answer⟩ where
  search path := absurd path Ask.isToFacility_toFacility.path_ne
  facility _ := ⟨facility, a, known, asked, rfl⟩

theorem addressed_facilitiesAsk (answer : Answer) (unknown : facilityAfter given before = none) :
    Addressed given before ⟨facilitiesAsk, answer⟩ where
  search _ := ⟨rfl, unknown⟩
  facility toFacility := absurd rfl toFacility.path_ne

theorem Answer.IsUnauthorized.facility? {answer : Answer} {a : Ask}
    (unauthorized : answer.IsUnauthorized) : (Turn.mk a answer).facility? = none := by
  unfold Turn.facility?
  rw [unauthorized.success?]
  exact ite_self none

/-- Turns that leave the facility as it is can be judged by the one known before all of them. -/
theorem throughout_addressed (silent : turns.findSome? Turn.facility? = none)
    (h : ∀ turn ∈ turns, ∀ earlier, facilityAfter given earlier = facilityAfter given before →
      Addressed given earlier turn) : Throughout (Addressed given) before turns := by
  induction turns generalizing before with
  | nil => trivial
  | cons turn rest ih =>
    rw [List.findSome?_eq_none_iff, List.forall_mem_cons] at silent
    rw [List.forall_mem_cons] at h
    have same : facilityAfter given (before ++ [turn]) = facilityAfter given before :=
      facilityAfter_of_silent (List.findSome?_eq_none_iff.mpr (List.forall_mem_singleton.mpr silent.1))
    refine ⟨h.1 before rfl, ih (List.findSome?_eq_none_iff.mpr silent.2) ?_⟩
    rw [same]
    exact h.2

/-- All requests to a facility are to the one known in the end. -/
theorem Throughout.facility (h : Throughout (Addressed given) before turns) :
    ∀ turn ∈ turns, turn.ask.IsToFacility → ∃ facility a,
      facilityAfter given (before ++ turns) = some facility ∧ OfFacility a ∧
        turn.ask = a.toFacility facility := by
  induction turns generalizing before with
  | nil => exact fun turn member => absurd member List.not_mem_nil
  | cons turn rest ih =>
    rw [List.forall_mem_cons]
    constructor
    · intro toFacility
      obtain ⟨facility, a, known, asked, ask⟩ := h.1.facility toFacility
      exact ⟨facility, a, facilityAfter_of_known known, asked, ask⟩
    · have later := ih h.2
      rwa [List.append_assoc] at later

end

/-! ## Turns of calls -/

section

variable {credentials : Credentials} {given : Option String} {before turns login : List Turn}
  {turn : Turn} {a : Ask} {body : Option String} {loggedIn after : Bool}

theorem Login.ofAccount (completed : Login credentials login) :
    ∀ turn ∈ login, turn.ask.OfAccount := by
  obtain ⟨-, -⟩ := completed
  rw [List.forall_mem_cons, List.forall_mem_singleton]
  exact ⟨.inl rfl, .inr (.inl rfl)⟩

theorem FailedLogin.ofAccount (failed : FailedLogin credentials login) :
    ∀ turn ∈ login, turn.ask.OfAccount := by
  cases failed with
  | ungranted => exact List.forall_mem_singleton.mpr (.inl rfl)
  | unaccepted =>
    rw [List.forall_mem_cons, List.forall_mem_singleton]
    exact ⟨.inl rfl, .inr (.inl rfl)⟩

theorem findSome?_of_account (account : ∀ turn ∈ turns, turn.ask.OfAccount) :
    turns.findSome? Turn.facility? = none :=
  List.findSome?_eq_none_iff.mpr fun turn member => (account turn member).facility?

theorem Attempt.asks (attempt : Attempt credentials a turns body after) :
    ∀ turn ∈ turns, turn.ask.OfAccount ∨ turn.ask = a := by
  cases attempt with
  | answered => exact List.forall_mem_singleton.mpr (.inr rfl)
  | repeated _ completed =>
    rw [List.forall_mem_cons, List.forall_mem_append, List.forall_mem_singleton]
    exact ⟨.inr rfl, fun turn member => .inl (completed.ofAccount turn member), .inr rfl⟩
  | expired _ failed =>
    rw [List.forall_mem_cons]
    exact ⟨.inr rfl, fun turn member => .inl (failed.ofAccount turn member)⟩

/-- The requests of a call are of logins, but for the one of the call. -/
theorem Called.asks (called : Called credentials a loggedIn turns body after) :
    ∀ turn ∈ turns, turn.ask.OfAccount ∨ turn.ask = a := by
  cases called with
  | ready attempt => exact attempt.asks
  | admitted completed attempt =>
    rw [List.forall_mem_append]
    exact ⟨fun turn member => .inl (completed.ofAccount turn member), attempt.asks⟩
  | refused failed => exact fun turn member => .inl (failed.ofAccount turn member)

theorem Attempt.asked (attempt : Attempt credentials a turns body after) :
    ∃ turn ∈ turns, turn.ask = a := by
  cases attempt <;> exact ⟨_, List.mem_cons_self, rfl⟩

/-- The request of a call is sent, or else there is nothing but a login that was not completed. -/
theorem Called.asked (called : Called credentials a loggedIn turns body after) :
    FailedLogin credentials turns ∨ ∃ turn ∈ turns, turn.ask = a := by
  cases called with
  | ready attempt => exact .inr attempt.asked
  | admitted _ attempt =>
    obtain ⟨turn, member, ask⟩ := attempt.asked
    exact .inr ⟨turn, List.mem_append_right _ member, ask⟩
  | refused failed => exact .inl failed

/-- In a call to a facility no other is found. -/
theorem Called.silent {facility : String}
    (called : Called credentials (a.toFacility facility) loggedIn turns body after) :
    turns.findSome? Turn.facility? = none := by
  refine List.findSome?_eq_none_iff.mpr fun turn member => ?_
  rcases called.asks turn member with account | ask
  · exact account.facility?
  · exact Turn.facility?_of_path_ne (ask ▸ Ask.isToFacility_toFacility.path_ne)

theorem Called.addressed {facility : String}
    (called : Called credentials (a.toFacility facility) loggedIn turns body after)
    (known : facilityAfter given before = some facility) (asked : OfFacility a) :
    Throughout (Addressed given) before turns := by
  refine throughout_addressed called.silent fun turn member earlier same => ?_
  rcases called.asks turn member with account | ask
  · exact addressed_of_account account
  · obtain ⟨_, answer⟩ := turn
    cases ask
    exact addressed_toFacility answer (same.trans known) asked

/-- Turns that found no facility, the last of them apart. -/
theorem exists_last_of_silent (silent : turns.findSome? Turn.facility? = none)
    (some : turns ≠ []) : ∃ early last, turns = early ++ [last] ∧
      early.findSome? Turn.facility? = none ∧ last.facility? = none := by
  have split := List.dropLast_concat_getLast some
  rw [← split, List.findSome?_append, Option.or_eq_none_iff, List.findSome?_singleton] at silent
  exact ⟨_, _, split.symm, silent⟩

/-- Only the last answer in a search for the facility can tell of one. -/
theorem Attempt.search (attempt : Attempt credentials facilitiesAsk turns body after) :
    ∃ early last, turns = early ++ [last] ∧ early.findSome? Turn.facility? = none ∧
      last.facility? = body.bind listedFacility? := by
  cases attempt with
  | answered => exact ⟨[], _, rfl, rfl, if_pos rfl⟩
  | @repeated expired again login unauthorized completed =>
    refine ⟨⟨facilitiesAsk, expired⟩ :: login, _, rfl, ?_, if_pos rfl⟩
    refine List.findSome?_eq_none_iff.mpr (List.forall_mem_cons.mpr ⟨unauthorized.facility?, ?_⟩)
    exact fun turn member => (completed.ofAccount turn member).facility?
  | @expired answer login unauthorized failed =>
    refine exists_last_of_silent ?_ (List.cons_ne_nil _ _)
    refine List.findSome?_eq_none_iff.mpr (List.forall_mem_cons.mpr ⟨unauthorized.facility?, ?_⟩)
    exact fun turn member => (failed.ofAccount turn member).facility?

theorem Called.search (called : Called credentials facilitiesAsk loggedIn turns body after) :
    ∃ early last, turns = early ++ [last] ∧ early.findSome? Turn.facility? = none ∧
      last.facility? = body.bind listedFacility? := by
  cases called with
  | ready attempt => exact attempt.search
  | @admitted login _ _ _ completed attempt =>
    obtain ⟨early, last, rfl, silent, found⟩ := attempt.search
    refine ⟨login ++ early, last, (List.append_assoc ..).symm, ?_, found⟩
    rw [List.findSome?_append, findSome?_of_account completed.ofAccount, silent]
    rfl
  | refused failed =>
    refine exists_last_of_silent (findSome?_of_account failed.ofAccount) ?_
    cases failed <;> exact List.cons_ne_nil _ _

theorem Called.found (called : Called credentials facilitiesAsk loggedIn turns body after) :
    turns.findSome? Turn.facility? = body.bind listedFacility? := by
  obtain ⟨early, last, rfl, silent, found⟩ := called.search
  rw [List.findSome?_append, silent, Option.none_or, List.findSome?_singleton, found]

theorem Called.addressed_search
    (called : Called credentials facilitiesAsk loggedIn turns body after)
    (unknown : facilityAfter given before = none) : Throughout (Addressed given) before turns := by
  have judge : ∀ turn ∈ turns, ∀ earlier, facilityAfter given earlier = none →
      Addressed given earlier turn := by
    intro turn member earlier none
    rcases called.asks turn member with account | ask
    · exact addressed_of_account account
    · obtain ⟨_, answer⟩ := turn
      cases ask
      exact addressed_facilitiesAsk answer none
  obtain ⟨early, last, rfl, silent, -⟩ := called.search
  rw [List.forall_mem_append, List.forall_mem_singleton] at judge
  refine throughout_append.mpr ⟨throughout_addressed silent ?_, throughout_singleton.mpr ?_⟩
  · exact fun turn member earlier same => judge.1 turn member earlier (same.trans unknown)
  · exact judge.2 _ ((facilityAfter_of_silent silent).trans unknown)

end

/-! ## Runs -/

namespace Client

/-- A client that knows the facility as far as its turns tell, and has kept to it. -/
structure Located (owner : Credentials) (given : Option String) (script : Script) (c : Client) : Prop
    extends c.Began owner script where
  serial : c.serial = facilityAfter given (c.transcript script)
  addressed : Throughout (Addressed given) [] (c.transcript script)

variable {credentials : Credentials} {given : Option String} {script : Script} {c next : Client}
  {turns : List Turn} {a : Ask}

theorem Located.took (h : c.Located credentials given script) (took : c.Took script turns next)
    (serial : next.serial = c.serial.or (turns.findSome? Turn.facility?))
    (addressed : Throughout (Addressed given) (c.transcript script) turns) :
    next.Located credentials given script where
  toBegan := h.toBegan.took took
  serial := by rw [serial, h.serial, took.transcript, facilityAfter_append]
  addressed := by
    rw [took.transcript]
    exact throughout_append.mpr ⟨h.addressed, addressed⟩

/-- Turns for the account alone. -/
theorem Located.account (h : c.Located credentials given script) (took : c.Took script turns next)
    (same : next.serial = c.serial) (account : ∀ turn ∈ turns, turn.ask.OfAccount) :
    next.Located credentials given script := by
  have silent := findSome?_of_account account
  refine h.took took ?_ (throughout_addressed silent fun turn member earlier _ => ?_)
  · rw [same, silent, Option.or_none]
  · exact addressed_of_account (account turn member)

theorem Located.login (h : c.Located credentials given script) :
    (login c).2.Located credentials given script := by
  rcases login_cases h.follows with
    ⟨turns, next, completed, took, done, -, same⟩ | ⟨turns, next, e, failed, took, done, -, same⟩ <;>
      rw [done]
  · exact h.account took same completed.ofAccount
  · exact h.account took same failed.ofAccount

theorem Located.logout (h : c.Located credentials given script) :
    (logout c).2.Located credentials given script := by
  have took := h.follows.took_asked logoutAsk
  have account : ∀ turn ∈ [Turn.mk logoutAsk c.script.next.1], turn.ask.OfAccount :=
    List.forall_mem_singleton.mpr (.inr (.inr rfl))
  rcases logout_cases c with ⟨-, state⟩ | state <;> rw [state]
  · exact h.account took rfl account
  · exact h.account (took.setLoggedIn false) rfl account

theorem Located.call {facility : String} (h : c.Located credentials given script)
    (known : c.serial = some facility) (asked : OfFacility a) :
    (call (a.toFacility facility) c).2.Located credentials given script := by
  obtain ⟨turns, next, result, done, took, same, called⟩ :=
    call_cases h.follows (a.toFacility facility)
  rw [done]
  refine h.took took ?_ (called.addressed (h.serial.symm.trans known) asked)
  rw [same, called.silent, Option.or_none]

theorem Located.search (h : c.Located credentials given script) :
    (Exchange.serial c).2.Located credentials given script := by
  cases known : c.serial with
  | some facility =>
    rw [serial_of_known known]
    exact h
  | none =>
    obtain ⟨turns, mid, body, took, called, unknown, found⟩ := serial_cases h.follows known
    have addressed := called.addressed_search (h.serial.symm.trans known)
    have told := called.found
    rcases found with ⟨facility, listed, done⟩ | ⟨nothing, e, done⟩ <;> rw [done]
    · refine h.took (took.setSerial (some facility)) ?_ addressed
      rw [known, told, listed]
      rfl
    · refine h.took took ?_ addressed
      rw [unknown, known, told, nothing]
      rfl

theorem kept_located : Kept (Located credentials given script) where
  serial _ h := h.search
  call h known asked := h.call known asked
  logout _ h := h.logout

theorem located_new (credentials : Credentials) (given : Option String) (script : Script) :
    (new credentials given script).Located credentials given script :=
  ⟨began_new credentials given script, Option.or_none.symm, trivial⟩

theorem located_run (credentials : Credentials) (given : Option String) (script : Script)
    (uses : List Use) : (run credentials given script uses).Located credentials given script :=
  kept_located.run (located_new credentials given script).login uses

end Client

/-! ## Searching again -/

/-- What a use comes to when the facility is not known: the facility is searched for, and if it is
not found nothing else is done. -/
structure Searches (owner : Credentials) (turns : List Turn) (result : Except ApiError Unit)
    (next : Client) : Prop where
  /-- Without a login there is nothing that can be searched. -/
  searched : FailedLogin owner turns ∨ ∃ turn ∈ turns, turn.ask = facilitiesAsk
  nothing : turns.findSome? Turn.facility? = none → (∃ e, result = .error e) ∧
    next.serial = none ∧ ∀ turn ∈ turns, ¬ turn.ask.IsToFacility

namespace Client

variable {credentials : Credentials} {given : Option String} {script : Script} {c : Client}

theorem Located.searches (h : c.Located credentials given script) (unknown : c.serial = none)
    {u : Use} (other : u ≠ .logout) :
    ∃ turns, (c.use u).transcript script = c.transcript script ++ turns ∧
      Searches credentials turns (u.on clientSession c).1 (c.use u) := by
  obtain ⟨turns, mid, body, took, called, without, found⟩ := serial_cases h.follows unknown
  have told := called.found
  have searched := called.asked
  rw [h.credentials] at searched
  rcases found with ⟨facility, listed, done⟩ | ⟨nothing, e, done⟩
  · -- The use is then that of a client which knows the facility already.
    have same := (Use.beginsWithFacility other).of_found done
    obtain ⟨more, rest⟩ := (kept_took script { mid with serial := some facility }).use
      ⟨[], (took.setSerial _).follows.took_nil⟩ u
    have whole := (took.setSerial (some facility)).trans rest
    unfold use
    rw [show u.on clientSession c = u.on clientSession { mid with serial := some facility } from same]
    refine ⟨turns ++ more, whole.transcript, ?_, fun nothing => ?_⟩
    · rcases searched with failed | ⟨turn, member, ask⟩
      · rw [findSome?_of_account failed.ofAccount, listed] at told
        cases told
      · exact .inr ⟨turn, List.mem_append_left more member, ask⟩
    · rw [List.findSome?_append, told, listed] at nothing
      cases nothing
  · have ended : u.on clientSession c = (.error e, mid) :=
      (Use.beginsWithFacility other).of_not_found done
    unfold use
    rw [ended]
    refine ⟨turns, took.transcript, searched, fun _ => ⟨⟨e, rfl⟩, without, ?_⟩⟩
    intro turn member toFacility
    rcases called.asks turn member with account | ask
    · exact toFacility.not_ofAccount account
    · exact toFacility.path_ne (congrArg Ask.path ask)

/-- In a run there is one facility, the one given or else the first that was found, and all requests
to a facility are to it. The facilities are asked for until one is found and never after that: a use
that finds none does nothing else, and the next one asks again. -/
theorem one_facility (credentials : Credentials) (given : Option String) (script : Script)
    (uses : List Use) :
    let c := run credentials given script uses
    c.serial = facilityAfter given (c.transcript script) ∧
      Throughout (Addressed given) [] (c.transcript script) ∧
      (∀ turn ∈ c.transcript script, turn.ask.IsToFacility →
        ∃ facility a, c.serial = some facility ∧ OfFacility a ∧ turn.ask = a.toFacility facility) ∧
      ∀ u : Use, u ≠ .logout → c.serial = none →
        ∃ turns, (c.use u).transcript script = c.transcript script ++ turns ∧
          Searches credentials turns (u.on clientSession c).1 (c.use u) := by
  intro c
  have located : c.Located credentials given script := located_run credentials given script uses
  refine ⟨located.serial, located.addressed, ?_, fun u other unknown => ?_⟩
  · rw [located.serial]
    exact located.addressed.facility
  · exact located.searches unknown other

/-- The login expires between the search for the facility and the removal of a quick mode. -/
example :
    let granted : Answer := .reply 200 "\x7b\"body\":\x7b\"authToken\":\"t\"\x7d\x7d"
    let listed : Answer :=
      .reply 200 "\x7b\"body\":\x7b\"facilitiesList\":[\x7b\"serialNumber\":\"21\"\x7d]\x7d\x7d"
    let script : Script := ⟨[granted, .reply 200 "", listed, .reply 401 "", granted], .reply 200 ""⟩
    let c := run ⟨"owner", "secret", "device"⟩ none script [.perform .removeQuickMode]
    c.sent.map (·.path) = [tokenPath, authenticatePath, facilitiesPath,
      "/facilities/21" ++ quickModePath, tokenPath, authenticatePath,
      "/facilities/21" ++ quickModePath] := by
  decide +kernel

end Client

end HeatingHub

import HeatingHub.Proofs.Hub.History
import HeatingHub.Proofs.Hub.Stepwise

/-!
# What a call that fails leaves

Two attempts at one operation are compared, from the same hub: one with a session that may fail at
any call, and one with a session that carries out every call. All that can come of an attempt, with
what the session records of it, is listed in `attempt_cases`.
-/

namespace HeatingHub

open Calendar (Moment)

/-! ## Calls that fail -/

/-- A session that carries out as many calls as its state says, and no more. -/
def Session.lasting : Session Nat where
  perform _ n :=
    match n with
    | 0 => (.error (.transport "gone"), 0)
    | n + 1 => (.ok (), n)
  requestUpdate n := (.ok (), n)
  fetch n := (.ok .empty, n)
  logout n := (.ok (), n)

/-- The call that was made failed. -/
def Event.isFailedCall : Event → Bool
  | called _ (.error _) => true
  | _ => false

/-! ## Traces of calls -/

theorem made_done (calls : List Call) : made (calls.map .done) = calls :=
  filterMap_of_telling .done (fun _ => rfl) calls

theorem filter_done (calls : List Call) :
    (calls.map Event.done).filter (·.isExchange) = calls.map .done := by
  rw [List.filter_eq_self]
  intro event h
  obtain ⟨_, _, rfl⟩ := List.mem_map.1 h
  rfl

theorem isFailedCall_of_mem_done {calls : List Call} {event : Event}
    (h : event ∈ calls.map .done) : event.isFailedCall = false := by
  obtain ⟨_, _, rfl⟩ := List.mem_map.1 h
  rfl

theorem call?_of_mem_done {calls : List Call} {event : Event} (h : event ∈ calls.map .done) :
    event.call? ≠ none := by
  obtain ⟨call, _, rfl⟩ := List.mem_map.1 h
  exact Option.some_ne_none call

/-- The trace of calls of which the last failed. -/
def cutAt (before : List Call) (call : Call) (e : ApiError) : List Event :=
  before.map .done ++ [.called call (.error e)]

section Cut

variable {before : List Call} {call : Call} {e : ApiError} {event : Event}

theorem mem_cutAt : event ∈ cutAt before call e ↔
    event ∈ before.map .done ∨ event = .called call (.error e) := by
  unfold cutAt
  rw [List.mem_append, List.mem_singleton]

theorem made_cutAt : made (cutAt before call e) = before ++ [call] := by
  unfold cutAt
  rw [made_append, made_done]
  rfl

theorem call?_of_mem_cutAt (h : event ∈ cutAt before call e) : event.call? ≠ none := by
  rcases mem_cutAt.1 h with h | rfl
  · exact call?_of_mem_done h
  · exact Option.some_ne_none call

theorem failed_mem_cutAt {other : Call} {e' : ApiError} :
    .called other (.error e') ∈ cutAt before call e ↔ other = call ∧ e' = e := by
  rw [mem_cutAt]
  constructor
  · rintro (h | h)
    · cases isFailedCall_of_mem_done h
    · cases h
      exact ⟨rfl, rfl⟩
  · rintro ⟨rfl, rfl⟩
    exact .inr rfl

/-- Nothing follows the call that failed. -/
theorem eq_nil_of_cutAt {first rest : List Event} (h : cutAt before call e = first ++ event :: rest)
    (failed : event.isFailedCall = true) : rest = [] := by
  rcases List.eq_nil_or_concat rest with rfl | ⟨rest, last, rfl⟩
  · rfl
  · unfold cutAt at h
    rw [List.concat_eq_append, ← List.cons_append, ← List.append_assoc] at h
    have among : event ∈ before.map .done := by
      rw [List.append_inj_left' h rfl]
      simp
    rw [isFailedCall_of_mem_done among] at failed
    cases failed

end Cut

/-- A trace as compared with the trace of a run in which no call fails. -/
structure Truncated (answer : Except HubError Unit) (trace whole : List Event) : Prop where
  shorter : made trace <+: made whole
  calls : ∀ event ∈ trace, event.call? ≠ none
  stops : ∀ first event rest, trace = first ++ event :: rest → event.isFailedCall → rest = []
  complete : (∀ event ∈ trace, event.isFailedCall = false) → made trace = made whole
  reason : ∀ e, answer = .error (.api e) ↔ ∃ call, .called call (.error e) ∈ trace

theorem truncated_nil {e : HubError} (he : ∀ a, e ≠ .api a) {whole : List Event}
    (hw : made whole = []) : Truncated (.error e) [] whole where
  shorter := List.nil_prefix
  calls := List.forall_mem_nil _
  stops first event rest h :=
    absurd h.symm (List.append_ne_nil_of_right_ne_nil first (List.cons_ne_nil event rest))
  complete _ := hw.symm
  reason a := by
    constructor
    · intro h
      exact absurd (Except.error.inj h) (he a)
    · exact nofun

theorem truncated_done {calls : List Call} {whole : List Event} (hw : made whole = calls) :
    Truncated (.ok ()) (calls.map .done) whole where
  shorter := ⟨[], by rw [List.append_nil, made_done, hw]⟩
  calls _ := call?_of_mem_done
  stops first event rest h failed := by
    have among : event ∈ calls.map .done := by
      rw [h]
      simp
    rw [isFailedCall_of_mem_done among] at failed
    cases failed
  complete _ := by rw [made_done, hw]
  reason e := by
    constructor
    · exact nofun
    · rintro ⟨call, h⟩
      cases isFailedCall_of_mem_done h

theorem truncated_cutAt {before after : List Call} {call : Call} (e : ApiError)
    {whole : List Event} (hw : made whole = before ++ call :: after) :
    Truncated (.error (.api e)) (cutAt before call e) whole where
  shorter := by
    rw [made_cutAt, hw]
    exact ⟨after, List.append_assoc before [call] after⟩
  calls _ := call?_of_mem_cutAt
  stops _ _ _ := eq_nil_of_cutAt
  complete h := by cases h _ (failed_mem_cutAt.2 ⟨rfl, rfl⟩)
  reason e' := by
    constructor
    · intro h
      cases h
      exact ⟨call, failed_mem_cutAt.2 ⟨rfl, rfl⟩⟩
    · rintro ⟨other, h⟩
      rw [(failed_mem_cutAt.1 h).2]

namespace Site

variable {σ τ : Type}

/-! ## Attempts -/

/-- Carries out an operation with a session that is recorded. -/
def attempt (session : Session σ) (now : Moment) (op : Operation) (hub : Hub) (remote : σ) :
    Except HubError Unit × Site (σ × List Event) :=
  (new hub (remote, [])).operate session.recorded now op

variable {now : Moment} {op : Operation} {hub : Hub}

/-- All that can come of an attempt. -/
theorem attempt_cases (session : Session σ) (now : Moment) (op : Operation) (hub : Hub)
    (remote : σ) :
    (∃ e, op.plan hub now = .error e ∧ (∀ a, e ≠ .api a) ∧
      attempt session now op hub remote = (.error e, new hub (remote, []))) ∨
    (∃ calls next, op.plan hub now = .ok calls ∧ attempt session now op hub remote =
      (.ok (), schedule ⟨hub.patched calls, (next, calls.map .done), calls.map .done⟩
        (op.affected (hub.patched calls) calls))) ∨
    ∃ before call after e next, op.plan hub now = .ok (before ++ call :: after) ∧
      attempt session now op hub remote = (.error (.api e),
        ⟨hub.patched before, (next, cutAt before call e), cutAt before call e⟩) := by
  have transparent : attempt session now op hub remote =
      (((new hub remote).operate session now op).1,
        ((new hub remote).operate session now op).2.recorded) :=
    operate_recorded session now (new hub remote) op
  rw [transparent]
  rcases operate_cases session now (new hub remote) op with ⟨e, hp, he, hr⟩ |
    ⟨calls, next, hp, hr⟩ | ⟨before, call, after, e, next, hp, hr⟩ <;> rw [hr]
  · exact .inl ⟨e, hp, he, rfl⟩
  · refine .inr (.inl ⟨calls, next, hp, ?_⟩)
    rw [recorded_schedule]
    unfold recorded
    simp only [new, List.nil_append, filter_done]
  · refine .inr (.inr ⟨before, call, after, e, next, hp, ?_⟩)
    unfold recorded
    simp only [new, List.nil_append, List.filter_append, filter_done]
    rfl

/-- A willing session is asked for the whole plan, if there is one. -/
theorem made_attempt_willing {session : Session σ} (h : session.Willing) (now : Moment)
    (op : Operation) (hub : Hub) (remote : σ) :
    made (attempt session now op hub remote).2.remote.2 =
      (op.plan hub now).toOption.getD [] := by
  rcases attempt_cases session now op hub remote with ⟨e, hp, _, hr⟩ |
    ⟨calls, next, hp, hr⟩ | ⟨before, call, after, e, next, hp, hr⟩ <;> rw [hp]
  · rw [hr]
    rfl
  · rw [hr]
    exact made_done calls
  · have carried := carryOut_willing h.recorded (before ++ call :: after) (new hub (remote, []))
    unfold attempt at hr
    rw [operate_eq, show op.plan (new hub (remote, [])).hub now = _ from hp] at hr
    rcases hc : carryOut session.recorded (before ++ call :: after) (new hub (remote, [])) with
      ⟨_ | _, _⟩
    · rw [hc] at carried
      cases carried
    · simp only [hc] at hr
      cases hr

/-- Whatever calls fail, an operation makes calls of the plan in order and stops at the first that
fails; the error of that call is the answer. Any other error is found before the first call and
leaves the hub as it was. After an error nothing is scheduled. The same is so of an operation
carried out step by step. -/
theorem failing_calls_cut_operation (session : Session σ) {willing : Session τ}
    (never : willing.Willing) (now : Moment) (op : Operation) (hub : Hub) (remote : σ) (state : τ) :
    let run := attempt session now op hub remote
    let trace := run.2.remote.2
    let whole := (attempt willing now op hub state).2.remote.2
    made trace <+: made whole ∧
      (∀ event ∈ trace, event.call? ≠ none) ∧
      (∀ before event after, trace = before ++ event :: after → event.isFailedCall → after = []) ∧
      ((∀ event ∈ trace, event.isFailedCall = false) → made trace = made whole) ∧
      (∀ e, run.1 = .error (.api e) ↔ ∃ call, .called call (.error e) ∈ trace) ∧
      (∀ e, run.1 = .error e → (∀ a, e ≠ .api a) → trace = [] ∧ run.2.hub = hub) ∧
      (∀ e, run.1 = .error e → ∀ entity, .scheduled entity ∉ run.2.log) ∧
      run = op.flow session.recorded now (new hub (remote, [])) := by
  intro run trace whole
  have steps : run = op.flow session.recorded now (new hub (remote, [])) :=
    (flow_eq_operate session.recorded now op _).symm
  have asked : made whole = (op.plan hub now).toOption.getD [] :=
    made_attempt_willing never now op hub state
  suffices Truncated run.1 trace whole ∧
      ∀ e, run.1 = .error e → ((∀ a, e ≠ .api a) → trace = [] ∧ run.2.hub = hub) ∧
        ∀ entity, .scheduled entity ∉ run.2.log by
    obtain ⟨truncated, refused⟩ := this
    exact ⟨truncated.shorter, truncated.calls, truncated.stops, truncated.complete,
      truncated.reason, fun e h => (refused e h).1, fun e h => (refused e h).2, steps⟩
  rcases attempt_cases session now op hub remote with ⟨e, hp, he, hr⟩ |
    ⟨calls, next, hp, hr⟩ | ⟨before, call, after, e, next, hp, hr⟩ <;> rw [hp] at asked
  · have refused : run = (.error e, new hub (remote, [])) := hr
    have silent : trace = [] := congrArg (·.2.remote.2) refused
    rw [refused, silent]
    refine ⟨truncated_nil he asked, ?_⟩
    intro e' _
    constructor
    · intro _
      exact ⟨rfl, rfl⟩
    · intro entity
      exact List.not_mem_nil
  · have met : run.1 = .ok () := congrArg Prod.fst hr
    have whole : trace = calls.map .done := congrArg (·.2.remote.2) hr
    rw [met, whole]
    exact ⟨truncated_done asked, nofun⟩
  · have failed : run.1 = .error (.api e) := congrArg Prod.fst hr
    have cut : trace = cutAt before call e := congrArg (·.2.remote.2) hr
    have logged : run.2.log = cutAt before call e := congrArg (·.2.log) hr
    rw [failed, cut, logged]
    refine ⟨truncated_cutAt e asked, ?_⟩
    intro e' h
    constructor
    · intro other
      exact absurd (Except.error.inj h).symm (other e)
    · intro entity scheduled
      exact call?_of_mem_cutAt scheduled rfl

/-- The second of two calls fails: the quick mode is gone and not replaced. -/
theorem failing_calls_cut_replacement :
    let hub : Hub := { Hub.new 300 180 with
      snapshot := ⟨some { Installation.empty with quickMode := some .party }, 1⟩ }
    let run := attempt .lasting ⟨⟨738000⟩, .midnight⟩ (.request (.setQuickMode .systemOff)) hub 1
    Session.obliging.Willing ∧ run.1 = .error (.api (.transport "gone")) ∧
      made run.2.remote.2 <+: [.removeQuickMode, .setQuickMode .systemOff] ∧
      run.2.hub.snapshot.installation = some .empty := by
  intro hub run
  have cut := failing_calls_cut_operation .lasting willing_obliging ⟨⟨738000⟩, .midnight⟩
    (.request (.setQuickMode .systemOff)) hub 1 ()
  refine ⟨willing_obliging, (cut.2.2.2.2.1 _).2 ⟨.setQuickMode .systemOff, ?_⟩, cut.1, rfl⟩
  exact .tail _ (.head _)

end Site

end HeatingHub

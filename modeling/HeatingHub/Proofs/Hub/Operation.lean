import HeatingHub.Command
import HeatingHub.Proofs.Hub.Orderly
import HeatingHub.Proofs.Hub.Refusal

/-!
# Operations and what they leave

An operation is a request, a command, or the removal of overrides by itself. Each is planned before
its first call (`Operation.plan`), and `operate_cases` says all that can come of it: it was refused
and nothing happened, or every call of its plan succeeded, or the calls before one succeeded and
that one failed.
-/

namespace HeatingHub

open Calendar (Moment)

/-! ## Calls that succeed -/

/-- A call that succeeded. -/
abbrev Event.done (call : Call) : Event := .called call (.ok ())

/-- The hub once calls succeeded. -/
def Hub.patched (h : Hub) (calls : List Call) : Hub :=
  { h with snapshot := calls.foldl (fun s call => (s.apply call.patch).2) h.snapshot }

@[simp] theorem patched_nil (h : Hub) : h.patched [] = h := rfl

theorem patched_cons (h : Hub) (call : Call) (calls : List Call) :
    h.patched (call :: calls) = (h.patched [call]).patched calls := rfl

/-- The patches of orderly calls all land. -/
theorem snapshot_patched {h : Hub} {i : Installation} {calls : List Call}
    (hi : h.snapshot.installation = some i) (ho : Orderly i calls) :
    (h.patched calls).snapshot = ⟨some (i.following calls), h.snapshot.version + calls.length⟩ := by
  induction calls generalizing h i with
  | nil =>
    show h.snapshot = ⟨some i, h.snapshot.version⟩
    rw [← hi]
  | cons call calls ih =>
    have landed : (h.patched [call]).snapshot = ⟨some (call.effect i), h.snapshot.version + 1⟩ := by
      show (h.snapshot.apply call.patch).2 = _
      unfold Snapshot.apply
      rw [hi, Option.bind_some, applied?_patch ho.1.lands]
    rw [patched_cons, ih (by rw [landed]) ho.2, landed, List.length_cons,
      Installation.following_cons, Nat.add_assoc, Nat.add_comm 1]

namespace Site

variable {σ : Type} {session : Session σ} {site : Site σ} {call : Call} {remote : σ}

theorem carryOut_cons_ok (h : session.perform call site.remote = (.ok (), remote))
    (calls : List Call) : carryOut session (call :: calls) site =
      carryOut session calls ⟨site.hub.patched [call], remote, site.log ++ [.done call]⟩ := by
  rw [carryOut, h]
  rfl

theorem carryOut_cons_error {e : ApiError}
    (h : session.perform call site.remote = (.error e, remote)) (calls : List Call) :
    carryOut session (call :: calls) site =
      (.error (.api e), ⟨site.hub, remote, site.log ++ [.called call (.error e)]⟩) := by
  rw [carryOut, h]

/-- Carrying out calls ends after the last or at the first that fails. -/
theorem carryOut_cases (session : Session σ) (calls : List Call) (site : Site σ) :
    (∃ remote, carryOut session calls site =
      (.ok (), ⟨site.hub.patched calls, remote, site.log ++ calls.map .done⟩)) ∨
    ∃ before call after e remote, calls = before ++ call :: after ∧ carryOut session calls site =
      (.error (.api e), ⟨site.hub.patched before, remote,
        site.log ++ before.map .done ++ [.called call (.error e)]⟩) := by
  induction calls generalizing site with
  | nil => exact .inl ⟨site.remote, by rw [carryOut, List.map_nil, List.append_nil, patched_nil]⟩
  | cons call calls ih =>
    cases hp : session.perform call site.remote with
    | mk outcome remote =>
      cases outcome with
      | error e =>
        refine .inr ⟨[], call, calls, e, remote, rfl, ?_⟩
        rw [carryOut_cons_error hp, List.map_nil, List.append_nil, patched_nil]
      | ok _ =>
        rw [carryOut_cons_ok hp]
        rcases ih ⟨site.hub.patched [call], remote, site.log ++ [.done call]⟩ with
          ⟨remote, hc⟩ | ⟨before, failing, after, e, remote, rfl, hc⟩
        · exact .inl ⟨remote, by rw [hc, List.append_assoc]; rfl⟩
        · refine .inr ⟨call :: before, failing, after, e, remote, rfl, ?_⟩
          rw [hc, List.append_assoc site.log]
          rfl

theorem carryOut_append (session : Session σ) (calls more : List Call) (site : Site σ) :
    carryOut session (calls ++ more) site =
      match carryOut session calls site with
      | (.ok _, next) => carryOut session more next
      | (.error e, next) => (.error e, next) := by
  induction calls generalizing site with
  | nil => rfl
  | cons call calls ih =>
    rcases hp : session.perform call site.remote with ⟨e | _, remote⟩
    · rw [List.cons_append, carryOut_cons_error hp, carryOut_cons_error hp]
    · rw [List.cons_append, carryOut_cons_ok hp, carryOut_cons_ok hp, ih]

theorem hub_of_carryOut_ok {calls : List Call} {site next : Site σ} {u : Unit}
    (h : carryOut session calls site = (.ok u, next)) : next.hub = site.hub.patched calls := by
  rcases carryOut_cases session calls site with ⟨remote, hc⟩ | ⟨_, _, _, _, _, _, hc⟩
  · rw [hc] at h
    cases h
    rfl
  · rw [hc] at h
    cases h

end Site

/-! ## Sessions that do not fail -/

/-- The session carries out every call. -/
def Session.Willing {σ : Type} (session : Session σ) : Prop :=
  ∀ call state, (session.perform call state).1 = .ok ()

def Session.obliging : Session Unit where
  perform _ _ := (.ok (), ())
  requestUpdate _ := (.ok (), ())
  fetch _ := (.ok .empty, ())
  logout _ := (.ok (), ())

/-- A session that carries out every call and serves installations in turn. -/
def Session.serving : Session (List Installation) where
  perform _ remaining := (.ok (), remaining)
  requestUpdate remaining := (.ok (), remaining)
  fetch
    | [] => (.error (.transport "gone"), [])
    | i :: remaining => (.ok i, remaining)
  logout remaining := (.ok (), remaining)

/-- An installation of rooms with these numbers and names. -/
def Installation.ofRooms (rooms : List (String × String)) : Installation :=
  { Installation.empty with
    rooms := rooms.map fun (id, name) =>
      ⟨id, name, .empty, some 19, 20, .auto, none, false, false, []⟩ }

theorem willing_obliging : Session.obliging.Willing := fun _ _ => rfl

theorem Site.carryOut_willing {σ : Type} {session : Session σ} (h : session.Willing)
    (calls : List Call) (site : Site σ) : (carryOut session calls site).1 = .ok () := by
  induction calls generalizing site with
  | nil => rfl
  | cons call calls ih =>
    have outcome := h call site.remote
    rcases hp : session.perform call site.remote with ⟨e | _, remote⟩
    · rw [hp] at outcome
      cases outcome
    · rw [carryOut_cons_ok hp]
      exact ih _

/-! ## Operations -/

/-- Something that may change the remote installation. -/
inductive Operation where
  | request (request : Request)
  | command (command : Command)
  /-- Removes the override that hides changes of components of the kind. -/
  | clearOverrides (kind : Kind)

namespace Operation

/-- The request that a command or a request makes. -/
def request? : Operation → Option Request
  | request r => some r
  | command c => c.request?
  | clearOverrides _ => none

/-- The calls that the operation comes to. -/
def plan (h : Hub) (now : Moment) : Operation → Except HubError (List Call)
  | request r => h.plan now r
  | command c =>
    match c.request? with
    | some r => h.plan now r
    | none => h.installation.map fun _ => []
  | clearOverrides kind => h.installation.map fun i => (i.conflict kind now.date).toList

/-- The entities to render again once the calls of the operation succeeded. -/
def affected (h : Hub) (calls : List Call) (op : Operation) : List String :=
  match op.request? with
  | some r => h.affected calls r.entity?
  | none => []

end Operation

/-- Carries out an operation, leaving out its answer. -/
def Site.operate {σ : Type} (session : Session σ) (now : Moment) (site : Site σ) :
    Operation → Except HubError Unit × Site σ
  | .request r => ((site.submit session now r).1.map fun _ => (), (site.submit session now r).2)
  | .command c => ((site.execute session now c).1.map fun _ => (), (site.execute session now c).2)
  | .clearOverrides kind =>
    ((site.clearOverrides session now kind).1.map fun _ => (),
      (site.clearOverrides session now kind).2)

/-! ## Plans of operations -/

section Plans

variable {h : Hub} {now : Moment} {op : Operation} {calls : List Call}

theorem Operation.orderly_of_plan (hp : op.plan h now = .ok calls) :
    ∃ i, h.snapshot.installation = some i ∧ Orderly i calls := by
  have planned : ∀ r, h.plan now r = .ok calls →
      ∃ i, h.snapshot.installation = some i ∧ Orderly i calls := by
    intro r hr
    obtain ⟨i, hi, hc⟩ := planned_of_plan hr
    exact ⟨i, hi, hc.orderly⟩
  cases op with
  | request r => exact planned r hp
  | command c =>
    unfold Operation.plan at hp
    cases hr : c.request? with
    | some r =>
      simp only [hr] at hp
      exact planned r hp
    | none =>
      simp only [hr] at hp
      cases hi : h.installation with
      | error e => simp [hi, Except.map] at hp
      | ok i =>
        simp only [hi, Except.map, Except.ok.injEq] at hp
        subst hp
        exact ⟨i, installation_eq_ok.1 hi, trivial⟩
  | clearOverrides kind =>
    unfold Operation.plan at hp
    cases hi : h.installation with
    | error e => simp [hi, Except.map] at hp
    | ok i =>
      simp only [hi, Except.map, Except.ok.injEq] at hp
      subst hp
      exact ⟨i, installation_eq_ok.1 hi, i.orderly_conflict kind now.date⟩

theorem Operation.silent_plan (op : Operation) (h : Hub) (now : Moment) :
    Silent (op.plan h now) := by
  have cleared (calls : Installation → List Call) : Silent (h.installation.map calls) := by
    unfold Hub.installation
    cases h.snapshot.installation <;> exact nofun
  cases op with
  | request r => exact h.silent_plan now r
  | command c =>
    unfold Operation.plan
    simp only
    split
    · exact h.silent_plan now _
    · exact cleared _
  | clearOverrides kind => exact cleared _

end Plans

/-! ## Carrying operations out -/

namespace Site

variable {σ : Type}

@[simp] theorem schedule_nil (site : Site σ) : site.schedule [] = site := by
  show (⟨site.hub, site.remote, site.log ++ []⟩ : Site σ) = site
  rw [List.append_nil]

/-- Every operation is planned, carried out, and then announced. -/
theorem operate_eq (session : Session σ) (now : Moment) (site : Site σ) (op : Operation) :
    site.operate session now op =
      match op.plan site.hub now with
      | .error e => (.error e, site)
      | .ok calls =>
        match carryOut session calls site with
        | (.error e, site) => (.error e, site)
        | (.ok (), site) => (.ok (), site.schedule (op.affected site.hub calls)) := by
  have requested (r : Request) :
      ((site.submit session now r).1.map fun _ => (), (site.submit session now r).2) =
        match site.hub.plan now r with
        | .error e => (.error e, site)
        | .ok calls =>
          match carryOut session calls site with
          | (.error e, site) => (.error e, site)
          | (.ok (), site) => (.ok (), site.schedule (site.hub.affected calls r.entity?)) := by
    unfold submit
    cases site.hub.plan now r with
    | error e => rfl
    | ok calls =>
      rcases hc : carryOut session calls site with ⟨_ | _, _⟩ <;> simp only [hc, Except.map]
  cases op with
  | request r => exact requested r
  | command c =>
    unfold operate execute Operation.plan Operation.affected Operation.request?
    cases hr : c.request? with
    | some r =>
      simp only [hr]
      rw [← requested r]
      rcases site.submit session now r with ⟨_ | _, _⟩ <;> simp only [Except.map]
    | none =>
      simp only [hr, Hub.status]
      cases site.hub.installation with
      | error e => rfl
      | ok i => exact congrArg (Prod.mk _) (schedule_nil site).symm
  | clearOverrides kind =>
    unfold operate clearOverrides Operation.plan
    cases site.hub.installation with
    | error e => rfl
    | ok i =>
      rcases hc : carryOut session (i.conflict kind now.date).toList site with ⟨_ | _, next⟩
      · simp only [hc, Except.map]
      · simp only [hc, Except.map]
        exact congrArg (Prod.mk _) (schedule_nil next).symm

/-- All that can come of an operation. -/
theorem operate_cases (session : Session σ) (now : Moment) (site : Site σ) (op : Operation) :
    (∃ e, op.plan site.hub now = .error e ∧ (∀ a, e ≠ .api a) ∧
      site.operate session now op = (.error e, site)) ∨
    (∃ calls remote, op.plan site.hub now = .ok calls ∧ site.operate session now op =
      (.ok (), schedule ⟨site.hub.patched calls, remote, site.log ++ calls.map .done⟩
        (op.affected (site.hub.patched calls) calls))) ∨
    ∃ before call after e remote, op.plan site.hub now = .ok (before ++ call :: after) ∧
      site.operate session now op = (.error (.api e), ⟨site.hub.patched before, remote,
        site.log ++ before.map .done ++ [.called call (.error e)]⟩) := by
  rw [operate_eq]
  cases hp : op.plan site.hub now with
  | error e =>
    refine .inl ⟨e, rfl, ?_, rfl⟩
    intro a ha
    rw [ha] at hp
    exact op.silent_plan site.hub now a hp
  | ok calls =>
    rcases carryOut_cases session calls site with
      ⟨remote, hc⟩ | ⟨before, call, after, e, remote, rfl, hc⟩
    · exact .inr (.inl ⟨calls, remote, rfl, by simp only [hc]⟩)
    · exact .inr (.inr ⟨before, call, after, e, remote, rfl, by simp only [hc]⟩)

end Site

end HeatingHub

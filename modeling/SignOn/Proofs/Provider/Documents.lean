import SignOn.Proofs.Provider.Requests

/-!
# Documents that are got

What comes of asking for a document depends on little of a state: the document that is kept, the
outcomes of the requests to come, and the wall clock.  A document is got exactly when the request
can be made and its outcome is an answer that states one.
-/

namespace SignOn

structure Outlook where
  document : Option Metadata
  outcomes : List Http.Outcome
  wall : Int

def Outlook.outcome (outlook : Outlook) (n : Nat) : Http.Outcome :=
  outlook.outcomes.getD n State.noOutcome

namespace State

def outlook (state : State) : Outlook := ⟨state.document, state.outcomes, state.wall⟩

def asked (state : State) (request : Option Http.Request) : State :=
  { state with
    sent := state.sent ++ request.toList
    outcomes := state.outcomes.drop request.toList.length }

theorem asked_none (state : State) : state.asked none = state := by simp [asked]

theorem snd_send (state : State) (request : Http.Request) :
    (state.send request).2 = state.asked (some request) := by
  unfold send
  split
  next hnone => simp [asked, hnone]
  next outcome rest hsome => simp [asked, hsome]

theorem fst_send (state : State) (request : Http.Request) :
    (state.send request).1 = state.outlook.outcome 0 := by
  unfold send
  split
  next hnone => simp [outlook, Outlook.outcome, hnone]
  next outcome rest hsome => simp [outlook, Outlook.outcome, hsome]

end State

/-- An outcome is an answer that can be used: it is received, its status is one that is accepted,
and its body states a value. -/
def Brings {α : Type} (accepts : Nat → Prop) (model : Text) (read : Json → Record.Checked α)
    (request : Http.Request) (outcome : Http.Outcome) (value : α) : Prop :=
  ∃ answer, Http.receive request outcome = .ok answer ∧ accepts answer.status ∧
    readDocument model read answer = .ok value

theorem documentOf_eq_ok_iff {α : Type} {model : Text} {read : Json → Record.Checked α}
    {request : Http.Request} {outcome : Http.Outcome} {value : α} :
    documentOf model read request outcome = .ok value ↔
      Brings (Http.isSuccess ·) model read request outcome value := by
  unfold documentOf Brings
  cases Http.receive request outcome with
  | error fault => exact ⟨nofun, nofun⟩
  | ok answer =>
      change (if _ then _ else _ : Except DocumentFault α) = _ ↔ _
      by_cases hstatus : Http.isSuccess answer.status <;> simp [hstatus]

namespace Flow

variable {α β ε : Type} {state next last : State}

theorem run_bind_eq_ok_iff {flow : Flow α} {f : α → Flow β} {b : β} :
    (flow >>= f).run state = (.ok b, last) ↔
      ∃ a next, flow.run state = (.ok a, next) ∧ (f a).run next = (.ok b, last) := by
  rw [run_bind]
  rcases flow.run state with ⟨failure | a, next⟩
  · simp
  · constructor
    · exact fun h => ⟨a, next, rfl, h⟩
    · rintro ⟨_, _, ⟨⟩, h⟩
      exact h

theorem run_ofChecked_eq_ok_iff {failure : ε → Failure} {x : Except ε α} {a : α} :
    (ofChecked failure x).run state = (.ok a, next) ↔ x = .ok a ∧ next = state := by
  rw [run_ofChecked, Prod.mk.injEq, mapError_eq_ok_iff, eq_comm (a := state)]

theorem run_send_eq_ok_iff {request : Http.Request} {outcome : Http.Outcome} :
    (send request).run state = (.ok outcome, next) ↔
      outcome = state.outlook.outcome 0 ∧ next = state.asked (some request) := by
  change (Except.ok (state.send request).1, (state.send request).2) = _ ↔ _
  rw [Prod.mk.injEq, Except.ok.injEq, State.fst_send, State.snd_send, eq_comm (a := outcome),
    eq_comm (a := next)]

theorem run_fetch_eq_ok_iff {refusal : DocumentFault → Refusal} {model : Text}
    {read : Json → Record.Checked α} {request : Except Http.Fault Http.Request} {value : α} :
    (fetch refusal model read request).run state = (.ok value, next) ↔
      ∃ actual, request = .ok actual ∧
        Brings (Http.isSuccess ·) model read actual (state.outlook.outcome 0) value ∧
        next = state.asked (some actual) := by
  simp only [fetch, run_bind_eq_ok_iff, run_ofChecked_eq_ok_iff, run_send_eq_ok_iff,
    documentOf_eq_ok_iff]
  constructor
  · rintro ⟨actual, _, ⟨hrequest, rfl⟩, outcome, _, ⟨rfl, rfl⟩, hbrings, rfl⟩
    exact ⟨actual, hrequest, hbrings, rfl⟩
  · rintro ⟨actual, hrequest, hbrings, rfl⟩
    exact ⟨actual, state, ⟨hrequest, rfl⟩, _, _, ⟨rfl, rfl⟩, hbrings, rfl⟩

theorem snd_run_fetch {α : Type} (refusal : DocumentFault → Refusal) (model : Text)
    (read : Json → Record.Checked α) (request : Except Http.Fault Http.Request) (state : State) :
    ((fetch refusal model read request).run state).2 = state.asked request.toOption := by
  cases request with
  | error fault => exact (State.asked_none state).symm
  | ok request =>
      change ((ofChecked _ _).run (state.send request).2).2 = _
      rw [run_ofChecked]
      exact State.snd_send state request

end Flow

end SignOn

import SignOn.Proofs.Cache.Contents
import SignOn.Flow.Run

/-!
# The dialogue with the provider

Actions follow each other on one state.  What a call has said to the provider and been told since
it began is read off the state it began in and the one it has come to.
-/

namespace SignOn

def Action.requests : Action → List Http.Request
  | .send request => [request]
  | _ => []

namespace State

def dialogue (before after : State) : List (Http.Request × Http.Outcome) :=
  (after.sent.drop before.sent.length).zip before.outcomes

/-- A call that began in one state has come to another: it has sent requests and used up an outcome
for each. -/
def IsFollowedBy (before state : State) : Prop :=
  ∃ requests, state.sent = before.sent ++ requests ∧
    state.outcomes = before.outcomes.drop requests.length ∧ state.wall = before.wall

variable {before state : State}

theorem isFollowedBy_self (state : State) : state.IsFollowedBy state :=
  ⟨[], by simp, rfl, rfl⟩

theorem mem_dialogue {requests : List Http.Request} {request : Http.Request}
    {outcome : Http.Outcome} (h : state.sent = before.sent ++ requests) :
    (request, outcome) ∈ before.dialogue state ↔
      ∃ k : Nat, requests[k]? = some request ∧ before.outcomes[k]? = some outcome := by
  rw [dialogue, h, List.drop_left, List.mem_iff_getElem?]
  exact exists_congr fun k => List.getElem?_zip_eq_some

theorem send_isFollowedBy (h : before.IsFollowedBy state) (request : Http.Request) :
    before.IsFollowedBy (state.send request).2 ∧
      ((state.send request).1 = noOutcome ∨
        (request, (state.send request).1) ∈ before.dialogue (state.send request).2) := by
  obtain ⟨requests, hsent, houtcomes, hwall⟩ := h
  have hnext : (state.send request).2.sent = before.sent ++ (requests ++ [request]) := by
    rw [← List.append_assoc, ← hsent, send]
    split <;> rfl
  rw [mem_dialogue hnext]
  cases hleft : state.outcomes with
  | nil =>
      have hlength : before.outcomes.length ≤ requests.length :=
        List.drop_eq_nil_iff.mp (houtcomes ▸ hleft)
      have hnone : before.outcomes.drop (requests ++ [request]).length = [] := by
        rw [List.drop_eq_nil_iff, List.length_append]
        omega
      refine ⟨⟨requests ++ [request], hnext, ?_, ?_⟩, .inl ?_⟩
      · rw [hnone, send, hleft]
      · rw [send, hleft]
        exact hwall
      · rw [send, hleft]
  | cons outcome outcomes =>
      rw [hleft] at houtcomes
      have hhead : before.outcomes[requests.length]? = some outcome := by
        rw [← List.head?_drop, ← houtcomes, List.head?_cons]
      have htail : before.outcomes.drop (requests ++ [request]).length = outcomes := by
        rw [List.length_append, List.length_singleton, ← List.tail_drop, ← houtcomes,
          List.tail_cons]
      refine ⟨⟨requests ++ [request], hnext, ?_, ?_⟩, .inr ⟨requests.length, by simp, ?_⟩⟩
      · rw [htail, send, hleft]
      · rw [send, hleft]
        exact hwall
      · rw [send, hleft]
        exact hhead

theorem perform_isFollowedBy (h : before.IsFollowedBy state) (action : Action) :
    before.IsFollowedBy (state.perform action).2 := by
  cases action with
  | send request => exact (send_isFollowedBy h request).1
  | saveNonce nonce =>
      simp only [perform, saveNonce]
      split <;> exact h
  | deleteNonce row =>
      simp only [perform, deleteNonce]
      split <;> exact h
  | _ => exact h

theorem sent_perform (state : State) (action : Action) :
    (state.perform action).2.sent = state.sent ++ action.requests := by
  cases action with
  | send request =>
      simp only [perform, send, Action.requests]
      split <;> rfl
  | saveNonce nonce =>
      simp only [perform, saveNonce, Action.requests, List.append_nil]
      split <;> rfl
  | deleteNonce row =>
      simp only [perform, deleteNonce, Action.requests, List.append_nil]
      split <;> rfl
  | _ => exact (List.append_nil _).symm

theorem dialogue_perform (h : before.IsFollowedBy state) (action : Action)
    {request : Http.Request} {outcome : Http.Outcome}
    (hpair : (request, outcome) ∈ before.dialogue state) :
    (request, outcome) ∈ before.dialogue (state.perform action).2 := by
  obtain ⟨requests, hsent, -, -⟩ := h
  have hmore := sent_perform state action
  obtain ⟨k, hrequest, houtcome⟩ := (mem_dialogue hsent).mp hpair
  rw [hsent, List.append_assoc] at hmore
  refine (mem_dialogue hmore).mpr ⟨k, ?_, houtcome⟩
  rw [List.getElem?_append_left (List.getElem?_eq_some_iff.mp hrequest).1, hrequest]

theorem mem_identities_perform {state : State} {action : Action} {entry : Cache.Entry Identity}
    (h : entry ∈ (state.perform action).2.cache.identities.entries) :
    entry ∈ state.cache.identities.entries ∨
      action = .store entry.key entry.value ∧
        (state.store entry.key entry.value).1 = true := by
  cases action with
  | lookUp code => exact .inl (Cache.Shelf.mem_read h)
  | withdraw code => exact .inl (Cache.Shelf.mem_remove h)
  | store code identity =>
      rcases Cache.Shelf.mem_write h with hmem | ⟨htaken, rfl, rfl⟩
      · exact .inl hmem
      · exact .inr ⟨rfl, htaken⟩
  | send request => exact .inl (by simpa [perform] using h)
  | saveNonce nonce => exact .inl (by simpa [perform] using h)
  | deleteNonce row => exact .inl (by simpa [perform] using h)
  | _ => exact .inl h

end State

end SignOn

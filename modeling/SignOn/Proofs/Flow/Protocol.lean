import SignOn.Flow.Run

/-!
# Protocols of flows

A protocol says where an action with its answer takes a flow from where it stands.  That a flow
follows a protocol is said of the flow alone, for all answers that it could get; what the steps of
a protocol keep true of a state is true wherever a run of the flow ends.
-/

namespace SignOn

abbrev Protocol (σ : Type) := σ → (action : Action) → action.Answer → σ → Prop

namespace Flow

variable {σ α β : Type} {protocol : Protocol σ} {point : σ}
  {post goal : Except Failure α → σ → Prop}

/-- Every action of a flow, whatever is answered, is a step of the protocol from the point at which
it comes, and `post` holds of each result and the point at which the flow ends with it. -/
def Follows (protocol : Protocol σ) :
    Flow α → σ → (Except Failure α → σ → Prop) → Prop
  | .done result, point, post => post result point
  | .act action next, point, post =>
      ∀ answer, ∃ q, protocol point action answer q ∧ (next answer).Follows protocol q post

theorem Follows.mono {flow : Flow α} (h : flow.Follows protocol point post)
    (himp : ∀ result q, post result q → goal result q) : flow.Follows protocol point goal := by
  induction flow generalizing point with
  | done result => exact himp result point h
  | act action next ih =>
      intro answer
      obtain ⟨q, hstep, hrest⟩ := h answer
      exact ⟨q, hstep, ih answer hrest⟩

theorem Follows.perform_bind {action : Action} {f : action.Answer → Flow α}
    (h : ∀ answer, ∃ q, protocol point action answer q ∧ (f answer).Follows protocol q post) :
    (perform action >>= f).Follows protocol point post := h

theorem Follows.bind {flow : Flow α} {f : α → Flow β} {goal : Except Failure β → σ → Prop}
    (h : flow.Follows protocol point post)
    (hok : ∀ a q, post (.ok a) q → (f a).Follows protocol q goal)
    (herror : ∀ failure q, post (.error failure) q → goal (.error failure) q) :
    (flow >>= f).Follows protocol point goal := by
  induction flow generalizing point with
  | done result =>
      cases result with
      | ok a => exact hok a point h
      | error failure => exact herror failure point h
  | act action next ih =>
      intro answer
      obtain ⟨q, hstep, hrest⟩ := h answer
      exact ⟨q, hstep, ih answer hrest⟩

theorem Follows.ensuring {flow : Flow α} {action : Action}
    (h : flow.Follows protocol point fun result q =>
      ∀ answer, ∃ last, protocol q action answer last ∧ post result last) :
    (flow.ensuring action).Follows protocol point post := by
  induction flow generalizing point with
  | done result => exact h
  | act first next ih =>
      intro answer
      obtain ⟨q, hstep, hrest⟩ := h answer
      exact ⟨q, hstep, ih answer hrest⟩

/-- What holds where a flow starts, and is kept by every step of its protocol, holds where a run of
the flow ends. -/
theorem Follows.run {holds : σ → State → Prop} {flow : Flow α}
    (h : flow.Follows protocol point post)
    (hkept : ∀ point action state q, protocol point action (state.perform action).1 q →
      holds point state → holds q (state.perform action).2)
    {state : State} (hstart : holds point state) :
    ∃ q, post (flow.run state).1 q ∧ holds q (flow.run state).2 := by
  induction flow generalizing point state with
  | done result => exact ⟨point, h, hstart⟩
  | act action next ih =>
      obtain ⟨q, hstep, hrest⟩ := h (state.perform action).1
      exact ih _ hrest (hkept point action state q hstep hstart)

end Flow

end SignOn

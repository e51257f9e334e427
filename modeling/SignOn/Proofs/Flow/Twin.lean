import Mathlib.Data.List.Forall2
import SignOn.Flow.Run
import SignOn.Proofs.Cache.Values
import SignOn.Proofs.Failure.Likeness

/-!
# Twins

Answers of a provider are alike when nothing but the refresh token tells apart what their bodies
are read as.  States are alike when they differ in refresh tokens only.  Twins are flows that,
given answers that are alike, ask for the same actions and end alike, so that a run of each in
states that are alike leaves states that are alike.
-/

namespace SignOn

/-- Two objects that state a refresh token each and the same value for every other name. -/
structure Json.Fields.Alike (fields others : Json.Fields) : Prop where
  token : ∃ t ≠ [], fields.get? "refresh_token" = some (.str t)
  otherToken : ∃ t ≠ [], others.get? "refresh_token" = some (.str t)
  rest : ∀ name ≠ Text.ofString "refresh_token", fields.get? name = others.get? name

theorem Json.Fields.alike_set {fields : Json.Fields} {token : Text}
    (h : ∃ t ≠ [], fields.get? "refresh_token" = some (.str t)) (htoken : token ≠ []) :
    fields.Alike (Fields.set "refresh_token" (.str token) fields) where
  token := h
  otherToken := ⟨token, htoken, by rw [get?_set, if_pos rfl]⟩
  rest name hname := by rw [get?_set, if_neg hname]

inductive Json.Alike : Json → Json → Prop
  | same (value : Json) : Json.Alike value value
  | object {fields others : Json.Fields} (h : fields.Alike others) :
      Json.Alike (.obj fields) (.obj others)

namespace Http

/-- Answers with bodies that are read as the same, or as objects that differ in a refresh token. -/
structure Answer.ReadAlike (answer other : Answer) : Prop where
  status : answer.status = other.status
  headers : answer.headers = other.headers
  body : ResultsAlike Eq Json.Alike (Json.readBytes answer.body) (Json.readBytes other.body)

/-- Answers with success, or that the log takes or fails to take as texts in the same way. -/
def Answer.LoggedAlike (answer other : Answer) : Prop :=
  answer.status = 200 ∨ answer.checkText = other.checkText

structure Answer.Alike (answer other : Answer) : Prop extends answer.ReadAlike other where
  logged : answer.LoggedAlike other

inductive Outcome.Alike : Outcome → Outcome → Prop
  | answered {answer other : Answer} (h : answer.Alike other) :
      Outcome.Alike (.answered answer) (.answered other)
  | failed (message : Text) : Outcome.Alike (.failed message) (.failed message)
  | urlRefused (message : Text) : Outcome.Alike (.urlRefused message) (.urlRefused message)

end Http

def Identity.withoutToken (identity : Identity) : Identity := { identity with refreshToken := [] }

def Cache.withoutTokens (cache : Cache) : Cache :=
  { cache with identities := cache.identities.map Identity.withoutToken }

structure State.Alike (state other : State) : Prop where
  outcomes : List.Forall₂ Http.Outcome.Alike state.outcomes other.outcomes
  sent : state.sent = other.sent
  tokens : state.tokens = other.tokens
  wall : state.wall = other.wall
  clock : state.clock = other.clock
  document : state.document = other.document
  cache : state.cache.withoutTokens = other.cache.withoutTokens
  table : state.table = other.table

def Action.AnswersAlike : (action : Action) → action.Answer → action.Answer → Prop
  | .send _, outcome, other => Http.Outcome.Alike outcome other
  | .lookUp _, found, other => Option.map Identity.withoutToken found = other.map .withoutToken
  | .withdraw _, found, other => Option.map Identity.withoutToken found = other.map .withoutToken
  | _, answer, other => answer = other

namespace State

variable {state other : State}

theorem Alike.identities (h : state.Alike other) :
    state.cache.identities.map Identity.withoutToken =
      other.cache.identities.map Identity.withoutToken := congrArg Cache.identities h.cache

theorem Alike.markers (h : state.Alike other) : state.cache.markers = other.cache.markers :=
  (congrArg Cache.markers h.cache :)

theorem Alike.setIdentities (h : state.Alike other) {identities others : Cache.Shelf Identity}
    (hidentities : identities.map Identity.withoutToken = others.map Identity.withoutToken) :
    (state.setIdentities identities).Alike (other.setIdentities others) :=
  { h with cache := congrArg₂ Cache.mk hidentities h.markers }

theorem Alike.setMarkers (h : state.Alike other) {markers others : Cache.Shelf Unit}
    (hmarkers : markers = others) : (state.setMarkers markers).Alike (other.setMarkers others) :=
  { h with cache := congrArg₂ Cache.mk h.identities hmarkers }

theorem Alike.contains (h : state.Alike other) (code : Text) :
    state.cache.identities.contains state.clock code =
      other.cache.identities.contains other.clock code := by
  rw [← Cache.Shelf.contains_map Identity.withoutToken, h.identities, h.clock,
    Cache.Shelf.contains_map]

theorem Alike.phase (h : state.Alike other) (code : Text) :
    state.phase code = other.phase code := by
  rw [State.phase, State.phase, Cache.phase, Cache.phase, h.contains, h.markers, h.clock]

theorem Alike.send (h : state.Alike other) (request : Http.Request) :
    Http.Outcome.Alike (state.send request).1 (other.send request).1 ∧
      (state.send request).2.Alike (other.send request).2 := by
  have hsent := congrArg (· ++ [request]) h.sent
  have houtcomes := h.outcomes
  cases hstate : state.outcomes with
  | nil =>
      rw [hstate] at houtcomes
      have hother := List.forall₂_nil_left_iff.mp houtcomes
      simp only [State.send, hstate, hother]
      exact ⟨.failed _, { h with sent := hsent, outcomes := .nil }⟩
  | cons outcome rest =>
      rw [hstate] at houtcomes
      obtain ⟨first, others, hfirst, hrest, hother⟩ := List.forall₂_cons_left_iff.mp houtcomes
      simp only [State.send, hstate, hother]
      exact ⟨hfirst, { h with sent := hsent, outcomes := hrest }⟩

theorem Alike.exists_eq (h : state.Alike other) :
    ∃ outcomes cache, other = { state with outcomes, cache } := by
  obtain ⟨-, hsent, htokens, hwall, hclock, hdocument, -, htable⟩ := h
  refine ⟨other.outcomes, other.cache, ?_⟩
  rw [hsent, htokens, hwall, hclock, hdocument, htable]

theorem Alike.store (h : state.Alike other) (code : Text) {identity otherIdentity : Identity}
    (hidentity : identity.withoutToken = otherIdentity.withoutToken) :
    (state.store code identity).1 = (other.store code otherIdentity).1 ∧
      (state.store code identity).2.Alike (other.store code otherIdentity).2 := by
  obtain ⟨outcomes, cache, rfl⟩ := h.exists_eq
  obtain ⟨htaken, hidentities⟩ := Cache.Shelf.write_of_map h.identities hidentity
  exact ⟨htaken, h.setIdentities hidentities⟩

theorem Alike.perform (h : state.Alike other) (action : Action) :
    action.AnswersAlike (state.perform action).1 (other.perform action).1 ∧
      (state.perform action).2.Alike (other.perform action).2 := by
  obtain ⟨outcomes, cache, rfl⟩ := h.exists_eq
  cases action with
  | send request => exact h.send request
  | document => exact ⟨rfl, h⟩
  | keep document => exact ⟨rfl, { h with document := rfl }⟩
  | draw => exact ⟨rfl, { h with tokens := rfl }⟩
  | wallClock => exact ⟨rfl, h⟩
  | enter code => exact ⟨rfl, h⟩
  | leave code => exact ⟨rfl, h⟩
  | isExchanged code => exact ⟨h.contains code, h⟩
  | isMarked code =>
      have hmarked := congrArg (fun markers => markers.contains state.clock code) h.markers
      exact ⟨hmarked, h⟩
  | lookUp code =>
      obtain ⟨hfound, hidentities⟩ := Cache.Shelf.read_of_map h.identities
      exact ⟨hfound, h.setIdentities hidentities⟩
  | unmark code =>
      have hmarkers := congrArg (fun markers => (markers.remove state.clock code).2) h.markers
      exact ⟨rfl, h.setMarkers hmarkers⟩
  | store code identity => exact h.store code rfl
  | withdraw code =>
      obtain ⟨hfound, hidentities⟩ := Cache.Shelf.remove_of_map h.identities
      exact ⟨hfound, h.setIdentities hidentities⟩
  | mark code =>
      have hmarkers := congrArg (fun markers => (markers.write state.clock code ()).2) h.markers
      exact ⟨rfl, h.setMarkers hmarkers⟩
  | saveNonce nonce =>
      simp only [State.perform, State.saveNonce]
      cases state.table.save state.wall nonce with
      | error fault => exact ⟨rfl, h⟩
      | ok saved => exact ⟨rfl, { h with table := rfl }⟩
  | findNonce nonce => exact ⟨rfl, h⟩
  | deleteNonce row =>
      simp only [State.perform, State.deleteNonce]
      cases state.table.delete? row.nonce with
      | none => exact ⟨rfl, h⟩
      | some table => exact ⟨rfl, { h with table := rfl }⟩

end State

namespace Flow

variable {α β : Type} {like : α → α → Prop} {likeResult : β → β → Prop}

abbrev EndAlike (like : α → α → Prop) : Except Failure α → Except Failure α → Prop :=
  ResultsAlike Failure.Alike like

/-- The same actions, save that the identities to be stored may differ in their tokens. -/
inductive Twin (like : α → α → Prop) : Flow α → Flow α → Prop
  | done {result other : Except Failure α} (h : EndAlike like result other) :
      Twin like (.done result) (.done other)
  | act (action : Action) {next following : action.Answer → Flow α}
      (h : ∀ answer other, action.AnswersAlike answer other →
        Twin like (next answer) (following other)) :
      Twin like (.act action next) (.act action following)
  | store (code : Text) {identity other : Identity} {next following : Bool → Flow α}
      (hidentity : identity.withoutToken = other.withoutToken)
      (h : ∀ taken other, taken = other → Twin like (next taken) (following other)) :
      Twin like (.act (.store code identity) next) (.act (.store code other) following)

theorem Twin.pure {a b : α} (h : like a b) :
    Twin like (Pure.pure a : Flow α) (Pure.pure b) := .done (.ok h)

theorem Twin.fail (failure : Failure) : Twin like (fail failure) (fail failure) :=
  .done (.error (.refl failure))

theorem Twin.perform_bind {action : Action} {f g : action.Answer → Flow α}
    (h : ∀ answer other, action.AnswersAlike answer other → Twin like (f answer) (g other)) :
    Twin like (perform action >>= f) (perform action >>= g) := .act action h

theorem Twin.bind {flow other : Flow α} {f g : α → Flow β} (h : Twin like flow other)
    (hnext : ∀ a b, like a b → Twin likeResult (f a) (g b)) :
    Twin likeResult (flow >>= f) (other >>= g) := by
  induction h with
  | done hend =>
      cases hend with
      | ok hlike => exact hnext _ _ hlike
      | error halike => exact .done (.error halike)
  | act action h ih => exact .act action ih
  | store code hidentity h ih => exact .store code hidentity ih

theorem Twin.ensuring {flow other : Flow α} (h : Twin like flow other) (action : Action) :
    Twin like (flow.ensuring action) (other.ensuring action) := by
  induction h with
  | done hend => exact .act action fun _ _ _ => .done hend
  | act first h ih => exact .act first ih
  | store code hidentity h ih => exact .store code hidentity ih

/-- Twins that run in states that are alike end alike, in states that are alike. -/
theorem Twin.run {flow other : Flow α} (h : Twin like flow other) {state state' : State}
    (hstate : state.Alike state') :
    EndAlike like (flow.run state).1 (other.run state').1 ∧
      (flow.run state).2.Alike (other.run state').2 := by
  induction h generalizing state state' with
  | done hend => exact ⟨hend, hstate⟩
  | act action h ih =>
      obtain ⟨hanswer, hnext⟩ := hstate.perform action
      exact ih _ _ hanswer hnext
  | store code hidentity h ih =>
      obtain ⟨htaken, hnext⟩ := hstate.store code hidentity
      exact ih _ _ htaken hnext

end Flow

end SignOn

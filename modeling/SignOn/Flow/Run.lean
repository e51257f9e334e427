import SignOn.Flow.Basic

/-!
# Running flows one after another

The state that actions work on: the outcomes that requests will have, the requests sent so far,
the tokens to be drawn, two clocks, the document that is kept, the cache and the nonce table.
`Flow.run` carries a flow out from start to end.
-/

namespace SignOn

/-- A source of tokens gives those it holds, in order, and numbered ones after them. -/
structure TokenSource where
  given : List Text
  drawn : Nat
  deriving DecidableEq, Repr

namespace TokenSource

def ofList (tokens : List Text) : TokenSource := ⟨tokens, 0⟩

def numbered (n : Nat) : Text := "tok-" ++ Text.ofNat n

def draw (source : TokenSource) : Text × TokenSource :=
  ((source.given[source.drawn]?).getD (numbered (source.drawn + 1)),
    { source with drawn := source.drawn + 1 })

end TokenSource

structure State where
  outcomes : List Http.Outcome
  sent : List Http.Request
  tokens : TokenSource
  wall : Int
  clock : Ticks
  document : Option Metadata
  cache : Cache
  table : Nonce.Table
  deriving DecidableEq, Repr

namespace State

def noOutcome : Http.Outcome := .failed "no more responses"

def send (state : State) (request : Http.Request) : Http.Outcome × State :=
  let sent := state.sent ++ [request]
  match state.outcomes with
  | [] => (noOutcome, { state with sent })
  | outcome :: outcomes => (outcome, { state with sent, outcomes })

def draw (state : State) : Text × State :=
  let (token, tokens) := state.tokens.draw
  (token, { state with tokens })

def lookUp (state : State) (code : Text) : Option Identity × State :=
  let (identity, cache) := state.cache.get state.clock code
  (identity, { state with cache })

def setIdentities (state : State) (identities : Cache.Shelf Identity) : State :=
  { state with cache := { state.cache with identities } }

def setMarkers (state : State) (markers : Cache.Shelf Unit) : State :=
  { state with cache := { state.cache with markers } }

def unmark (state : State) (code : Text) : State :=
  state.setMarkers (state.cache.markers.remove state.clock code).2

def store (state : State) (code : Text) (identity : Identity) : Bool × State :=
  let (taken, identities) := state.cache.identities.write state.clock code identity
  (taken, state.setIdentities identities)

def withdraw (state : State) (code : Text) : Option Identity × State :=
  let (identity, identities) := state.cache.identities.remove state.clock code
  (identity, state.setIdentities identities)

def mark (state : State) (code : Text) : State :=
  state.setMarkers (state.cache.markers.write state.clock code ()).2

def saveNonce (state : State) (nonce : Text) : Except Nonce.Fault Unit × State :=
  match state.table.save state.wall nonce with
  | .error fault => (.error fault, state)
  | .ok (_, table) => (.ok (), { state with table })

def deleteNonce (state : State) (row : Nonce.Row) : Bool × State :=
  match state.table.delete? row.nonce with
  | none => (false, state)
  | some table => (true, { state with table })

/-- Carries out an action at once; a lock that is asked for is free. -/
def perform (state : State) : (action : Action) → action.Answer × State
  | .send request => state.send request
  | .document => (state.document, state)
  | .keep document => ((), { state with document })
  | .draw => state.draw
  | .wallClock => (state.wall, state)
  | .enter _ => ((), state)
  | .leave _ => ((), state)
  | .isExchanged code => (state.cache.identities.contains state.clock code, state)
  | .isMarked code => (state.cache.markers.contains state.clock code, state)
  | .lookUp code => state.lookUp code
  | .unmark code => ((), state.unmark code)
  | .store code identity => state.store code identity
  | .withdraw code => state.withdraw code
  | .mark code => ((), state.mark code)
  | .saveNonce nonce => state.saveNonce nonce
  | .findNonce nonce => (state.table.find nonce, state)
  | .deleteNonce row => state.deleteNonce row

def phase (state : State) (code : Text) : Phase := state.cache.phase state.clock code

@[simp] theorem cache_send (state : State) (request : Http.Request) :
    (state.send request).2.cache = state.cache := by
  unfold send
  split <;> rfl

@[simp] theorem clock_send (state : State) (request : Http.Request) :
    (state.send request).2.clock = state.clock := by
  unfold send
  split <;> rfl

@[simp] theorem cache_saveNonce (state : State) (nonce : Text) :
    (state.saveNonce nonce).2.cache = state.cache := by
  unfold saveNonce
  split <;> rfl

@[simp] theorem clock_saveNonce (state : State) (nonce : Text) :
    (state.saveNonce nonce).2.clock = state.clock := by
  unfold saveNonce
  split <;> rfl

@[simp] theorem cache_deleteNonce (state : State) (row : Nonce.Row) :
    (state.deleteNonce row).2.cache = state.cache := by
  unfold deleteNonce
  split <;> rfl

@[simp] theorem clock_deleteNonce (state : State) (row : Nonce.Row) :
    (state.deleteNonce row).2.clock = state.clock := by
  unfold deleteNonce
  split <;> rfl

end State

namespace Flow

variable {α β : Type}

def run : Flow α → State → Except Failure α × State
  | done result, state => (result, state)
  | act action next, state =>
      let (answer, state) := state.perform action
      (next answer).run state

@[simp] theorem run_done (result : Except Failure α) (state : State) :
    (done result).run state = (result, state) := rfl

theorem run_bind (flow : Flow α) (f : α → Flow β) (state : State) :
    (flow >>= f).run state =
      match flow.run state with
      | (.ok a, next) => (f a).run next
      | (.error failure, next) => (.error failure, next) := by
  induction flow generalizing state with
  | done result => cases result <;> rfl
  | act action next ih => exact ih _ _

theorem run_bind_of_ok {flow : Flow α} {f : α → Flow β} {state next : State} {a : α}
    (h : flow.run state = (.ok a, next)) : (flow >>= f).run state = (f a).run next := by
  rw [run_bind, h]

theorem run_bind_of_error {flow : Flow α} {f : α → Flow β} {state next : State}
    {failure : Failure} (h : flow.run state = (.error failure, next)) :
    (flow >>= f).run state = (.error failure, next) := by
  rw [run_bind, h]

theorem run_map (f : α → β) (flow : Flow α) (state : State) :
    (flow >>= fun a => pure (f a)).run state = ((flow.run state).1.map f, (flow.run state).2) := by
  rw [run_bind]
  rcases flow.run state with ⟨failure | a, next⟩ <;> rfl

theorem run_ensuring (action : Action) (flow : Flow α) (state : State) :
    (flow.ensuring action).run state =
      ((flow.run state).1, ((flow.run state).2.perform action).2) := by
  induction flow generalizing state with
  | done result => rfl
  | act first next ih => exact ih _ _

theorem run_keptDocument_bind (f : Option Metadata → Flow β) (state : State) :
    (keptDocument >>= f).run state = (f state.document).run state := rfl

/-! ## Operations of the cache

Run at one clock, they do what the cache itself does. -/

theorem run_isExchanged_bind (code : Text) (f : Bool → Flow β) (state : State) :
    (isExchanged code >>= f).run state =
      (f (state.cache.identities.contains state.clock code)).run state := rfl

theorem run_isMarked_bind (code : Text) (f : Bool → Flow β) (state : State) :
    (isMarked code >>= f).run state =
      (f (state.cache.markers.contains state.clock code)).run state := rfl

theorem run_withdraw_bind (code : Text) (f : Option Identity → Flow β) (state : State) :
    (withdraw code >>= f).run state =
      (f (state.withdraw code).1).run (state.withdraw code).2 := rfl

theorem run_phase (code : Text) (state : State) :
    (Flow.phase code).run state = (.ok (state.phase code), state) := by
  rw [Flow.phase, run_isExchanged_bind, State.phase, Cache.phase]
  split
  · rfl
  · rw [run_isMarked_bind]
    split <;> rfl

theorem run_store (code : Text) (identity : Identity) (state : State) :
    (Flow.store code identity).run state =
      (.ok (state.cache.put state.clock code identity).1,
        { state with cache := (state.cache.put state.clock code identity).2 }) := rfl

theorem run_take (code : Text) (state : State) :
    (Flow.take code).run state =
      (.ok (state.cache.take state.clock state.clock code).1,
        { state with cache := (state.cache.take state.clock state.clock code).2 }) := by
  rw [Flow.take, run_bind, run_phase, Cache.take, State.phase]
  cases state.cache.phase state.clock code with
  | initiated => rfl
  | redeemed => rfl
  | exchanged =>
      change (withdraw code >>= _).run state = _
      rw [run_withdraw_bind, State.withdraw]
      rcases hremove : state.cache.identities.remove state.clock code with
        ⟨_ | identity, identities⟩
      · have hsame : identities = state.cache.identities :=
          (congrArg Prod.snd hremove).symm.trans
            (Cache.Shelf.remove_snd_of_none (congrArg Prod.fst hremove))
        rw [hsame]
        rfl
      · rfl

end Flow

end SignOn

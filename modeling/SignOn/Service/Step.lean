import SignOn.Flow.Run
import SignOn.Service.Basic

/-!
# Steps of a service

What can happen to a service, one thing after another: a call, a look at the cache, time that
passes on either clock, a change to the table, other outcomes for the requests to come.
`Service.step` carries one out and gives its answer.
-/

namespace SignOn.Service

inductive Step where
  | authorize
  | exchange (code : Text)
  | redeem (code : Text)
  | saveNonce (nonce : Text)
  | peek (code : Text)
  | invalidate (code : Text)
  | advance (ticks : Ticks)
  | setWall (seconds : Int)
  | change (change : Nonce.Table.Change)
  | supply (outcomes : List Http.Outcome)
  deriving DecidableEq, Repr

inductive Result where
  | done
  | text (value : Text)
  | identity (found : Option Identity)
  | failed (failure : Failure)

def Result.ofRun : Except Failure Text → Result
  | .ok value => .text value
  | .error failure => .failed failure

def runCall (flow : Flow Text) (state : State) : Result × State :=
  let (result, state) := flow.run state
  (.ofRun result, state)

def step (client : Client) (state : State) : Step → Result × State
  | .authorize => runCall (Service.authorize client) state
  | .exchange code => runCall (Service.exchange client code) state
  | .redeem code => runCall (Service.redeem code) state
  | .saveNonce nonce => runCall (Service.saveNonce nonce) state
  | .peek code =>
      let (identity, state) := state.lookUp code
      (.identity identity, state)
  | .invalidate code =>
      (.done, { state with cache := state.cache.invalidate state.clock code })
  | .advance ticks => (.done, { state with clock := state.clock + ticks })
  | .setWall wall => (.done, { state with wall })
  | .change change => (.done, { state with table := state.table.apply change })
  | .supply outcomes => (.done, { state with outcomes })

def run (client : Client) (state : State) : List Step → List (Result × State)
  | [] => []
  | s :: rest =>
      let (result, next) := step client state s
      (result, next) :: run client next rest

end SignOn.Service

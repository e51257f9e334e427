import SignOn.Cache.Basic
import SignOn.Failure.Basic
import SignOn.Nonce.Table
import SignOn.Provider.Payload

/-!
# Flows

A flow is what a call does: it asks for one action after another, each with an answer that the
rest depends on, and ends in a result or a failure.  What an action does is not settled here, so
that a flow can be run alone or have other flows run between any two of its actions.
-/

namespace SignOn

inductive Action where
  | send (request : Http.Request)
  | document
  | keep (document : Metadata)
  | draw
  | wallClock
  | enter (code : Text)
  | leave (code : Text)
  | isExchanged (code : Text)
  | isMarked (code : Text)
  | lookUp (code : Text)
  | unmark (code : Text)
  | store (code : Text) (identity : Identity)
  /-- The identity of a code, which has none after that. -/
  | withdraw (code : Text)
  | mark (code : Text)
  | saveNonce (nonce : Text)
  | findNonce (nonce : Text)
  | deleteNonce (row : Nonce.Row)
  deriving DecidableEq, Repr

def Action.Answer : Action → Type
  | .send _ => Http.Outcome
  | .document => Option Metadata
  | .keep _ | .enter _ | .leave _ | .unmark _ | .mark _ => Unit
  | .draw => Text
  | .wallClock => Int
  | .isExchanged _ | .isMarked _ => Bool
  | .lookUp _ | .withdraw _ => Option Identity
  | .store _ _ => Bool
  | .saveNonce _ => Except Nonce.Fault Unit
  | .findNonce _ => Except Nonce.Fault (Option Nonce.Row)
  | .deleteNonce _ => Bool

/-- Another flow can run while one waits for the answer of such an action. -/
def Action.suspends : Action → Bool
  | .send _ | .enter _ | .saveNonce _ | .findNonce _ | .deleteNonce _ => true
  | _ => false

inductive Flow (α : Type) where
  | done (result : Except Failure α)
  | act (action : Action) (next : action.Answer → Flow α)

namespace Flow

variable {α β : Type}

def bind : Flow α → (α → Flow β) → Flow β
  | done (.ok a), f => f a
  | done (.error failure), _ => done (.error failure)
  | act action next, f => act action fun answer => (next answer).bind f

instance : Monad Flow where
  pure a := done (.ok a)
  bind := bind

def fail (failure : Failure) : Flow α := done (.error failure)

def refuse (refusal : Refusal) : Flow α := fail (.refused refusal)

def interrupt (interruption : Interruption) : Flow α := fail (.interrupted interruption)

def perform (action : Action) : Flow action.Answer := act action fun answer => done (.ok answer)

def ensuring (action : Action) : Flow α → Flow α
  | done result => act action fun _ => done result
  | act first next => act first fun answer => (next answer).ensuring action

def send (request : Http.Request) : Flow Http.Outcome := perform (.send request)
def keptDocument : Flow (Option Metadata) := perform .document
def keep (document : Metadata) : Flow Unit := perform (.keep document)
def draw : Flow Text := perform .draw
def wallClock : Flow Int := perform .wallClock
def enter (code : Text) : Flow Unit := perform (.enter code)
def isExchanged (code : Text) : Flow Bool := perform (.isExchanged code)
def isMarked (code : Text) : Flow Bool := perform (.isMarked code)
def lookUp (code : Text) : Flow (Option Identity) := perform (.lookUp code)
def withdraw (code : Text) : Flow (Option Identity) := perform (.withdraw code)
def mark (code : Text) : Flow Unit := perform (.mark code)
def saveNonce (nonce : Text) : Flow (Except Nonce.Fault Unit) := perform (.saveNonce nonce)
def findNonce (nonce : Text) : Flow (Except Nonce.Fault (Option Nonce.Row)) :=
  perform (.findNonce nonce)
def deleteNonce (row : Nonce.Row) : Flow Bool := perform (.deleteNonce row)

/-! ## Operations of the cache

Each action reads the clock of the cache once, so the clock may move in the middle of an
operation that takes several. -/

def phase (code : Text) : Flow Phase := do
  if ← isExchanged code then return .exchanged
  else if ← isMarked code then return .redeemed
  else return .initiated

def store (code : Text) (identity : Identity) : Flow Bool := do
  let _ ← perform (.unmark code)
  perform (.store code identity)

def take (code : Text) : Flow (Except Cache.TakeFault Identity) := do
  match ← phase code with
  | .redeemed => return .error .alreadyRedeemed
  | .initiated => return .error .notExchanged
  | .exchanged =>
      match ← withdraw code with
      | none => return .error .notExchanged
      | some identity =>
          mark code
          return .ok identity

@[simp] theorem pure_bind (a : α) (f : α → Flow β) : (pure a : Flow α) >>= f = f a := rfl

@[simp] theorem bind_pure (flow : Flow α) : flow >>= pure = flow := by
  induction flow with
  | done result => cases result <;> rfl
  | act action next ih => exact congrArg (act action) (funext ih)

theorem bind_assoc {γ : Type} (flow : Flow α) (f : α → Flow β) (g : β → Flow γ) :
    flow >>= f >>= g = flow >>= fun a => f a >>= g := by
  induction flow with
  | done result => cases result <;> rfl
  | act action next ih => exact congrArg (act action) (funext ih)

end Flow

end SignOn

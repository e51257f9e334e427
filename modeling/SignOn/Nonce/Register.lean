import SignOn.Nonce.Step

/-!
# A register of nonces

A nonce stands in a register with the time of its save, or it does not.  This is what a store does
for callers who give every operation a session of its own, told without rows, records and sessions.
-/

namespace SignOn.Nonce

structure Register where
  savedAt : Text → Option Int
  wall : Int
  hidden : Bool
  insertsFail : Bool
  deletesFail : Bool

/-- What callers ask for, and what happens from outside.  A nonce is looked up and what is found is
deleted in one session; it can also be tried to delete nothing. -/
inductive Request where
  | save (nonce : Text)
  | find (nonce : Text)
  | delete (nonce : Text)
  | deleteNothing
  | change (change : Table.Change)
  | setWall (seconds : Int)
  deriving DecidableEq, Repr

inductive Reply where
  | done
  | row (row : Option Row)
  | deleted
  | notSaved (fault : Fault)
  | notRead (fault : Fault)
  | notDeleted
  deriving DecidableEq, Repr

namespace Register

def start (wall : Int) : Register := ⟨fun _ => none, wall, false, false, false⟩

/-- Why nothing can be said of a nonce: nothing can be said of any, or this one has no form that
could be stored. -/
def fault? (register : Register) (nonce : Text) : Option Fault :=
  if register.hidden then some .refused
  else
    match Utf8.encodeStrict nonce with
    | .error fault => some (.notEncodable fault)
    | .ok _ => none

def set (register : Register) (nonce : Text) (time : Option Int) : Register :=
  { register with savedAt := fun other => if other = nonce then time else register.savedAt other }

def apply (register : Register) : Table.Change → Register
  | .hide => { register with hidden := true }
  | .restore => { register with hidden := false }
  | .failInserts insertsFail => { register with insertsFail }
  | .failDeletes deletesFail => { register with deletesFail }

def save (register : Register) (nonce : Text) : Reply × Register :=
  match register.fault? nonce with
  | some fault => (.notSaved fault, register)
  | none =>
      if (register.savedAt nonce).isNone && !register.insertsFail then
        (.row (some ⟨nonce, register.wall⟩), register.set nonce (some register.wall))
      else (.notSaved .refused, register)

def find (register : Register) (nonce : Text) : Reply :=
  match register.fault? nonce with
  | some fault => .notRead fault
  | none => .row ((register.savedAt nonce).map fun time => ⟨nonce, time⟩)

def delete (register : Register) (nonce : Text) : Reply × Register :=
  match register.fault? nonce with
  | some fault => (.notRead fault, register)
  | none =>
      if (register.savedAt nonce).isSome && !register.deletesFail then
        (.deleted, register.set nonce none)
      else (.notDeleted, register)

def step (register : Register) : Request → Reply × Register
  | .save nonce => register.save nonce
  | .find nonce => (register.find nonce, register)
  | .delete nonce => register.delete nonce
  | .deleteNothing => (.notDeleted, register)
  | .change change => (.done, register.apply change)
  | .setWall wall => (.done, { register with wall })

def run (register : Register) : List Request → List (Reply × Register)
  | [] => []
  | request :: rest =>
      let (reply, next) := register.step request
      (reply, next) :: next.run rest

end Register

end SignOn.Nonce

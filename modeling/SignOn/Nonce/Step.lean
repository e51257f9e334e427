import SignOn.Nonce.Session

/-!
# Steps of a nonce store

A store is a table with its sessions and a wall clock.  `Store.step` carries one operation of a
session out, or a change from outside, and gives the answer.
-/

namespace SignOn.Nonce

inductive Step where
  | save (nonce : Text) (name : Option Text)
  | find (nonce : Text) (name : Option Text)
  | deleteFound (nonce : Text)
  | deleteHeld (name : Text)
  | change (change : Table.Change)
  | setWall (seconds : Int)
  deriving DecidableEq, Repr

inductive Result where
  | done
  | found (record : Option Record)
  | deleted
  | notSaved (fault : Fault)
  | notRead (fault : Fault)
  | notDeleted
  deriving DecidableEq, Repr

structure Store where
  wall : Int
  sessions : Sessions
  deriving DecidableEq, Repr

namespace Store

def start (wall : Int) : Store := ⟨wall, .start⟩

def holdAs (sessions : Sessions) (name : Option Text) (record : Record) : Sessions :=
  match name with
  | none => sessions
  | some name => sessions.hold name record

def save (sessions : Sessions) (session : Option Text) (now : Int) (nonce : Text)
    (name : Option Text) : Result × Sessions :=
  match sessions.save session now nonce with
  | (.error fault, sessions) => (.notSaved fault, sessions)
  | (.ok record, sessions) => (.found (some record), holdAs sessions name record)

def find (sessions : Sessions) (session : Option Text) (nonce : Text) (name : Option Text) :
    Result × Sessions :=
  match sessions.find session nonce with
  | (.error fault, sessions) => (.notRead fault, sessions)
  | (.ok none, sessions) => (.found none, sessions)
  | (.ok (some record), sessions) => (.found (some record), holdAs sessions name record)

def delete (sessions : Sessions) (session : Option Text) (record : Option Record) :
    Result × Sessions :=
  let (deleted, sessions) := sessions.delete session record
  (if deleted then .deleted else .notDeleted, sessions)

def deleteFound (sessions : Sessions) (session : Option Text) (nonce : Text) :
    Result × Sessions :=
  match sessions.find session nonce with
  | (.error fault, sessions) => (.notRead fault, sessions)
  | (.ok record, sessions) => delete sessions session record

def step (store : Store) (session : Option Text) : Step → Result × Store
  | .save nonce name =>
      let (result, sessions) := save store.sessions session store.wall nonce name
      (result, { store with sessions })
  | .find nonce name =>
      let (result, sessions) := find store.sessions session nonce name
      (result, { store with sessions })
  | .deleteFound nonce =>
      let (result, sessions) := deleteFound store.sessions session nonce
      (result, { store with sessions })
  | .deleteHeld name =>
      let (result, sessions) := delete store.sessions session (store.sessions.held? name)
      (result, { store with sessions })
  | .change change =>
      let table := store.sessions.table.apply change
      (.done, { store with sessions := { store.sessions with table } })
  | .setWall wall => (.done, { store with wall })

def run (store : Store) : List (Option Text × Step) → List (Result × Store)
  | [] => []
  | (session, s) :: rest =>
      let (result, next) := store.step session s
      (result, next) :: next.run rest

end Store

end SignOn.Nonce

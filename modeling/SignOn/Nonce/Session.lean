import SignOn.Date
import SignOn.Nonce.Table

/-!
# Sessions with the nonce table

A record is a row as a session got it.  Open sessions have names; a step without a name has a
session of its own, which ends with the step.  A record that somebody holds belongs to its session
as long as that is open, and a session gives the record it already has without asking the table.
After a failure all records of a session are stale: they are read again before their next use.
-/

namespace SignOn.Nonce

structure Record where
  id : Nat
  row : Row
  /-- A record that was saved, and not read, has its time with a time zone. -/
  zoned : Bool
  owner : Option Text
  stale : Bool
  deriving DecidableEq, Repr

def Record.text (record : Record) : Text :=
  "<SSONonce(nonce=" ++ record.row.nonce.take 8 ++ "..., created_at=" ++
    Date.momentText record.row.createdAt ++ (if record.zoned then "+00:00" else "") ++ ")>"

structure Sessions where
  table : Table
  held : List (Text × Record)
  next : Nat
  deriving DecidableEq, Repr

namespace Sessions

def start : Sessions := ⟨.empty, [], 0⟩

def hold (sessions : Sessions) (name : Text) (record : Record) : Sessions :=
  { sessions with held := sessions.held.filter (fun entry => entry.1 ≠ name) ++ [(name, record)] }

def held? (sessions : Sessions) (name : Text) : Option Record :=
  (sessions.held.find? fun entry => entry.1 = name).map (·.2)

def mapHeld (sessions : Sessions) (change : Record → Record) : Sessions :=
  { sessions with held := sessions.held.map fun entry => (entry.1, change entry.2) }

def setRecord (sessions : Sessions) (record : Record) : Sessions :=
  sessions.mapHeld fun other => if other.id = record.id then record else other

def own? (sessions : Sessions) (session : Option Text) (nonce : Text) : Option Record :=
  match session with
  | none => none
  | some name =>
      (sessions.held.find? fun entry => entry.2.owner = some name && entry.2.row.nonce = nonce).map
        (·.2)

def spoil (sessions : Sessions) (session : Option Text) : Sessions :=
  match session with
  | none => sessions
  | some name =>
      sessions.mapHeld fun record =>
        if record.owner = some name then { record with stale := true } else record

def newRecord (sessions : Sessions) (session : Option Text) (row : Row) (zoned : Bool) :
    Record × Sessions :=
  (⟨sessions.next, row, zoned, session, false⟩, { sessions with next := sessions.next + 1 })

/-- Saves a nonce; what the session had for it before no longer belongs to it. -/
def save (sessions : Sessions) (session : Option Text) (now : Int) (nonce : Text) :
    Except Fault Record × Sessions :=
  match sessions.table.save now nonce with
  | .error fault => (.error fault, sessions.spoil session)
  | .ok (row, table) =>
      let sessions :=
        match sessions.own? session nonce with
        | none => sessions
        | some old => sessions.setRecord { old with owner := none }
      let (record, sessions) := { sessions with table }.newRecord session row true
      (.ok record, sessions)

def find (sessions : Sessions) (session : Option Text) (nonce : Text) :
    Except Fault (Option Record) × Sessions :=
  match sessions.own? session nonce with
  | some record =>
      if !record.stale then (.ok (some record), sessions)
      else
        match sessions.table.find nonce with
        | .error fault => (.error fault, sessions.spoil session)
        | .ok none => (.ok none, sessions.setRecord { record with owner := none })
        | .ok (some row) =>
            let record := { record with row, zoned := false, stale := false }
            (.ok (some record), sessions.setRecord record)
  | none =>
      match sessions.table.find nonce with
      | .error fault => (.error fault, sessions.spoil session)
      | .ok none => (.ok none, sessions)
      | .ok (some row) =>
          let (record, sessions) := sessions.newRecord session row false
          (.ok (some record), sessions)

/-- Whether a session can take a record in: the record belongs to no other session, and the
session has no other record of the nonce. -/
def accepts (sessions : Sessions) (session : Option Text) (record : Record) : Bool :=
  match record.owner with
  | some name => session = some name
  | none =>
      match sessions.own? session record.row.nonce with
      | none => true
      | some other => other.id = record.id

def deleteRow? (table : Table) (record : Record) : Option Table :=
  if record.stale && (table.row? record.row.nonce).isNone then none
  else table.delete? record.row.nonce

def delete (sessions : Sessions) (session : Option Text) :
    Option Record → Bool × Sessions
  | none => (false, sessions.spoil session)
  | some record =>
      if !sessions.accepts session record then (false, sessions.spoil session)
      else
        match deleteRow? sessions.table record with
        | none =>
            (false,
              (sessions.setRecord { record with owner := session, stale := true }).spoil session)
        | some table =>
            (true, { sessions with table }.setRecord { record with owner := none, stale := false })

end Sessions

end SignOn.Nonce

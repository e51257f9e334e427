import SignOn.Text.Utf8

/-!
# The table of outstanding nonces

A row is a nonce with the time of its save; no nonce has two rows.  The table can be hidden, and
inserts and deletes can be made to fail; rows outlast both.
-/

namespace SignOn.Nonce

structure Row where
  nonce : Text
  createdAt : Int
  deriving DecidableEq, Repr

structure Table where
  rows : List Row
  hidden : Bool := false
  insertsFail : Bool := false
  deletesFail : Bool := false
  deriving DecidableEq, Repr

/-- Why the table cannot be asked about a nonce, or does not take it: it refuses, or the nonce has
no form that could be stored. -/
inductive Fault where
  | refused
  | notEncodable (fault : Codec.EncodeFault)
  deriving DecidableEq, Repr

namespace Table

def empty : Table := { rows := [] }

def row? (table : Table) (nonce : Text) : Option Row :=
  table.rows.find? fun row => row.nonce = nonce

def nonces? (table : Table) : Option (List Text) :=
  if table.hidden then none else some ((table.rows.map (·.nonce)).mergeSort Text.le)

def reach (table : Table) (nonce : Text) : Except Fault Unit :=
  if table.hidden then .error .refused
  else ((Utf8.encodeStrict nonce).mapError .notEncodable).map fun _ => ()

def save (table : Table) (now : Int) (nonce : Text) : Except Fault (Row × Table) := do
  table.reach nonce
  if table.insertsFail || (table.row? nonce).isSome then .error .refused
  else
    let row : Row := ⟨nonce, now⟩
    .ok (row, { table with rows := table.rows ++ [row] })

def find (table : Table) (nonce : Text) : Except Fault (Option Row) := do
  table.reach nonce
  .ok (table.row? nonce)

/-- The table without a nonce.  One that is gone already is no fault. -/
def delete? (table : Table) (nonce : Text) : Option Table :=
  if table.hidden then none
  else if table.deletesFail && (table.row? nonce).isSome then none
  else some { table with rows := table.rows.filter fun row => row.nonce ≠ nonce }

inductive Change where
  | hide
  | restore
  | failInserts (fail : Bool)
  | failDeletes (fail : Bool)
  deriving DecidableEq, Repr

def apply (table : Table) : Change → Table
  | .hide => { table with hidden := true }
  | .restore => { table with hidden := false }
  | .failInserts insertsFail => { table with insertsFail }
  | .failDeletes deletesFail => { table with deletesFail }

end Table

end SignOn.Nonce

import SignOn.Nonce.Register
import SignOn.Proofs.Nonce.Held

/-!
# A store keeps a register

Where every operation has a session of its own, a store is a register: each step is answered with
what the register replies, and changes the times that its rows state as the register says.  A nonce
with a lone surrogate is in neither; it cannot be asked for, which is no refusal of the table.
-/

namespace SignOn.Nonce

def Request.step : Request → Step
  | .save nonce => .save nonce none
  | .find nonce => .find nonce none
  | .delete nonce => .deleteFound nonce
  | .deleteNothing => .deleteHeld []
  | .change what => .change what
  | .setWall wall => .setWall wall

def Result.reply : Result → Reply
  | .done => .done
  | .found record => .row (record.map (·.row))
  | .deleted => .deleted
  | .notSaved fault => .notSaved fault
  | .notRead fault => .notRead fault
  | .notDeleted => .notDeleted

variable {table next : Table} {sessions : Sessions} {nonce : Text} {row : Row} {wall : Int}

namespace Table

def register (table : Table) (wall : Int) : Register where
  savedAt nonce := (table.row? nonce).map (·.createdAt)
  wall := wall
  hidden := table.hidden
  insertsFail := table.insertsFail
  deletesFail := table.deletesFail

theorem register_apply (table : Table) (wall : Int) (change : Change) :
    (table.apply change).register wall = (table.register wall).apply change := by
  cases change <;> rfl

theorem reach_of_fault {fault : Fault} (h : (table.register wall).fault? nonce = some fault) :
    table.reach nonce = .error fault := by
  simp only [Register.fault?, register] at h
  unfold reach
  cases hhidden : table.hidden with
  | true => simp_all
  | false =>
      cases hencode : Utf8.encodeStrict nonce with
      | error cause =>
          obtain rfl : Fault.notEncodable cause = fault := by simpa [hhidden, hencode] using h
          rfl
      | ok bs => simp [hhidden, hencode] at h

theorem of_fault?_eq_none (h : (table.register wall).fault? nonce = none) :
    table.hidden = false ∧ table.reach nonce = .ok () := by
  simp only [Register.fault?, register] at h
  unfold reach
  cases hhidden : table.hidden with
  | true => simp [hhidden] at h
  | false =>
      cases hencode : Utf8.encodeStrict nonce with
      | error cause => simp [hhidden, hencode] at h
      | ok bs => exact ⟨rfl, rfl⟩

theorem register_set_save (h : table.save wall nonce = .ok (row, next)) :
    next.register wall = (table.register wall).set nonce (some wall) := by
  obtain ⟨rfl, -, rfl⟩ := of_save h
  simp only [register, Register.set, Register.mk.injEq, and_true]
  funext other
  rw [row?_save h]
  by_cases hother : other = nonce <;> simp [hother]

theorem register_set_delete? (h : table.delete? nonce = some next) :
    next.register wall = (table.register wall).set nonce none := by
  obtain rfl := of_delete? h
  simp only [register, Register.set, Register.mk.injEq, and_true]
  funext other
  rw [row?_delete? h]
  by_cases hother : other = nonce <;> simp [hother]

theorem register_save (table : Table) (wall : Int) (nonce : Text) :
    (table.register wall).save nonce =
      match table.save wall nonce with
      | .error fault => (.notSaved fault, table.register wall)
      | .ok (row, next) => (.row (some row), next.register wall) := by
  unfold Register.save
  cases hfault : (table.register wall).fault? nonce with
  | some fault =>
      have hsave : table.save wall nonce = .error fault := by
        rw [Table.save, reach_of_fault hfault]
        rfl
      rw [hsave]
  | none =>
      have hreach := (of_fault?_eq_none hfault).2
      by_cases hfree : table.row? nonce = none ∧ table.insertsFail = false
      · have hsave : table.save wall nonce =
            .ok (⟨nonce, wall⟩, { table with rows := table.rows ++ [⟨nonce, wall⟩] }) := by
          simp [Table.save, hreach, hfree, bind, Except.bind]
        rw [hsave]
        simp only [register_set_save hsave]
        simp [register, hfree]
      · have hsave : table.save wall nonce = .error .refused := by
          simp only [Table.save, hreach, bind, Except.bind]
          rw [if_pos]
          cases hrow : table.row? nonce <;> simp_all
        rw [hsave]
        simp [register, hfree]

theorem register_find (table : Table) (wall : Int) (nonce : Text) :
    (table.register wall).find nonce =
      match table.find nonce with
      | .error fault => .notRead fault
      | .ok found => .row found := by
  unfold Register.find Table.find
  cases hfault : (table.register wall).fault? nonce with
  | some fault =>
      rw [reach_of_fault hfault]
      rfl
  | none =>
      rw [(of_fault?_eq_none hfault).2]
      show _ = Reply.row (table.row? nonce)
      cases hrow : table.row? nonce with
      | none => simp [register, hrow]
      | some row =>
          obtain rfl := nonce_of_row? hrow
          simp [register, hrow]

theorem register_delete (table : Table) (wall : Int) (nonce : Text) :
    (table.register wall).delete nonce =
      match table.find nonce with
      | .error fault => (.notRead fault, table.register wall)
      | .ok none => (.notDeleted, table.register wall)
      | .ok (some _) =>
          match table.delete? nonce with
          | none => (.notDeleted, table.register wall)
          | some next => (.deleted, next.register wall) := by
  unfold Register.delete Table.find
  cases hfault : (table.register wall).fault? nonce with
  | some fault =>
      rw [reach_of_fault hfault]
      rfl
  | none =>
      obtain ⟨hhidden, hreach⟩ := of_fault?_eq_none hfault
      simp only [hreach, bind, Except.bind]
      cases hrow : table.row? nonce with
      | none => simp [register, hrow]
      | some row =>
          cases hfail : table.deletesFail with
          | true =>
              have hdelete : table.delete? nonce = none := by
                simp [Table.delete?, hhidden, hfail, hrow]
              simp [hdelete, register, hrow, hfail]
          | false =>
              have hdelete : table.delete? nonce =
                  some { table with rows := table.rows.filter fun row => row.nonce ≠ nonce } := by
                simp [Table.delete?, hhidden, hfail]
              simp only [hdelete, register_set_delete? hdelete]
              simp [register, hrow, hfail]

end Table

namespace Sessions

theorem setRecord_of_unheld (h : sessions.held = []) (record : Record) :
    sessions.setRecord record = sessions := by
  unfold setRecord mapHeld
  rw [h, List.map_nil, ← h]

theorem delete_of_unheld {record : Record} (howner : record.owner = none)
    (hstale : record.stale = false) (h : sessions.held = []) :
    sessions.delete none (some record) =
      match sessions.table.delete? record.row.nonce with
      | none => (false, sessions)
      | some table => (true, { sessions with table }) := by
  have haccepts : sessions.accepts none record = true := by simp [accepts, howner, own?]
  have hrow : deleteRow? sessions.table record = sessions.table.delete? record.row.nonce := by
    simp [deleteRow?, hstale]
  simp only [delete, haccepts, hrow]
  cases sessions.table.delete? record.row.nonce with
  | none => exact congrArg (false, ·) (setRecord_of_unheld h _)
  | some table =>
      have hnext : ({ sessions with table } : Sessions).held = [] := h
      exact congrArg (true, ·) (setRecord_of_unheld hnext _)

end Sessions

namespace Store

def register (store : Store) : Register := store.sessions.table.register store.wall

/-- An operation is answered as a register replies, leaves the table as the register is left, and
leaves nothing held. -/
structure Keeps (wall : Int) (answer : Result × Sessions) (kept : Reply × Register) : Prop where
  reply : answer.1.reply = kept.1
  table : answer.2.table.register wall = kept.2
  unheld : answer.2.held = []

theorem keeps_save (h : sessions.held = []) (wall : Int) (nonce : Text) :
    Keeps wall (save sessions none wall nonce none)
      ((sessions.table.register wall).save nonce) := by
  rw [Table.register_save]
  unfold save Sessions.save
  cases sessions.table.save wall nonce with
  | error fault => exact ⟨rfl, rfl, h⟩
  | ok saved => exact ⟨rfl, rfl, h⟩

theorem keeps_find (h : sessions.held = []) (wall : Int) (nonce : Text) :
    Keeps wall (find sessions none nonce none)
      ((sessions.table.register wall).find nonce, sessions.table.register wall) := by
  rw [Table.register_find]
  unfold find Sessions.find
  rcases sessions.table.find nonce with fault | (_ | row) <;> exact ⟨rfl, rfl, h⟩

theorem keeps_deleteFound (h : sessions.held = []) (wall : Int) (nonce : Text) :
    Keeps wall (deleteFound sessions none nonce)
      ((sessions.table.register wall).delete nonce) := by
  rw [Table.register_delete]
  unfold deleteFound Sessions.find
  rcases hfind : sessions.table.find nonce with fault | (_ | row)
  · exact ⟨rfl, rfl, h⟩
  · exact ⟨rfl, rfl, h⟩
  · have hnonce : row.nonce = nonce := Table.nonce_of_row? (Table.row?_of_find hfind).symm
    subst hnonce
    have hfound : (sessions.newRecord none row false).2.held = [] := h
    simp only [Sessions.own?, delete]
    rw [Sessions.delete_of_unheld rfl rfl hfound]
    cases hdelete : sessions.table.delete? row.nonce <;>
      simp only [Sessions.newRecord, hdelete] <;> exact ⟨rfl, rfl, h⟩

theorem keeps_step {store : Store} (h : store.sessions.held = []) (request : Request) :
    let answer := store.step none request.step
    Keeps answer.2.wall (answer.1, answer.2.sessions) (store.register.step request) := by
  cases request with
  | save nonce => exact keeps_save h store.wall nonce
  | find nonce => exact keeps_find h store.wall nonce
  | delete nonce => exact keeps_deleteFound h store.wall nonce
  | deleteNothing =>
      have hnothing : store.sessions.held? [] = none := by simp [Sessions.held?, h]
      simp only [Request.step, step, hnothing]
      exact ⟨rfl, rfl, h⟩
  | change what => exact ⟨rfl, Table.register_apply _ _ what, h⟩
  | setWall wall => exact ⟨rfl, rfl, h⟩

theorem register_run {store : Store} (h : store.sessions.held = []) (requests : List Request) :
    (store.run (requests.map fun request => (none, request.step))).map
        (fun answer => (answer.1.reply, answer.2.register)) =
      store.register.run requests := by
  induction requests generalizing store with
  | nil => rfl
  | cons request rest ih =>
      have hstep := keeps_step h request
      have hlater := ih hstep.unheld
      have hnext : (store.step none request.step).2.register = (store.register.step request).2 :=
        hstep.table
      rw [hnext] at hlater
      exact List.cons_eq_cons.mpr ⟨Prod.ext hstep.reply hnext, hlater⟩

/-- Whatever is asked of a store, each time in a session of its own, and whatever happens to it from
outside: it replies as a register does, and states the times that the register states. -/
theorem replies_as_register (wall : Int) (requests : List Request) :
    ((start wall).run (requests.map fun request => (none, request.step))).map
        (fun answer => (answer.1.reply, answer.2.register)) =
      (Register.start wall).run requests :=
  register_run rfl requests

/-- A nonce that is a lone surrogate is not saved in a table that takes all others, and to look it
up neither finds nothing nor is refused. -/
theorem not_always_saved_or_refused :
    (¬ ∀ (wall : Int) (nonce : Text),
      ∃ record, ((start wall).step none (.save nonce none)).1 = .found (some record)) ∧
    ¬ ∀ (wall : Int) (nonce : Text),
      ((start wall).step none (.find nonce none)).1 = .found none ∨
        ((start wall).step none (.find nonce none)).1 = .notRead .refused := by
  refine ⟨fun hclaim => ?_, fun hclaim => ?_⟩
  · obtain ⟨record, hrecord⟩ := hclaim 0 [CodePoint.ofNat 0xD800]
    contradiction
  · rcases hclaim 0 [CodePoint.ofNat 0xD800] with hnone | hrefused
    · contradiction
    · contradiction

end Store

end SignOn.Nonce

import SignOn.Nonce.Step
import SignOn.Proofs.Nonce.Table

/-!
# Records that are held

A record is known by its number and its nonce, whoever holds it.  What is known after a step was
known before it, or it is a record that the step itself has just got from the table: then its number
is new, and its nonce has a row.
-/

namespace SignOn.Nonce

namespace Sessions

variable {sessions : Sessions} {session : Option Text} {nonce : Text} {record : Record} {id : Nat}

/-- Somebody holds the record of that number, which is one of the nonce. -/
def Knows (sessions : Sessions) (id : Nat) (nonce : Text) : Prop :=
  ∃ entry ∈ sessions.held, entry.2.id = id ∧ entry.2.row.nonce = nonce

def IsNumbered (sessions : Sessions) : Prop :=
  ∀ id nonce, sessions.Knows id nonce → id < sessions.next

theorem knows_of_held? {name : Text} (h : sessions.held? name = some record) :
    sessions.Knows record.id record.row.nonce := by
  obtain ⟨entry, hfind, rfl⟩ := Option.map_eq_some_iff.mp h
  exact ⟨entry, List.mem_of_find?_eq_some hfind, rfl, rfl⟩

theorem of_own? (h : sessions.own? session nonce = some record) :
    record.row.nonce = nonce ∧ sessions.Knows record.id nonce := by
  cases session with
  | none => contradiction
  | some name =>
      obtain ⟨entry, hfind, rfl⟩ := Option.map_eq_some_iff.mp h
      have hentry := List.find?_some hfind
      simp only [Bool.and_eq_true, decide_eq_true_eq] at hentry
      exact ⟨hentry.2, entry, List.mem_of_find?_eq_some hfind, rfl, hentry.2⟩

theorem knows_hold {name : Text} (h : (sessions.hold name record).Knows id nonce) :
    sessions.Knows id nonce ∨ record.id = id ∧ record.row.nonce = nonce := by
  obtain ⟨entry, hentry, hid, hnonce⟩ := h
  rcases List.mem_append.mp hentry with hold | hnew
  · exact .inl ⟨entry, (List.mem_filter.mp hold).1, hid, hnonce⟩
  · rw [List.mem_singleton] at hnew
    subst hnew
    exact .inr ⟨hid, hnonce⟩

theorem knows_spoil (h : (sessions.spoil session).Knows id nonce) : sessions.Knows id nonce := by
  cases session with
  | none => exact h
  | some name =>
      obtain ⟨entry, hentry, hid, hnonce⟩ := h
      obtain ⟨old, hold, rfl⟩ := List.mem_map.mp hentry
      refine ⟨old, hold, ?_⟩
      by_cases howner : old.2.owner = some name <;> simp_all

theorem knows_setRecord
    (hrecord : sessions.Knows record.id record.row.nonce ∨
      ∀ other, ¬ sessions.Knows record.id other)
    (h : (sessions.setRecord record).Knows id nonce) : sessions.Knows id nonce := by
  obtain ⟨entry, hentry, hid, hnonce⟩ := h
  obtain ⟨old, hold, rfl⟩ := List.mem_map.mp hentry
  by_cases hsame : old.2.id = record.id
  · rcases hrecord with hknown | hunknown
    · simp only [hsame, if_true] at hid hnonce
      rw [← hid, ← hnonce]
      exact hknown
    · exact absurd ⟨old, hold, hsame, rfl⟩ (hunknown old.2.row.nonce)
  · simp only [hsame, if_false] at hid hnonce
    exact ⟨old, hold, hid, hnonce⟩

theorem knows_setRecord_self (record : Record) {other : Text}
    (h : sessions.Knows record.id other) :
    (sessions.setRecord record).Knows record.id record.row.nonce := by
  obtain ⟨entry, hentry, hid, -⟩ := h
  exact ⟨(entry.1, record), List.mem_map.mpr ⟨entry, hentry, by simp [hid]⟩, rfl, rfl⟩

@[simp] theorem table_spoil : (sessions.spoil session).table = sessions.table := by
  cases session <;> rfl

@[simp] theorem next_spoil : (sessions.spoil session).next = sessions.next := by
  cases session <;> rfl

structure Precedes (before after : Sessions) : Prop where
  next : before.next ≤ after.next
  knows : ∀ id nonce, after.Knows id nonce → before.Knows id nonce

/-- A record of a nonce that an operation gives: it was held already and is still, or it is new and
its nonce has a row. -/
structure Obtains (before after : Sessions) (nonce : Text) (record : Record) : Prop where
  names : record.row.nonce = nonce
  origin : before.Knows record.id nonce ∧ after.Knows record.id nonce ∨
    record.id = before.next ∧ record.id < after.next ∧ (after.table.row? nonce).isSome

def IsSaved (before : Sessions) (now : Int) (nonce : Text) : Except Fault Record × Sessions → Prop
  | (.error _, after) => before.Precedes after ∧ after.table = before.table
  | (.ok record, after) => before.Precedes after ∧ before.Obtains after nonce record ∧
      before.table.save now nonce = .ok (record.row, after.table)

def IsFound (before : Sessions) (nonce : Text) : Except Fault (Option Record) × Sessions → Prop
  | (.error _, after) | (.ok none, after) => before.Precedes after ∧ after.table = before.table
  | (.ok (some record), after) => before.Precedes after ∧ after.table = before.table ∧
      before.Obtains after nonce record ∧ record.stale = false

structure IsDeleted (before : Sessions) (record : Record) (result : Bool × Sessions) : Prop where
  deleted : result.1 = true → deleteRow? before.table record = some result.2.table
  kept : result.1 = false → result.2.table = before.table

theorem Precedes.trans {first second third : Sessions} (h : first.Precedes second)
    (hnext : second.Precedes third) : first.Precedes third :=
  ⟨Nat.le_trans h.next hnext.next,
    fun id nonce hknows => h.knows id nonce (hnext.knows id nonce hknows)⟩

theorem precedes_self (sessions : Sessions) : sessions.Precedes sessions :=
  ⟨Nat.le_refl _, fun _ _ h => h⟩

theorem precedes_spoil (sessions : Sessions) (session : Option Text) :
    sessions.Precedes (sessions.spoil session) := ⟨by simp, fun _ _ => knows_spoil⟩

theorem precedes_setRecord
    (hrecord : sessions.Knows record.id record.row.nonce ∨
      ∀ other, ¬ sessions.Knows record.id other) :
    sessions.Precedes (sessions.setRecord record) :=
  ⟨Nat.le_refl _, fun _ _ => knows_setRecord hrecord⟩

theorem isSaved_save (sessions : Sessions) (session : Option Text) (now : Int) (nonce : Text) :
    sessions.IsSaved now nonce (sessions.save session now nonce) := by
  unfold save
  cases hsave : sessions.table.save now nonce with
  | error fault => exact ⟨precedes_spoil sessions session, table_spoil⟩
  | ok saved =>
      obtain ⟨row, table⟩ := saved
      have hrow : (table.row? nonce).isSome := by
        rw [Table.row?_save hsave, if_pos rfl]
        rfl
      have hnonce : row.nonce = nonce := by rw [(Table.of_save hsave).1]
      cases hown : sessions.own? session nonce with
      | none =>
          exact ⟨⟨Nat.le_succ _, fun _ _ h => h⟩, ⟨hnonce, .inr ⟨rfl, Nat.lt_succ_self _, hrow⟩⟩,
            hsave⟩
      | some old =>
          obtain ⟨hold, hknown⟩ := of_own? hown
          have hprecedes : sessions.Precedes (sessions.setRecord { old with owner := none }) :=
            precedes_setRecord (.inl (hold ▸ hknown))
          exact ⟨⟨Nat.le_succ _, hprecedes.knows⟩,
            ⟨hnonce, .inr ⟨rfl, Nat.lt_succ_self _, hrow⟩⟩, hsave⟩

theorem isFound_find (sessions : Sessions) (session : Option Text) (nonce : Text) :
    sessions.IsFound nonce (sessions.find session nonce) := by
  unfold find
  cases hown : sessions.own? session nonce with
  | none =>
      cases hfind : sessions.table.find nonce with
      | error fault => exact ⟨precedes_spoil sessions session, table_spoil⟩
      | ok found =>
          have hrow := Table.row?_of_find hfind
          cases found with
          | none => exact ⟨precedes_self sessions, rfl⟩
          | some row =>
              have hnew : (sessions.table.row? nonce).isSome := by simp [← hrow]
              exact ⟨⟨Nat.le_succ _, fun _ _ h => h⟩, rfl,
                ⟨Table.nonce_of_row? hrow.symm, .inr ⟨rfl, Nat.lt_succ_self _, hnew⟩⟩, rfl⟩
  | some record =>
      obtain ⟨hrecord, hknown⟩ := of_own? hown
      cases hstale : record.stale with
      | false =>
          simp only [hstale, Bool.not_false, if_true]
          exact ⟨precedes_self sessions, rfl, ⟨hrecord, .inl ⟨hknown, hknown⟩⟩, hstale⟩
      | true =>
          simp only [hstale, Bool.not_true, Bool.false_eq_true, if_false]
          cases hfind : sessions.table.find nonce with
          | error fault => exact ⟨precedes_spoil sessions session, table_spoil⟩
          | ok found =>
              have hrow := Table.row?_of_find hfind
              cases found with
              | none => exact ⟨precedes_setRecord (.inl (hrecord ▸ hknown)), rfl⟩
              | some row =>
                  have hnonce := Table.nonce_of_row? hrow.symm
                  have hset : sessions.Precedes (sessions.setRecord
                      { record with row, zoned := false, stale := false }) :=
                    precedes_setRecord (.inl (hnonce ▸ hknown))
                  have hstill := knows_setRecord_self
                    { record with row, zoned := false, stale := false } hknown
                  exact ⟨hset, rfl, ⟨hnonce, .inl ⟨hknown, hnonce ▸ hstill⟩⟩, rfl⟩

theorem table_find (sessions : Sessions) (session : Option Text) (nonce : Text) :
    (sessions.find session nonce).2.table = sessions.table := by
  have hfound := isFound_find sessions session nonce
  rcases hrun : sessions.find session nonce with ⟨fault | _ | record, after⟩
  · exact (hrun ▸ hfound).2
  · exact (hrun ▸ hfound).2
  · exact (hrun ▸ hfound).2.1

theorem isDeleted_delete (sessions : Sessions) (session : Option Text) (record : Record) :
    sessions.IsDeleted record (sessions.delete session (some record)) := by
  simp only [delete]
  split
  · exact ⟨nofun, fun _ => table_spoil⟩
  · cases hdelete : deleteRow? sessions.table record with
    | none => exact ⟨nofun, fun _ => table_spoil⟩
    | some table => exact ⟨fun _ => hdelete, nofun⟩

theorem precedes_delete (session : Option Text)
    (hrecord : sessions.Knows record.id record.row.nonce ∨
      ∀ other, ¬ sessions.Knows record.id other) :
    sessions.Precedes (sessions.delete session (some record)).2 := by
  simp only [delete]
  split
  · exact precedes_spoil sessions session
  · cases deleteRow? sessions.table record with
    | none =>
        have hset : sessions.Precedes
            (sessions.setRecord { record with owner := session, stale := true }) :=
          precedes_setRecord hrecord
        exact hset.trans (precedes_spoil _ session)
    | some table =>
        have hset : sessions.Precedes
            (sessions.setRecord { record with owner := none, stale := false }) :=
          precedes_setRecord hrecord
        exact ⟨hset.next, hset.knows⟩

end Sessions

end SignOn.Nonce

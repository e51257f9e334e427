import SignOn.Proofs.Nonce.Held

/-!
# Deleting a nonce twice

A deletion asks for no row, so that sessions which hold records of one nonce can all delete it.  All
that is certain is that whoever deletes a nonce again, with no save in between, got hold of its
record before the first deletion.  A record that is looked up afresh is deleted once.
-/

namespace SignOn.Nonce

open Sessions (deleteRow?)

namespace Store

structure Transition where
  before : Store
  session : Option Text
  step : Step
  result : Result
  after : Store

def Transition.make (store : Store) (session : Option Text) (s : Step) : Transition :=
  ⟨store, session, s, (store.step session s).1, (store.step session s).2⟩

def history (store : Store) : List (Option Text × Step) → List Transition
  | [] => []
  | (session, s) :: rest =>
      let t := Transition.make store session s
      t :: history t.after rest

namespace Transition

def target? (t : Transition) : Option Record :=
  match t.step with
  | .deleteHeld name => t.before.sessions.held? name
  | .deleteFound nonce =>
      match (t.before.sessions.find t.session nonce).1 with
      | .ok found => found
      | .error _ => none
  | _ => none

def Deletes (t : Transition) (record : Record) : Prop :=
  t.target? = some record ∧ t.result = .deleted

def Saves (t : Transition) (nonce : Text) : Prop :=
  ∃ name record, t.step = .save nonce name ∧ t.result = .found (some record)

end Transition

variable {store : Store} {session : Option Text} {s : Step} {nonce : Text} {record : Record}

/-! ## One step -/

structure Advances (before after : Sessions) : Prop where
  next : before.next ≤ after.next
  knows : ∀ id nonce, after.Knows id nonce →
    before.Knows id nonce ∨ id < after.next ∧ (after.table.row? nonce).isSome

theorem advances_of_precedes {before after : Sessions} (h : before.Precedes after) :
    Advances before after := ⟨h.next, fun id nonce hknows => .inl (h.knows id nonce hknows)⟩

theorem Advances.isNumbered {before after : Sessions} (h : Advances before after)
    (hnumbered : before.IsNumbered) : after.IsNumbered := by
  intro id nonce hknows
  rcases h.knows id nonce hknows with hold | hnew
  · exact Nat.lt_of_lt_of_le (hnumbered id nonce hold) h.next
  · exact hnew.1

theorem advances_holdAs {before after : Sessions} (h : before.Precedes after)
    (hobtains : before.Obtains after nonce record) (name : Option Text) :
    Advances before (holdAs after name record) := by
  cases name with
  | none => exact advances_of_precedes h
  | some name =>
      refine ⟨h.next, fun id other hknows => ?_⟩
      rcases Sessions.knows_hold hknows with hold | ⟨rfl, rfl⟩
      · exact .inl (h.knows id other hold)
      · rw [hobtains.names]
        exact hobtains.origin.imp And.left And.right

theorem knows_or_unknown {before after : Sessions} (hnumbered : before.IsNumbered)
    (h : before.Precedes after) (hobtains : before.Obtains after nonce record) :
    after.Knows record.id record.row.nonce ∨ ∀ other, ¬ after.Knows record.id other := by
  rw [hobtains.names]
  refine hobtains.origin.imp And.right fun hnew other hknows => ?_
  have hlt := hnumbered _ _ (h.knows _ _ hknows)
  omega

theorem precedes_deleteFound (hnumbered : store.sessions.IsNumbered) (session : Option Text)
    (nonce : Text) :
    store.sessions.Precedes (deleteFound store.sessions session nonce).2 := by
  have hfound := Sessions.isFound_find store.sessions session nonce
  unfold deleteFound
  rcases hrun : store.sessions.find session nonce with ⟨fault | found, after⟩
  · rw [hrun] at hfound
    exact hfound.1
  · rw [hrun] at hfound
    cases found with
    | none => exact hfound.1.trans (Sessions.precedes_spoil after session)
    | some record =>
        obtain ⟨hprecedes, -, hobtains, -⟩ := hfound
        exact hprecedes.trans
          (Sessions.precedes_delete session (knows_or_unknown hnumbered hprecedes hobtains))

theorem advances_save (sessions : Sessions) (session : Option Text) (now : Int) (nonce : Text)
    (name : Option Text) : Advances sessions (save sessions session now nonce name).2 := by
  have hsaved := Sessions.isSaved_save sessions session now nonce
  unfold save
  rcases hrun : sessions.save session now nonce with ⟨fault | record, after⟩
  · rw [hrun] at hsaved
    exact advances_of_precedes hsaved.1
  · rw [hrun] at hsaved
    exact advances_holdAs hsaved.1 hsaved.2.1 name

theorem advances_find (sessions : Sessions) (session : Option Text) (nonce : Text)
    (name : Option Text) : Advances sessions (find sessions session nonce name).2 := by
  have hfound := Sessions.isFound_find sessions session nonce
  unfold find
  rcases hrun : sessions.find session nonce with ⟨fault | _ | record, after⟩
  · rw [hrun] at hfound
    exact advances_of_precedes hfound.1
  · rw [hrun] at hfound
    exact advances_of_precedes hfound.1
  · rw [hrun] at hfound
    exact advances_holdAs hfound.1 hfound.2.2.1 name

theorem advances_step (hnumbered : store.sessions.IsNumbered) (session : Option Text) (s : Step) :
    Advances store.sessions (store.step session s).2.sessions := by
  cases s with
  | save nonce name => exact advances_save store.sessions session store.wall nonce name
  | find nonce name => exact advances_find store.sessions session nonce name
  | deleteFound nonce => exact advances_of_precedes (precedes_deleteFound hnumbered session nonce)
  | deleteHeld name =>
      refine advances_of_precedes ?_
      simp only [step, delete]
      cases hheld : store.sessions.held? name with
      | none => exact Sessions.precedes_spoil store.sessions session
      | some record =>
          exact Sessions.precedes_delete session (.inl (Sessions.knows_of_held? hheld))
  | change change => exact ⟨Nat.le_refl _, fun _ _ h => .inl h⟩
  | setWall seconds => exact ⟨Nat.le_refl _, fun _ _ h => .inl h⟩

/-! ## Rows -/

theorem of_deleteRow? {table next : Table} (h : deleteRow? table record = some next) :
    table.delete? record.row.nonce = some next ∧
      (table.row? record.row.nonce = none → record.stale = false) := by
  unfold deleteRow? at h
  split at h
  · contradiction
  next hrow => exact ⟨h, fun hnone => by simpa [hnone] using hrow⟩

@[simp] theorem table_holdAs (sessions : Sessions) (name : Option Text) (record : Record) :
    (holdAs sessions name record).table = sessions.table := by
  cases name <;> rfl

theorem table_find (sessions : Sessions) (session : Option Text) (nonce : Text)
    (name : Option Text) : (find sessions session nonce name).2.table = sessions.table := by
  have htable := Sessions.table_find sessions session nonce
  unfold find
  rcases hrun : sessions.find session nonce with ⟨fault | _ | record, after⟩
  · rwa [hrun] at htable
  · rwa [hrun] at htable
  · rw [hrun] at htable
    exact (table_holdAs after name record).trans htable

theorem row?_delete_of_none {sessions : Sessions} (session : Option Text) (held : Option Record)
    (hnone : sessions.table.row? nonce = none) :
    (delete sessions session held).2.table.row? nonce = none := by
  cases held with
  | none => simpa [delete, Sessions.delete] using hnone
  | some record =>
      have hdelete := Sessions.isDeleted_delete sessions session record
      change (sessions.delete session (some record)).2.table.row? nonce = none
      cases hresult : (sessions.delete session (some record)).1 with
      | false => rwa [hdelete.kept hresult]
      | true =>
          obtain ⟨hrows, -⟩ := of_deleteRow? (hdelete.deleted hresult)
          rw [Table.row?_delete? hrows, hnone, ite_self]

theorem row?_step_of_none (hnone : store.sessions.table.row? nonce = none)
    (hsaves : ¬ (Transition.make store session s).Saves nonce) :
    (store.step session s).2.sessions.table.row? nonce = none := by
  cases s with
  | save other name =>
      have hsaved := Sessions.isSaved_save store.sessions session store.wall other
      have hresult : (save store.sessions session store.wall other name).1 =
          (Transition.make store session (.save other name)).result := rfl
      simp only [step, save] at hresult ⊢
      rcases hrun : store.sessions.save session store.wall other with ⟨fault | record, after⟩
      · rw [hrun] at hsaved
        rwa [← hsaved.2] at hnone
      · rw [hrun] at hsaved hresult
        have hne : nonce ≠ other := by
          rintro rfl
          exact hsaves ⟨name, record, rfl, hresult.symm⟩
        simp only [table_holdAs, Table.row?_save hsaved.2.2, if_neg hne, hnone]
  | find other name =>
      change (find store.sessions session other name).2.table.row? nonce = none
      rwa [table_find]
  | deleteFound other =>
      have htable := Sessions.table_find store.sessions session other
      simp only [step, deleteFound]
      rcases hrun : store.sessions.find session other with ⟨fault | found, after⟩
      · rw [hrun] at htable
        rwa [← htable] at hnone
      · rw [hrun] at htable
        rw [← htable] at hnone
        exact row?_delete_of_none session found hnone
  | deleteHeld name => exact row?_delete_of_none session _ hnone
  | change change => cases change <;> exact hnone
  | setWall seconds => exact hnone

theorem of_delete_eq_deleted {sessions : Sessions}
    (h : (delete sessions session (some record)).1 = .deleted) :
    (delete sessions session (some record)).2.table.row? record.row.nonce = none ∧
      (sessions.table.row? record.row.nonce = none → record.stale = false) := by
  have hdelete := Sessions.isDeleted_delete sessions session record
  cases hresult : (sessions.delete session (some record)).1 with
  | false => simp [delete, hresult] at h
  | true =>
      obtain ⟨hrows, hstale⟩ := of_deleteRow? (hdelete.deleted hresult)
      refine ⟨?_, hstale⟩
      change (sessions.delete session (some record)).2.table.row? record.row.nonce = none
      rw [Table.row?_delete? hrows, if_pos rfl]

theorem of_deletes (h : (Transition.make store session s).Deletes record) :
    (store.step session s).2.sessions.table.row? record.row.nonce = none ∧
      (store.sessions.table.row? record.row.nonce = none →
        store.sessions.Knows record.id record.row.nonce ∧ record.stale = false) := by
  obtain ⟨htarget, hresult⟩ := h
  cases s with
  | deleteHeld name =>
      have hheld : store.sessions.held? name = some record := htarget
      have hstep : store.step session (.deleteHeld name) =
          ((delete store.sessions session (some record)).1,
            { store with sessions := (delete store.sessions session (some record)).2 }) := by
        simp only [step, hheld]
      simp only [Transition.make, hstep] at hresult
      obtain ⟨hgone, hstale⟩ := of_delete_eq_deleted hresult
      rw [hstep]
      exact ⟨hgone, fun hnone => ⟨Sessions.knows_of_held? hheld, hstale hnone⟩⟩
  | deleteFound nonce =>
      have hfound := Sessions.isFound_find store.sessions session nonce
      rcases hrun : store.sessions.find session nonce with ⟨fault | found, after⟩
      · simp [Transition.target?, Transition.make, hrun] at htarget
      · obtain rfl : found = some record := by
          simpa [Transition.target?, Transition.make, hrun] using htarget
        rw [hrun] at hfound
        obtain ⟨-, htable, hobtains, hfresh⟩ := hfound
        have hstep : store.step session (.deleteFound nonce) =
            ((delete after session (some record)).1,
              { store with sessions := (delete after session (some record)).2 }) := by
          simp only [step, deleteFound, hrun]
        simp only [Transition.make, hstep] at hresult
        obtain ⟨hgone, -⟩ := of_delete_eq_deleted hresult
        rw [hstep]
        refine ⟨hgone, fun hnone => ⟨?_, hfresh⟩⟩
        rcases hobtains.origin with hknown | hnew
        · rw [hobtains.names]
          exact hknown.1
        · rw [htable, ← hobtains.names, hnone] at hnew
          simp at hnew
  | _ => contradiction

/-! ## Histories -/

/-- A nonce has no row, and only those hold a record of it who held it at an earlier time. -/
structure IsDrained (earlier : Store) (nonce : Text) (store : Store) : Prop where
  numbered : store.sessions.IsNumbered
  row : store.sessions.table.row? nonce = none
  knows : ∀ id, store.sessions.Knows id nonce → earlier.sessions.Knows id nonce

theorem IsDrained.step {earlier : Store} (h : IsDrained earlier nonce store)
    (hsaves : ¬ (Transition.make store session s).Saves nonce) :
    IsDrained earlier nonce (store.step session s).2 := by
  have hadvances := advances_step h.numbered session s
  have hrow := row?_step_of_none h.row hsaves
  refine ⟨hadvances.isNumbered h.numbered, hrow, fun id hknows => ?_⟩
  rcases hadvances.knows id nonce hknows with hold | hnew
  · exact h.knows id hold
  · simp [hrow] at hnew

theorem IsDrained.of_deletes (hnumbered : store.sessions.IsNumbered)
    (h : (Transition.make store session s).Deletes record) :
    IsDrained store record.row.nonce (store.step session s).2 := by
  have hadvances := advances_step hnumbered session s
  obtain ⟨hrow, -⟩ := Store.of_deletes h
  refine ⟨hadvances.isNumbered hnumbered, hrow, fun id hknows => ?_⟩
  rcases hadvances.knows id record.row.nonce hknows with hold | hnew
  · exact hold
  · simp [hrow] at hnew

section Histories

variable {steps : List (Option Text × Step)} {i j : Nat} {t u : Transition}

theorem IsDrained.history {earlier : Store} (h : IsDrained earlier nonce store)
    (hu : (store.history steps)[j]? = some u)
    (hsaves : ∀ k < j, ∀ v, (store.history steps)[k]? = some v → ¬ v.Saves nonce) :
    IsDrained earlier nonce u.before ∧ u = .make u.before u.session u.step := by
  induction steps generalizing store j with
  | nil => contradiction
  | cons first rest ih =>
      cases j with
      | zero =>
          obtain rfl := Option.some.inj hu
          exact ⟨h, rfl⟩
      | succ j =>
          have hfirst := hsaves 0 (Nat.succ_pos j) _ rfl
          exact ih (h.step hfirst) hu fun k hk v hv => hsaves (k + 1) (Nat.succ_lt_succ hk) v hv

theorem knows_of_deletes_again (hnumbered : store.sessions.IsNumbered) {first second : Record}
    (hij : i < j) (ht : (store.history steps)[i]? = some t)
    (hu : (store.history steps)[j]? = some u) (hfirst : t.Deletes first)
    (hsecond : u.Deletes second) (hnonce : second.row.nonce = first.row.nonce)
    (hsaves : ∀ k, i < k → k < j → ∀ v, (store.history steps)[k]? = some v →
      ¬ v.Saves first.row.nonce) :
    t.before.sessions.Knows second.id first.row.nonce ∧ second.stale = false := by
  induction steps generalizing store i j with
  | nil => contradiction
  | cons s rest ih =>
      obtain ⟨j, rfl⟩ := Nat.exists_eq_add_one_of_ne_zero (Nat.ne_zero_of_lt hij)
      cases i with
      | zero =>
          obtain rfl := Option.some.inj ht
          have hdrained := (IsDrained.of_deletes hnumbered hfirst).history hu
            fun k hk v hv => hsaves (k + 1) (Nat.succ_pos k) (Nat.succ_lt_succ hk) v hv
          obtain ⟨hlater, hmake⟩ := hdrained
          rw [hmake] at hsecond
          obtain ⟨-, hknows⟩ := of_deletes hsecond
          rw [hnonce] at hknows
          obtain ⟨hknown, hfresh⟩ := hknows hlater.row
          exact ⟨hlater.knows second.id hknown, hfresh⟩
      | succ i =>
          have hnext := (advances_step hnumbered s.1 s.2).isNumbered hnumbered
          exact ih hnext (Nat.lt_of_succ_lt_succ hij) ht hu fun k hik hkj v hv =>
            hsaves (k + 1) (Nat.succ_lt_succ hik) (Nat.succ_lt_succ hkj) v hv

/-- Between two deletions of one nonce it is saved, or else the record of the second was held
already when the first came, and its session has not failed since. -/
theorem saved_or_held_between_deletions (wall : Int) {first second : Record} (hij : i < j)
    (ht : ((start wall).history steps)[i]? = some t)
    (hu : ((start wall).history steps)[j]? = some u) (hfirst : t.Deletes first)
    (hsecond : u.Deletes second) (hnonce : second.row.nonce = first.row.nonce) :
    (∃ k v, i < k ∧ k < j ∧ ((start wall).history steps)[k]? = some v ∧
      v.Saves first.row.nonce) ∨
    t.before.sessions.Knows second.id first.row.nonce ∧ second.stale = false := by
  have hnumbered : (start wall).sessions.IsNumbered := by
    rintro id nonce ⟨entry, hentry, -⟩
    contradiction
  refine Classical.or_iff_not_imp_left.mpr fun hnone => ?_
  exact knows_of_deletes_again hnumbered hij ht hu hfirst hsecond hnonce
    fun k hik hkj v hv hsave => hnone ⟨k, v, hik, hkj, hv, hsave⟩

end Histories

/-! ## Two sessions that delete one nonce -/

def twoSessions : List (Option Text × Step) := [
  (none, .save "n" none),
  (some "A", .find "n" (some "r")),
  (some "B", .find "n" (some "s")),
  (some "A", .deleteHeld "r"),
  (some "B", .deleteHeld "s")]

def foundRecord (id : Nat) (session : Text) : Record where
  id := id
  row := ⟨"n", 0⟩
  zoned := false
  owner := some session
  stale := false

theorem deletes_of_twoSessions :
    ∃ t u, ((start 0).history twoSessions)[3]? = some t ∧
      ((start 0).history twoSessions)[4]? = some u ∧
      t.Deletes (foundRecord 1 "A") ∧ u.Deletes (foundRecord 2 "B") := by
  refine ⟨_, _, rfl, rfl, ⟨?_, ?_⟩, ?_, ?_⟩ <;> decide +kernel

theorem not_saved_between_deletions :
    ¬ ∀ (wall : Int) (steps : List (Option Text × Step)) (i j : Nat) (t u : Transition)
      (first second : Record), i < j →
      ((start wall).history steps)[i]? = some t → ((start wall).history steps)[j]? = some u →
      t.Deletes first → u.Deletes second → second.row.nonce = first.row.nonce →
      ∃ k v, i < k ∧ k < j ∧ ((start wall).history steps)[k]? = some v ∧
        v.Saves first.row.nonce := by
  intro hclaim
  obtain ⟨t, u, ht, hu, hfirst, hsecond⟩ := deletes_of_twoSessions
  obtain ⟨k, v, hik, hkj, -⟩ :=
    hclaim 0 twoSessions 3 4 t u _ _ (by decide) ht hu hfirst hsecond rfl
  omega

theorem held_in_twoSessions :
    ∃ t, ((start 0).history twoSessions)[3]? = some t ∧ t.result = .deleted ∧
      t.before.sessions.Knows 2 "n" := by
  obtain ⟨t, u, ht, hu, hfirst, hsecond⟩ := deletes_of_twoSessions
  rcases saved_or_held_between_deletions 0 (by decide) ht hu hfirst hsecond rfl with
    ⟨k, v, hik, hkj, -⟩ | ⟨hknows, -⟩
  · omega
  · exact ⟨t, ht, hfirst.2, hknows⟩

end Store

end SignOn.Nonce

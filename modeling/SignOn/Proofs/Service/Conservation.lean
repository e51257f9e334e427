import Mathlib.Data.List.Perm.Subperm
import SignOn.Proofs.Service.Alone
import SignOn.Proofs.Service.Release

/-!
# Where the nonces go

Every nonce that is saved is either stored still or was spent by a redemption that succeeded, as
often as it was saved.  A step does one of three things to the table: it saves a nonce that was not
there, it spends one that was, or it leaves all rows as they are.  The count of a whole history is
the sum of these.
-/

namespace SignOn.Service

namespace Transition

def saved? (t : Transition) : Option Text :=
  match t.step, t.result with
  | .authorize, .text _ => some t.before.secondToken
  | .saveNonce nonce, .text _ => some nonce
  | _, _ => none

/-- The nonce of the identity that the code of a redemption stood for, if the redemption
succeeded. -/
def spent? (t : Transition) : Option Text :=
  match t.step, t.result with
  | .redeem code, .text _ => (t.before.lookUp code).1.map (·.nonce)
  | _, _ => none

def isRelease (t : Transition) : Bool :=
  match t.step, t.result with
  | .redeem _, .text _ => true
  | _, _ => false

inductive Accounts (t : Transition) : Prop
  | saves (nonce : Text) (row : Nonce.Row) (hsaved : t.saved? = some nonce)
      (hspent : t.spent? = none)
      (htable : t.before.table.save t.before.wall nonce = .ok (row, t.after.table))
  | spends (nonce : Text) (row : Nonce.Row) (hsaved : t.saved? = none)
      (hspent : t.spent? = some nonce) (hrow : t.before.table.row? nonce = some row)
      (htable : t.before.table.delete? nonce = some t.after.table)
  | keeps (hsaved : t.saved? = none) (hspent : t.spent? = none)
      (hrows : t.after.table.rows = t.before.table.rows)

end Transition

def saves (past : List Transition) : List Text := past.flatMap fun t => t.saved?.toList

def spends (past : List Transition) : List Text := past.flatMap fun t => t.spent?.toList

def stored (table : Nonce.Table) (nonce : Text) : Nat := if (table.row? nonce).isSome then 1 else 0

section Steps

variable {client : Client} {state : State} {t : Transition}

theorem make_of_runCall {s : Step} (flow : Flow Text)
    (h : step client state s = runCall flow state) :
    Transition.make client state s =
      ⟨state, s, .ofRun (flow.run state).1, (flow.run state).2⟩ := by
  rw [Transition.make, h]
  rfl

theorem table_of_failed_run {s : Step} {failure : Failure} (flow : Flow Text)
    (hstep : step client state s = runCall flow state)
    (hkept : ∀ fault after, flow.run state = (.error fault, after) → after.table = state.table)
    (h : (Transition.make client state s).result = .failed failure) :
    (Transition.make client state s).after.table = state.table := by
  rw [make_of_runCall flow hstep] at h ⊢
  rcases hend : flow.run state with ⟨fault | value, after⟩
  · exact hkept fault after hend
  · rw [hend] at h
    contradiction

theorem table_of_failed {s : Step} {failure : Failure}
    (h : (Transition.make client state s).result = .failed failure) :
    (Transition.make client state s).after.table = state.table := by
  cases s with
  | authorize =>
      have hrun := isAuthorized_run client state
      refine table_of_failed_run (authorize client) rfl (fun fault after hend => ?_) h
      rwa [hend] at hrun
  | exchange code => exact table_run_exchange client code state
  | redeem code =>
      have hrun := isRedeemed_run code state
      refine table_of_failed_run (redeem code) rfl (fun fault after hend => ?_) h
      rwa [hend] at hrun
  | saveNonce nonce =>
      refine table_of_failed_run (saveNonce nonce) rfl (fun fault after hend => ?_) h
      rw [run_saveNonce] at hend
      split at hend
      · exact congrArg State.table (congrArg Prod.snd hend).symm
      · nomatch congrArg Prod.fst hend
  | _ => contradiction

theorem accounts_make (client : Client) (state : State) (s : Step) :
    (Transition.make client state s).Accounts := by
  cases s with
  | authorize =>
      have hrun := isAuthorized_run client state
      rw [make_of_runCall (authorize client) rfl]
      rcases hend : (authorize client).run state with ⟨failure | url, after⟩
      · rw [hend] at hrun
        exact .keeps rfl rfl (congrArg Nonce.Table.rows hrun)
      · obtain ⟨-, row, hsave⟩ := hend ▸ hrun
        exact .saves state.secondToken row rfl rfl hsave
  | exchange code =>
      have htable := table_run_exchange client code state
      rw [make_of_runCall (exchange client code) rfl]
      exact .keeps rfl rfl (congrArg Nonce.Table.rows htable)
  | redeem code =>
      have hrun := isRedeemed_run code state
      rw [make_of_runCall (redeem code) rfl]
      rcases hend : (redeem code).run state with ⟨failure | token, after⟩
      · rw [hend] at hrun
        exact .keeps rfl rfl (congrArg Nonce.Table.rows hrun)
      · obtain ⟨identity, row, hcached, -, hrow, hdelete⟩ := hend ▸ hrun
        exact .spends identity.nonce row rfl (congrArg (Option.map Identity.nonce) hcached) hrow
          hdelete
  | saveNonce nonce =>
      rw [make_of_runCall (saveNonce nonce) rfl, run_saveNonce]
      cases hsave : state.table.save state.wall nonce with
      | error fault => exact .keeps rfl rfl rfl
      | ok saved => exact .saves nonce saved.1 rfl rfl hsave
  | change change => cases change <;> exact .keeps rfl rfl rfl
  | _ => exact .keeps rfl rfl rfl

theorem Transition.Accounts.stored (h : t.Accounts) (nonce : Text) :
    stored t.after.table nonce + t.spent?.toList.count nonce =
      stored t.before.table nonce + t.saved?.toList.count nonce := by
  cases h with
  | saves saved row hsaved hspent htable =>
      obtain ⟨-, hnone, -⟩ := Nonce.Table.of_save htable
      rw [hsaved, hspent, Service.stored, Service.stored, Nonce.Table.row?_save htable]
      by_cases hnonce : nonce = saved
      · simp [hnonce, hnone]
      · simp [hnonce, Ne.symm hnonce]
  | spends spent row hsaved hspent hrow htable =>
      rw [hsaved, hspent, Service.stored, Service.stored, Nonce.Table.row?_delete? htable]
      by_cases hnonce : nonce = spent
      · simp [hnonce, hrow]
      · simp [hnonce, Ne.symm hnonce]
  | keeps hsaved hspent hrows =>
      simp [hsaved, hspent, Service.stored, Nonce.Table.row?, hrows]

theorem isSome_spent?_make (client : Client) (state : State) (s : Step) :
    (Transition.make client state s).spent?.isSome =
      (Transition.make client state s).isRelease := by
  cases s with
  | redeem code =>
      have hrun := isRedeemed_run code state
      rw [make_of_runCall (redeem code) rfl]
      rcases hend : (redeem code).run state with ⟨failure | token, after⟩
      · rfl
      · obtain ⟨identity, row, hcached, -⟩ := hend ▸ hrun
        exact congrArg (fun found => (found.map Identity.nonce).isSome) hcached
  | authorize => cases ((authorize client).run state).1 <;> rfl
  | _ => rfl

end Steps

theorem exists_make_of_mem_history {client : Client} {state : State} {steps : List Step}
    {t : Transition} (h : t ∈ history client state steps) :
    ∃ before s, t = Transition.make client before s := by
  induction steps generalizing state with
  | nil => contradiction
  | cons s rest ih =>
      rcases List.mem_cons.mp h with rfl | hrest
      · exact ⟨state, s, rfl⟩
      · exact ih hrest

theorem count_history (client : Client) (state : State) (steps : List Step) (nonce : Text) :
    stored (final client state steps).table nonce +
        (spends (history client state steps)).count nonce =
      stored state.table nonce + (saves (history client state steps)).count nonce := by
  induction steps generalizing state with
  | nil => simp [final, history, spends, saves]
  | cons s rest ih =>
      have hstep := (accounts_make client state s).stored nonce
      have hrest := ih (Transition.make client state s).after
      simp only [saves, spends] at hrest ⊢
      rw [history, List.flatMap_cons, List.flatMap_cons, List.count_append, List.count_append]
      change stored (final client (Transition.make client state s).after rest).table nonce + _ = _
      change _ = stored (Transition.make client state s).before.table nonce + _
      omega

theorem length_spends (client : Client) (state : State) (steps : List Step) :
    (spends (history client state steps)).length =
      (history client state steps).countP Transition.isRelease := by
  induction steps generalizing state with
  | nil => rfl
  | cons s rest ih =>
      have hstep := isSome_spent?_make client state s
      have hrest := ih (Transition.make client state s).after
      rw [spends] at hrest ⊢
      rw [history, List.flatMap_cons, List.length_append, hrest, List.countP_cons, ← hstep]
      cases (Transition.make client state s).spent? <;> simp [Nat.add_comm]

/-- In every history from an empty table, each nonce was saved as often as redemptions that
succeeded found it in the identity of their code, and once more if it is stored at the end.
Whatever fails leaves the table as it was, and no more redemptions succeed than nonces were
saved. -/
theorem saves_eq_spends_add_stored (client : Client) (cache : Cache)
    (outcomes : List Http.Outcome) (tokens : TokenSource) (wall : Int) (steps : List Step) :
    let start := State.start cache outcomes tokens wall
    let past := history client start steps
    (∀ nonce, (saves past).count nonce =
      (spends past).count nonce + stored (final client start steps).table nonce) ∧
    (∀ t ∈ past, ∀ failure, t.result = .failed failure → t.after.table = t.before.table) ∧
    past.countP Transition.isRelease ≤ (saves past).length := by
  intro start past
  have hcount : ∀ nonce, (saves past).count nonce =
      (spends past).count nonce + stored (final client start steps).table nonce := by
    intro nonce
    have hhistory : stored (final client start steps).table nonce + (spends past).count nonce =
        0 + (saves past).count nonce := count_history client start steps nonce
    omega
  refine ⟨hcount, fun t ht failure hfailed => ?_, ?_⟩
  · obtain ⟨state, s, rfl⟩ := exists_make_of_mem_history ht
    exact table_of_failed hfailed
  · have hsub : (spends past).Subperm (saves past) := by
      refine List.subperm_ext_iff.mpr fun nonce _ => ?_
      rw [hcount]
      exact Nat.le_add_right _ _
    rw [← length_spends]
    exact hsub.length_le

end SignOn.Service

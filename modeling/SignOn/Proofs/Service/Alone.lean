import SignOn.Proofs.Cache.Visible
import SignOn.Proofs.Interleaved.Moves
import SignOn.Proofs.Nonce.Table

/-!
# Calls that run alone

What becomes of the table of nonces when a call runs from start to end and nothing comes in between.
Asking the provider leaves the table alone, so an exchange does.  An authorization that succeeds
saves the second of the two tokens it draws, and a redemption that succeeds deletes the nonce of the
identity that the code stood for; one that fails leaves the table as it was.
-/

namespace SignOn

def Protocol.asking : Protocol Unit := fun _ action _ _ =>
  match action with
  | .send _ | .document | .keep _ => True
  | _ => False

theorem Protocol.admits_asking : Protocol.asking.Admits () where
  document _ := trivial
  keep _ _ := trivial
  send _ _ _ := trivial

namespace State

structure IsAskedFrom (before after : State) : Prop where
  tokens : after.tokens = before.tokens
  wall : after.wall = before.wall
  table : after.table = before.table

theorem isAskedFrom_run {α : Type} {flow : Flow α} {post : Except Failure α → Unit → Prop}
    (h : flow.Follows Protocol.asking () post) (state : State) :
    state.IsAskedFrom (flow.run state).2 := by
  have hkept : ∀ point action (later : State) q,
      Protocol.asking point action (later.perform action).1 q →
      state.IsAskedFrom later → state.IsAskedFrom (later.perform action).2 := by
    intro point action later q hstep hlater
    cases action with
    | send request =>
        simp only [perform, send]
        split <;> exact ⟨hlater.tokens, hlater.wall, hlater.table⟩
    | document => exact hlater
    | keep document => exact ⟨hlater.tokens, hlater.wall, hlater.table⟩
    | _ => exact hstep.elim
  obtain ⟨⟨⟩, -, hrun⟩ := h.run hkept ⟨rfl, rfl, rfl⟩
  exact hrun

def firstToken (state : State) : Text := state.tokens.draw.1

def secondToken (state : State) : Text := state.tokens.draw.2.draw.1

end State

namespace Flow

variable {α β : Type}

theorem run_bind_of {flow : Flow α} {f : α → Flow β} {state : State}
    {post : Except Failure β × State → Prop}
    (hok : ∀ a next, flow.run state = (.ok a, next) → post ((f a).run next))
    (herror : ∀ failure next, flow.run state = (.error failure, next) →
      post (.error failure, next)) :
    post ((flow >>= f).run state) := by
  rw [run_bind]
  rcases hrun : flow.run state with ⟨failure | a, next⟩
  · exact herror failure next hrun
  · exact hok a next hrun

end Flow

namespace Service

variable {client : Client} {code : Text} {state : State}

def IsPrepared (client : Client) (before : State) (ending : Except Failure Authorization × State) :
    Prop :=
  ending.2.table = before.table ∧ ending.2.wall = before.wall ∧
    ∀ authorization, ending.1 = .ok authorization → authorization.nonce = before.secondToken ∧
      ∃ endpoint, authorization.url =
        client.authorizationUrl endpoint before.firstToken before.secondToken

theorem isPrepared_run (client : Client) (state : State) :
    IsPrepared client state (client.authorize.run state) := by
  have hasked := State.isAskedFrom_run
    (Client.follows_discover Protocol.admits_asking client) state
  refine Flow.run_bind_of (fun document asked hrun => ?_) fun failure asked hrun => ?_
  · obtain ⟨htokens, hwall, htable⟩ := hrun ▸ hasked
    change IsPrepared client state ((Flow.ofChecked _ _ >>= _).run asked.draw.2.draw.2)
    refine Flow.run_bind_of (fun _ next hform => ?_) fun fault next hform => ?_
    · rw [Flow.run_ofChecked] at hform
      obtain rfl := congrArg Prod.snd hform
      refine ⟨htable, hwall, fun authorization hauthorization => ?_⟩
      obtain rfl := Except.ok.inj hauthorization
      simp only [State.firstToken, State.secondToken, ← htokens]
      exact ⟨rfl, document.authorizationEndpoint, rfl⟩
    · rw [Flow.run_ofChecked] at hform
      obtain rfl := congrArg Prod.snd hform
      exact ⟨htable, hwall, nofun⟩
  · obtain ⟨-, hwall, htable⟩ := hrun ▸ hasked
    exact ⟨htable, hwall, nofun⟩

theorem run_saveNonce (nonce : Text) (state : State) :
    (saveNonce nonce).run state =
      match state.table.save state.wall nonce with
      | .error fault => (.error (nonceFailure .nonceNotSaved fault), state)
      | .ok (_, table) => (.ok nonce, { state with table }) := by
  change (Flow.ofChecked _ (state.saveNonce nonce).1 >>= _).run (state.saveNonce nonce).2 = _
  rw [Flow.run_bind, Flow.run_ofChecked, State.saveNonce]
  cases state.table.save state.wall nonce <;> rfl

/-- An authorization is made of the first two tokens, and its nonce is saved; one that fails leaves
the table alone. -/
def IsAuthorized (client : Client) (before : State) : Except Failure Text × State → Prop
  | (.ok url, after) =>
      (∃ endpoint, url =
        client.authorizationUrl endpoint before.firstToken before.secondToken) ∧
      ∃ row, before.table.save before.wall before.secondToken = .ok (row, after.table)
  | (.error _, after) => after.table = before.table

theorem isAuthorized_run (client : Client) (state : State) :
    IsAuthorized client state ((authorize client).run state) := by
  have hprepared := isPrepared_run client state
  refine Flow.run_bind_of (fun authorization asked hrun => ?_) fun failure asked hrun => ?_
  · obtain ⟨htable, hwall, hof⟩ := hrun ▸ hprepared
    obtain ⟨hnonce, hurl⟩ := hof authorization rfl
    rw [hnonce, Flow.run_bind, run_saveNonce, htable, hwall]
    cases hsave : state.table.save state.wall state.secondToken with
    | error fault => exact htable
    | ok saved => exact ⟨hurl, saved.1, hsave⟩
  · exact (hrun ▸ hprepared).1

theorem table_run_exchange (client : Client) (code : Text) (state : State) :
    ((exchange client code).run state).2.table = state.table := by
  have hkept : ∀ point action (later : State) q,
      Progress code point action (later.perform action).1 q →
      (point.isExchanging ∧ later.table = state.table) →
      q.isExchanging ∧ (later.perform action).2.table = state.table := by
    rintro point action later q hstep ⟨hpoint, htable⟩
    refine ⟨hstep.isExchanging.trans hpoint, ?_⟩
    cases action with
    | send request =>
        simp only [State.perform, State.send]
        split <;> exact htable
    | saveNonce nonce => cases hstep
    | deleteNonce row => cases hstep; contradiction
    | _ => exact htable
  have hfollows : (exchange client code).Follows _ _ _ := follows_exchange
  obtain ⟨q, -, -, htable⟩ := hfollows.run hkept ⟨rfl, rfl⟩
  exact htable

/-- A redemption deletes the nonce of the identity that the code stood for; one that fails leaves
the table alone. -/
def IsRedeemed (code : Text) (before : State) : Except Failure Text × State → Prop
  | (.ok token, after) =>
      ∃ identity row, (before.lookUp code).1 = some identity ∧ token = identity.refreshToken ∧
        before.table.row? identity.nonce = some row ∧
        before.table.delete? identity.nonce = some after.table
  | (.error _, after) => after.table = before.table

theorem lookUp_of_take {identity : Identity}
    (h : (state.cache.take state.clock state.clock code).1 = .ok identity) :
    (state.lookUp code).1 = some identity := by
  have hremove : (state.cache.identities.remove state.clock code).1 = some identity := by
    unfold Cache.take at h
    split at h
    · contradiction
    · contradiction
    · split at h
      · contradiction
      next heq => rw [heq, ← Except.ok.inj h]
  rw [Cache.Shelf.remove_fst] at hremove
  exact (Cache.Shelf.read_fst _ _ _).trans hremove

theorem isRedeemed_run (code : Text) (state : State) :
    IsRedeemed code state ((redeem code).run state) := by
  rw [redeem, Flow.run_bind, Flow.run_take]
  cases htake : (state.cache.take state.clock state.clock code).1 with
  | error fault => exact rfl
  | ok identity =>
      generalize (state.cache.take state.clock state.clock code).2 = cache
      change IsRedeemed code state ((Flow.ofChecked _ (state.table.find identity.nonce) >>= _).run
        { state with cache })
      rw [Flow.run_bind, Flow.run_ofChecked]
      cases hfind : state.table.find identity.nonce with
      | error fault => exact rfl
      | ok found =>
          cases found with
          | none => exact rfl
          | some row =>
              have hrow := Nonce.Table.row?_of_find hfind
              have hnonce := Nonce.Table.nonce_of_row? hrow.symm
              change IsRedeemed code state
                ((if (State.deleteNonce { state with cache } row).1 then _ else _ : Flow Text).run
                  (State.deleteNonce { state with cache } row).2)
              rw [State.deleteNonce, hnonce]
              cases hdelete : state.table.delete? identity.nonce with
              | none => exact rfl
              | some table =>
                  exact ⟨identity, row, lookUp_of_take htake, rfl, hrow.symm, hdelete⟩

end Service

end SignOn

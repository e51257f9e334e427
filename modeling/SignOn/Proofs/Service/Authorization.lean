import SignOn.Proofs.Provider.Answers
import SignOn.Proofs.Service.Alone

/-!
# How an authorization ends

An authorization goes by the provider's document.  With one it draws two tokens, writes them into a
form, and saves the second; each of these steps can fail, and only the last one touches the table.
-/

namespace SignOn.Service

variable {client : Client} {state : State} {token nonce : Text}

theorem isScalar_of_mem_authorizationForm
    (h : Http.checkForm (client.authorizationForm token nonce) = .ok ()) :
    ∀ pair ∈ client.authorizationForm token nonce, pair.1.IsScalar ∧ pair.2.IsScalar := by
  have hnames : ∀ name ∈ (client.authorizationForm token nonce).map (·.1), Text.IsScalar name := by
    simp only [Client.authorizationForm, List.map_cons, List.map_nil]
    decide
  exact fun pair hpair =>
    ⟨hnames _ (List.mem_map_of_mem hpair), Http.checkForm_eq_ok_iff.mp h pair hpair⟩

def prepared (state : State) (document : Metadata) (asked : List Http.Request) : State :=
  (state.afterRequests asked (some document)).draw.2.draw.2

inductive Authorizes (client : Client) (state : State) : Except Failure Text × State → Prop
  | undiscovered {failure : Failure} (hnone : state.document = none) :
      Authorizes client state (.error failure, state.asked client.discoveryRequest.toOption)
  | unwritable {document : Metadata} {asked : List Http.Request} {fault : Http.Fault}
      (hfinds : client.Finds state.outlook document asked)
      (hform : Http.checkForm (client.authorizationForm state.firstToken state.secondToken) =
        .error fault) :
      Authorizes client state
        (.error (.interrupted (.sending fault)), prepared state document asked)
  | unsaved {document : Metadata} {asked : List Http.Request} {fault : Nonce.Fault}
      (hfinds : client.Finds state.outlook document asked)
      (hform : Http.checkForm (client.authorizationForm state.firstToken state.secondToken) =
        .ok ())
      (hsave : state.table.save state.wall state.secondToken = .error fault) :
      Authorizes client state
        (.error (nonceFailure .nonceNotSaved fault), prepared state document asked)
  | authorized {document : Metadata} {asked : List Http.Request} {row : Nonce.Row}
      {table : Nonce.Table} (hfinds : client.Finds state.outlook document asked)
      (hform : Http.checkForm (client.authorizationForm state.firstToken state.secondToken) =
        .ok ())
      (hsave : state.table.save state.wall state.secondToken = .ok (row, table)) :
      Authorizes client state
        (.ok (client.authorizationUrl document.authorizationEndpoint state.firstToken
          state.secondToken), { prepared state document asked with table })

theorem run_authorize_of_finds {document : Metadata} {asked : List Http.Request}
    (h : client.Finds state.outlook document asked) :
    client.authorize.run state =
      (((Http.checkForm (client.authorizationForm state.firstToken state.secondToken)).mapError
          fun fault => .interrupted (.sending fault)).map fun _ =>
        ⟨client.authorizationUrl document.authorizationEndpoint state.firstToken state.secondToken,
          state.firstToken, state.secondToken⟩,
        prepared state document asked) := by
  have hsame : client.authorize.run state =
      client.authorize.run (state.afterRequests asked (some document)) :=
    Client.run_discover_bind_of_finds h _
  rw [hsame, Client.run_authorize_of_some rfl]
  rfl

theorem authorizes (client : Client) (state : State) :
    Authorizes client state ((authorize client).run state) := by
  rcases hdiscover : client.discover.run state with ⟨failure | document, next⟩
  · cases hkept : state.document with
    | some document =>
        cases congrArg Prod.fst ((Client.run_discover_of_some hkept).symm.trans hdiscover)
    | none =>
        have hfailed : client.authorize.run state = (.error failure, next) := by
          rw [Client.authorize, Flow.run_bind_of_error hdiscover]
        rw [authorize, Flow.run_bind_of_error hfailed]
        rcases client.run_discover_of_none hkept with ⟨other, -, hrun⟩ | ⟨document, -, hrun⟩
        · obtain rfl : next = _ := congrArg Prod.snd (hdiscover.symm.trans hrun)
          exact .undiscovered hkept
        · cases congrArg Prod.fst (hrun.symm.trans hdiscover)
  · obtain ⟨asked, hfinds, -⟩ := Client.run_discover_eq_ok_iff.mp hdiscover
    rw [authorize, Flow.run_bind, run_authorize_of_finds hfinds]
    cases hform : Http.checkForm (client.authorizationForm state.firstToken state.secondToken) with
    | error fault => exact .unwritable hfinds hform
    | ok u =>
        change Authorizes client state ((saveNonce state.secondToken >>= _).run _)
        rw [Flow.run_bind, run_saveNonce]
        rw [show (prepared state document asked).table = state.table from rfl,
          show (prepared state document asked).wall = state.wall from rfl]
        cases hsave : state.table.save state.wall state.secondToken with
        | error fault => exact .unsaved hfinds hform hsave
        | ok saved => exact .authorized hfinds hform hsave

end SignOn.Service

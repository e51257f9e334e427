import SignOn.Proofs.Provider.Discovery
import SignOn.Proofs.Provider.TokenAnswer

/-!
# What is got from the provider

A call to the provider is settled by what it finds: the document that is kept, the outcomes of the
requests to come, and the wall clock.  `Finds` and `Trades` say from these alone when a document or
tokens are got, and with which requests; a call succeeds exactly then.
-/

namespace SignOn

namespace State

def afterRequests (state : State) (requests : List Http.Request) (document : Option Metadata) :
    State :=
  { state with
    sent := state.sent ++ requests
    outcomes := state.outcomes.drop requests.length
    document }

variable {state : State}

theorem afterRequests_nil (state : State) : state.afterRequests [] state.document = state := by
  simp [afterRequests]

theorem asked_eq_afterRequests (state : State) (request : Option Http.Request) :
    state.asked request = state.afterRequests request.toList state.document := rfl

theorem afterRequests_append (state : State) (early late : List Http.Request)
    (document other : Option Metadata) :
    (state.afterRequests early document).afterRequests late other =
      state.afterRequests (early ++ late) other := by
  simp [afterRequests, List.drop_drop]

theorem outcome_afterRequests (state : State) (requests : List Http.Request)
    (document : Option Metadata) (n : Nat) :
    (state.afterRequests requests document).outlook.outcome n =
      state.outlook.outcome (requests.length + n) := by
  simp [afterRequests, outlook, Outlook.outcome]

end State

namespace Client

theorem tokensOf_eq_ok_iff {request : Http.Request} {outcome : Http.Outcome}
    {tokens : TokenAnswer} :
    tokensOf request outcome = .ok tokens ↔
      Brings (· = 200) TokenAnswer.model TokenAnswer.ofJson request outcome tokens := by
  unfold tokensOf Brings
  cases Http.receive request outcome with
  | error fault => simp
  | ok answer =>
      by_cases hstatus : answer.status = 200
      · simp [hstatus, mapError_eq_ok_iff]
      · cases htext : answer.checkText <;> simp [hstatus, htext]

/-- The document that calls go by, with what is asked for it: the one that is kept, or one that the
provider states and that names the issuer. -/
inductive Finds (client : Client) (outlook : Outlook) : Metadata → List Http.Request → Prop
  | kept {document : Metadata} (h : outlook.document = some document) :
      Finds client outlook document []
  | asked {document : Metadata} {request : Http.Request} (hnone : outlook.document = none)
      (hrequest : client.discoveryRequest = .ok request)
      (hbrings : Brings (Http.isSuccess ·) Metadata.model Metadata.ofJson request
        (outlook.outcome 0) document)
      (hissuer : client.isIssuedBy document) : Finds client outlook document [request]

inductive Trades (client : Client) (code : Text) (outlook : Outlook) (document : Metadata) :
    TokenAnswer → List Http.Request → Prop
  | mk {tokens : TokenAnswer} {asked : List Http.Request} {request : Http.Request}
      (hfinds : client.Finds outlook document asked)
      (hrequest : client.tokenRequest document code = .ok request)
      (hbrings : Brings (· = 200) TokenAnswer.model TokenAnswer.ofJson request
        (outlook.outcome asked.length) tokens) :
      Trades client code outlook document tokens (asked ++ [request])

end Client

namespace Client

variable {client : Client} {code : Text} {state next : State} {document : Metadata}

theorem run_discover_eq_ok_iff :
    client.discover.run state = (.ok document, next) ↔
      ∃ asked, client.Finds state.outlook document asked ∧
        next = state.afterRequests asked (some document) := by
  cases hkept : state.document with
  | some kept =>
      rw [run_discover_of_some hkept]
      constructor
      · rintro ⟨⟩
        exact ⟨[], .kept hkept, by rw [← hkept, State.afterRequests_nil]⟩
      · rintro ⟨_, h | ⟨hnone⟩, rfl⟩
        · obtain rfl := Option.some.inj (hkept.symm.trans h)
          rw [← hkept, State.afterRequests_nil]
        · cases hkept.symm.trans hnone
  | none =>
      rw [discover, Flow.run_keptDocument_bind, hkept]
      simp only [Flow.run_bind_eq_ok_iff, Flow.run_fetch_eq_ok_iff]
      constructor
      · rintro ⟨found, _, ⟨request, hrequest, hbrings, rfl⟩, hend⟩
        by_cases hissuer : client.isIssuedBy found
        · rw [if_pos hissuer] at hend
          cases hend
          exact ⟨[request], .asked hkept hrequest hbrings hissuer, rfl⟩
        · rw [if_neg hissuer] at hend
          cases congrArg Prod.fst hend
      · rintro ⟨_, h | ⟨-, hrequest, hbrings, hissuer⟩, rfl⟩
        · cases hkept.symm.trans h
        · refine ⟨document, _, ⟨_, hrequest, hbrings, rfl⟩, ?_⟩
          rw [if_pos hissuer]
          rfl

theorem run_discover_bind_of_finds {α : Type} {asked : List Http.Request}
    (h : client.Finds state.outlook document asked) (f : Metadata → Flow α) :
    (client.discover >>= f).run state =
      (client.discover >>= f).run (state.afterRequests asked (some document)) := by
  have hdiscover : client.discover.run state = (.ok document, _) :=
    run_discover_eq_ok_iff.mpr ⟨asked, h, rfl⟩
  rw [Flow.run_bind_of_ok hdiscover, Flow.run_bind_of_ok (run_discover_of_some rfl)]

theorem run_exchangeCode_eq_ok_iff {tokens : TokenAnswer} :
    (client.exchangeCode code).run state = (.ok tokens, next) ↔
      ∃ document asked, client.Trades code state.outlook document tokens asked ∧
        next = state.afterRequests asked (some document) := by
  simp only [exchangeCode, Flow.run_bind_eq_ok_iff, run_discover_eq_ok_iff,
    Flow.run_ofChecked_eq_ok_iff, Flow.run_send_eq_ok_iff, tokensOf_eq_ok_iff]
  constructor
  · rintro ⟨document, _, ⟨asked, hfinds, rfl⟩, request, _, ⟨hrequest, rfl⟩, _, _, ⟨rfl, rfl⟩,
      hbrings, rfl⟩
    rw [State.outcome_afterRequests] at hbrings
    refine ⟨document, _, .mk hfinds hrequest hbrings, ?_⟩
    rw [State.asked_eq_afterRequests, State.afterRequests_append]
    rfl
  · rintro ⟨document, _, ⟨hfinds, hrequest, hbrings⟩, rfl⟩
    refine ⟨document, _, ⟨_, hfinds, rfl⟩, _, _, ⟨hrequest, rfl⟩, _, _, ⟨rfl, rfl⟩, ?_, ?_⟩
    · rwa [State.outcome_afterRequests]
    · rw [State.asked_eq_afterRequests, State.afterRequests_append]
      rfl

theorem run_userInfo_eq_ok_iff {accessToken : Text} {user : UserInfo}
    (h : state.document = some document) :
    (client.userInfo accessToken).run state = (.ok user, next) ↔
      ∃ endpoint request, Service.nonempty? document.userinfoEndpoint = some endpoint ∧
        userInfoRequest endpoint accessToken = .ok request ∧
        Brings (Http.isSuccess ·) UserInfo.model UserInfo.ofJson request
          (state.outlook.outcome 0) user ∧
        next = state.asked (some request) := by
  rw [userInfo, Flow.run_bind_of_ok (run_discover_of_some h)]
  rcases document.userinfoEndpoint with _ | (_ | ⟨c, rest⟩)
  · simp [Service.nonempty?, Flow.refuse, Flow.fail]
  · simp [Service.nonempty?, Flow.refuse, Flow.fail]
  · simp [Service.nonempty?, Flow.run_fetch_eq_ok_iff]

theorem method_tokenRequest {request : Http.Request}
    (h : client.tokenRequest document code = .ok request) : request.method = .post := by
  obtain ⟨-, url, -, rfl⟩ := tokenRequest_eq_ok_iff.mp h
  rfl

/-- Credentials in the URL of the endpoint take the place of the access token. -/
theorem of_userInfoRequest {endpoint accessToken : Text} {request : Http.Request}
    (h : userInfoRequest endpoint accessToken = .ok request) :
    request.method = .get ∧ Http.siteUrl endpoint = .ok request.url ∧
      request.authorization = match request.url.credentials? with
        | some (name, password) => some (Http.basic name password)
        | none => some (Http.bearer accessToken) := by
  obtain ⟨-, url, hurl, rfl⟩ := userInfoRequest_eq_ok_iff.mp h
  exact ⟨rfl, hurl, rfl⟩

end Client

end SignOn

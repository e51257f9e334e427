import SignOn.Proofs.Provider.Documents
import SignOn.Proofs.Service.Sample

/-!
# The provider's document is found once

Calls of a client come one after another.  A call that finds no document kept asks for it first, and
goes no further if it cannot have it.  Once a document is kept it stays, and all calls go by it.
-/

namespace SignOn

namespace Client

variable {client : Client} {state : State} {document : Metadata}

inductive Call where
  | discover
  | authorize
  | exchangeCode (code : Text)
  | userInfo (accessToken : Text)
  deriving DecidableEq, Repr

inductive Reply where
  | metadata (document : Metadata)
  | authorization (authorization : Authorization)
  | tokens (tokens : TokenAnswer)
  | user (user : UserInfo)

def Call.flow (client : Client) : Call → Flow Reply
  | .discover => do return .metadata (← client.discover)
  | .authorize => do return .authorization (← client.authorize)
  | .exchangeCode code => do return .tokens (← client.exchangeCode code)
  | .userInfo accessToken => do return .user (← client.userInfo accessToken)

def Call.request? (client : Client) (document : Metadata) : Call → Option Http.Request
  | .discover | .authorize => none
  | .exchangeCode code => (client.tokenRequest document code).toOption
  | .userInfo accessToken =>
      match document.userinfoEndpoint with
      | none | some [] => none
      | some endpoint => (userInfoRequest endpoint accessToken).toOption

/-- What a call that goes by a document asks: a code goes to the token endpoint in a form, an access
token to the user info endpoint in a header, unless the endpoint has credentials of its own. -/
def Call.Asks (client : Client) (document : Metadata) (asked : Option Http.Request) : Call → Prop
  | .discover | .authorize => asked = none
  | .exchangeCode code =>
      Http.Sends document.tokenEndpoint (client.IsWritable code)
        (fun request => request.method = .post ∧ request.code? = some code) asked
  | .userInfo accessToken =>
      match document.userinfoEndpoint with
      | none | some [] => asked = none
      | some endpoint =>
          Http.Sends endpoint (∀ c ∈ accessToken, c.isAscii = true)
            (fun request => request.method = .get ∧
              request.authorization = match request.url.credentials? with
                | some (name, password) => some (Http.basic name password)
                | none => some ("Bearer " ++ accessToken)) asked

structure Transition where
  before : State
  call : Call
  result : Except Failure Reply
  after : State

def Transition.make (client : Client) (state : State) (call : Call) : Transition :=
  ⟨state, call, ((call.flow client).run state).1, ((call.flow client).run state).2⟩

def history (client : Client) (state : State) : List Call → List Transition
  | [] => []
  | call :: rest =>
      let t := Transition.make client state call
      t :: history client t.after rest

def AsksDocument (client : Client) (asked : Option Http.Request) : Prop :=
  Http.Sends (client.issuer ++ "/.well-known/openid-configuration") True
    (fun request => request.method = .get) asked

/-- A document that names the issuer, and that the answer to a request states. -/
def IsOffered (client : Client) (state : State) (asked : Option Http.Request)
    (document : Metadata) : Prop :=
  withoutTrailingSlashes document.issuer = client.issuer ∧
    ∃ request, asked = some request ∧
      Brings (Http.isSuccess ·) Metadata.model Metadata.ofJson request (state.outlook.outcome 0)
        document

namespace Transition

structure Uses (client : Client) (document : Metadata) (t : Transition) : Prop where
  kept : t.after.document = some document
  sent : ∃ asked, t.call.Asks client document asked ∧
    t.after.sent = t.before.sent ++ asked.toList
  metadata : t.call = .discover → t.result = .ok (.metadata document)
  authorization : t.call = .authorize → ∀ authorization,
    t.result = .ok (.authorization authorization) →
      ∃ mark ∈ (["?", "&"] : List Text),
        authorization.url = document.authorizationEndpoint ++ mark ++ Percent.formEncode [
          ("response_type", "code"),
          ("client_id", client.clientId),
          ("state", authorization.state),
          ("scope", Text.join " " client.scopes),
          ("redirect_uri", client.redirectUrl),
          ("nonce", authorization.nonce)]

/-- A call that asks for the document first: it fails as that does, and nothing else has happened,
or it goes by what it found.  Which of the two it is depends on whether a document is offered. -/
inductive Discovers (client : Client) (t : Transition) : Prop
  | fails (failure : Failure) {asked : Option Http.Request} (hasked : client.AsksDocument asked)
      (hnone : ∀ document, ¬client.IsOffered t.before asked document)
      (hdiscover : client.discover.run t.before = (.error failure, t.before.asked asked))
      (hresult : t.result = .error failure) (hafter : t.after = t.before.asked asked)
  | finds (document : Metadata) {asked : Option Http.Request} (hasked : client.AsksDocument asked)
      (hoffered : client.IsOffered t.before asked document)
      (hdiscover : client.discover.run t.before =
        (.ok document, { t.before.asked asked with document := some document }))
      (huses : Uses client document
        { t with before := { t.before.asked asked with document := some document } })

end Transition

/-! ## One call -/

theorem run_discover_of_some (h : state.document = some document) :
    client.discover.run state = (.ok document, state) := by
  rw [discover, Flow.run_keptDocument_bind, h]
  rfl

theorem run_discover_eq_of_none (h : state.document = none) :
    client.discover.run state =
      match (Flow.fetch .discovery Metadata.model Metadata.ofJson client.discoveryRequest).run
        state with
      | (.error failure, next) => (.error failure, next)
      | (.ok document, next) =>
          if client.isIssuedBy document then (.ok document, { next with document := some document })
          else (.error (.refused (.issuerMismatch document.issuer)), next) := by
  rw [discover, Flow.run_keptDocument_bind, h]
  rcases hfetch : (Flow.fetch .discovery Metadata.model Metadata.ofJson
    client.discoveryRequest).run state with ⟨failure | document, next⟩
  · exact Flow.run_bind_of_error hfetch
  · refine (Flow.run_bind_of_ok hfetch).trans ?_
    by_cases hissuer : client.isIssuedBy document
    · simp only [if_pos hissuer]
      rfl
    · simp only [if_neg hissuer]
      rfl

theorem run_discover_of_offered (h : state.document = none)
    (hoffered : client.IsOffered state client.discoveryRequest.toOption document) :
    client.discover.run state =
      (.ok document,
        { state.asked client.discoveryRequest.toOption with document := some document }) := by
  obtain ⟨hissuer, request, hrequest, hstated⟩ := hoffered
  have hfetch : (Flow.fetch .discovery Metadata.model Metadata.ofJson client.discoveryRequest).run
      state = (.ok document, state.asked (some request)) :=
    Flow.run_fetch_eq_ok_iff.mpr ⟨request, eq_ok_of_toOption hrequest, hstated, rfl⟩
  rw [run_discover_eq_of_none h, hfetch, hrequest]
  exact if_pos (decide_eq_true hissuer)

theorem run_discover_of_not_offered (h : state.document = none)
    (hnone : ∀ document, ¬client.IsOffered state client.discoveryRequest.toOption document) :
    ∃ failure, client.discover.run state =
      (.error failure, state.asked client.discoveryRequest.toOption) := by
  have hasked := Flow.snd_run_fetch .discovery Metadata.model Metadata.ofJson
    client.discoveryRequest state
  rw [run_discover_eq_of_none h]
  rcases hfetch : (Flow.fetch .discovery Metadata.model Metadata.ofJson
    client.discoveryRequest).run state with ⟨failure | document, next⟩
  · rw [hfetch] at hasked
    exact ⟨failure, by rw [← hasked]⟩
  · rw [hfetch] at hasked
    obtain ⟨request, hrequest, hstated, -⟩ := Flow.run_fetch_eq_ok_iff.mp hfetch
    have hissuer : ¬client.isIssuedBy document := fun hissuer =>
      hnone document ⟨of_decide_eq_true hissuer, request, by rw [hrequest]; rfl, hstated⟩
    exact ⟨_, by rw [← hasked]; exact if_neg hissuer⟩

theorem run_discover_of_none (client : Client) (h : state.document = none) :
    (∃ failure, (∀ document, ¬client.IsOffered state client.discoveryRequest.toOption document) ∧
      client.discover.run state =
        (.error failure, state.asked client.discoveryRequest.toOption)) ∨
      ∃ document, client.IsOffered state client.discoveryRequest.toOption document ∧
        client.discover.run state = (.ok document,
          { state.asked client.discoveryRequest.toOption with document := some document }) := by
  by_cases hoffered : ∃ document, client.IsOffered state client.discoveryRequest.toOption document
  · obtain ⟨document, hoffered⟩ := hoffered
    exact .inr ⟨document, hoffered, run_discover_of_offered h hoffered⟩
  · obtain ⟨failure, hrun⟩ := run_discover_of_not_offered h (not_exists.mp hoffered)
    exact .inl ⟨failure, not_exists.mp hoffered, hrun⟩

theorem exists_rest (client : Client) (call : Call) :
    ∃ rest : Metadata → Flow Reply, call.flow client = client.discover >>= rest := by
  cases call with
  | discover => exact ⟨_, rfl⟩
  | authorize => exact ⟨_, Flow.bind_assoc client.discover _ _⟩
  | exchangeCode code => exact ⟨_, Flow.bind_assoc client.discover _ _⟩
  | userInfo accessToken => exact ⟨_, Flow.bind_assoc client.discover _ _⟩

/-! ## With a document -/

theorem run_authorize_of_some (h : state.document = some document) :
    client.authorize.run state =
      (((Http.checkForm (client.authorizationForm state.draw.1 state.draw.2.draw.1)).mapError
          fun fault => .interrupted (.sending fault)).map fun _ =>
        ⟨client.authorizationUrl document.authorizationEndpoint state.draw.1 state.draw.2.draw.1,
          state.draw.1, state.draw.2.draw.1⟩,
        state.draw.2.draw.2) := by
  rw [authorize, Flow.run_bind_of_ok (run_discover_of_some h)]
  change (Flow.ofChecked _ (Http.checkForm (client.authorizationForm state.draw.1
    state.draw.2.draw.1)) >>= _).run state.draw.2.draw.2 = _
  rw [Flow.run_bind, Flow.run_ofChecked]
  cases Http.checkForm (client.authorizationForm state.draw.1 state.draw.2.draw.1) <;> rfl

theorem snd_run_exchangeCode_of_some (h : state.document = some document) (code : Text) :
    ((client.exchangeCode code).run state).2 =
      state.asked (client.tokenRequest document code).toOption := by
  rw [exchangeCode, Flow.run_bind_of_ok (run_discover_of_some h)]
  cases client.tokenRequest document code with
  | error fault => exact (State.asked_none state).symm
  | ok request =>
      change ((Flow.ofChecked _ _).run (state.send request).2).2 = _
      rw [Flow.run_ofChecked]
      exact State.snd_send state request

theorem snd_run_userInfo_of_some (h : state.document = some document) (accessToken : Text) :
    ((client.userInfo accessToken).run state).2 =
      state.asked ((Call.userInfo accessToken).request? client document) := by
  rw [userInfo, Flow.run_bind_of_ok (run_discover_of_some h)]
  rcases hendpoint : document.userinfoEndpoint with _ | (_ | ⟨c, rest⟩)
  · simp only [Call.request?, hendpoint]
    exact (State.asked_none state).symm
  · simp only [Call.request?, hendpoint]
    exact (State.asked_none state).symm
  · simp only [Call.request?, hendpoint]
    exact Flow.snd_run_fetch _ _ _ _ _

theorem sends_tokenRequest (client : Client) (document : Metadata) (code : Text) :
    Http.Sends document.tokenEndpoint (client.IsWritable code)
      (fun request => request.method = .post ∧ request.code? = some code)
      (client.tokenRequest document code).toOption := by
  refine Http.sends_toOption (fun request hrequest => ?_) fun url hurl hwritable =>
    ⟨_, tokenRequest_eq_ok_iff.mpr ⟨hwritable, url, hurl, rfl⟩⟩
  have hcode := code?_tokenRequest hrequest
  obtain ⟨hwritable, url, hurl, rfl⟩ := tokenRequest_eq_ok_iff.mp hrequest
  exact ⟨hurl, hwritable, rfl, hcode⟩

theorem sends_userInfoRequest (endpoint accessToken : Text) :
    Http.Sends endpoint (∀ c ∈ accessToken, c.isAscii = true)
      (fun request => request.method = .get ∧
        request.authorization = match request.url.credentials? with
          | some (name, password) => some (Http.basic name password)
          | none => some ("Bearer " ++ accessToken))
      (userInfoRequest endpoint accessToken).toOption := by
  refine Http.sends_toOption (fun request hrequest => ?_) fun url hurl hascii =>
    ⟨_, userInfoRequest_eq_ok_iff.mpr ⟨hascii, url, hurl, rfl⟩⟩
  obtain ⟨hascii, url, hurl, rfl⟩ := userInfoRequest_eq_ok_iff.mp hrequest
  exact ⟨hurl, hascii, rfl, rfl⟩

theorem asks_request? (client : Client) (document : Metadata) (call : Call) :
    call.Asks client document (call.request? client document) := by
  cases call with
  | discover => exact rfl
  | authorize => exact rfl
  | exchangeCode code => exact sends_tokenRequest client document code
  | userInfo accessToken =>
      unfold Call.Asks Call.request?
      rcases document.userinfoEndpoint with _ | (_ | ⟨c, rest⟩)
      · exact rfl
      · exact rfl
      · exact sends_userInfoRequest (c :: rest) accessToken

theorem uses_of_some (h : state.document = some document) (call : Call) :
    (Transition.make client state call).Uses client document := by
  have hasks := asks_request? client document call
  cases call with
  | discover =>
      have hrun := Flow.run_map Reply.metadata client.discover state
      rw [run_discover_of_some h] at hrun
      simp only [Transition.make, Call.flow, hrun]
      exact ⟨h, ⟨_, hasks, (List.append_nil _).symm⟩, fun _ => rfl, nofun⟩
  | authorize =>
      have hrun := Flow.run_map Reply.authorization client.authorize state
      rw [run_authorize_of_some h] at hrun
      simp only [Transition.make, Call.flow, hrun]
      refine ⟨h, ⟨_, hasks, (List.append_nil _).symm⟩, nofun, fun _ authorization hresult => ?_⟩
      cases hform : Http.checkForm (client.authorizationForm state.draw.1 state.draw.2.draw.1) with
      | error fault =>
          rw [hform] at hresult
          contradiction
      | ok u =>
          rw [hform] at hresult
          cases hresult
          refine ⟨separator document.authorizationEndpoint, ?_, rfl⟩
          unfold separator
          split <;> simp
  | exchangeCode code =>
      have hrun := Flow.run_map Reply.tokens (client.exchangeCode code) state
      rw [snd_run_exchangeCode_of_some h] at hrun
      simp only [Transition.make, Call.flow, hrun]
      exact ⟨h, ⟨_, hasks, rfl⟩, nofun, nofun⟩
  | userInfo accessToken =>
      have hrun := Flow.run_map Reply.user (client.userInfo accessToken) state
      rw [snd_run_userInfo_of_some h] at hrun
      simp only [Transition.make, Call.flow, hrun]
      exact ⟨h, ⟨_, hasks, rfl⟩, nofun, nofun⟩

theorem asksDocument_discoveryRequest (client : Client) :
    client.AsksDocument client.discoveryRequest.toOption := by
  refine Http.sends_toOption (fun request hrequest => ?_) fun url hurl _ =>
    ⟨_, Http.getRequest_eq_ok_iff.mpr ⟨rfl, url, hurl, rfl⟩⟩
  obtain ⟨-, url, hurl, rfl⟩ := Http.getRequest_eq_ok_iff.mp hrequest
  exact ⟨hurl, trivial, rfl⟩

theorem discovers_of_none (h : state.document = none) (call : Call) :
    (Transition.make client state call).Discovers client := by
  obtain ⟨rest, hrest⟩ := exists_rest client call
  have hasked := client.asksDocument_discoveryRequest
  rcases client.run_discover_of_none h with ⟨failure, hnone, hrun⟩ | ⟨document, hoffered, hrun⟩
  · have hfailed : (call.flow client).run state =
        (.error failure, state.asked client.discoveryRequest.toOption) := by
      rw [hrest, Flow.run_bind_of_error hrun]
    exact .fails failure hasked hnone hrun (congrArg Prod.fst hfailed) (congrArg Prod.snd hfailed)
  · have hfound : (client.discover.run state).2.document = some document := by rw [hrun]
    have huses : (Transition.make client (client.discover.run state).2 call).Uses client document :=
      uses_of_some hfound call
    -- Begun where the document is found, the call has nothing to ask for and goes on the same way.
    have hsame : (call.flow client).run state =
        (call.flow client).run (client.discover.run state).2 := by
      rw [hrest, Flow.run_bind_of_ok hrun, hrun,
        Flow.run_bind_of_ok (run_discover_of_some rfl)]
    refine .finds document hasked hoffered hrun ?_
    rw [hrun] at hsame huses
    simp only [Transition.make, hsame]
    exact huses

/-! ## All calls -/

theorem exists_make_of_mem {holds : State → Prop} {calls : List Call} {t : Transition}
    (hkept : ∀ before call, holds before → holds (Transition.make client before call).after)
    (hstart : holds state) (ht : t ∈ client.history state calls) :
    ∃ before call, holds before ∧ t = Transition.make client before call := by
  induction calls generalizing state with
  | nil => contradiction
  | cons call rest ih =>
      rcases List.mem_cons.mp ht with rfl | hlater
      · exact ⟨state, call, hstart, rfl⟩
      · exact ih (hkept state call hstart) hlater

theorem kept_of_mem {calls : List Call} {t : Transition} (h : state.document = some document)
    (ht : t ∈ client.history state calls) : t.before.document = some document := by
  have hkept : ∀ (before : State) call, before.document = some document →
      (Transition.make client before call).after.document = some document :=
    fun _ call hbefore => (uses_of_some hbefore call).kept
  obtain ⟨before, call, hbefore, rfl⟩ := exists_make_of_mem hkept h ht
  exact hbefore

theorem kept_of_later {calls : List Call} {early late : List Transition} {t later : Transition}
    (hsplit : client.history state calls = early ++ t :: late)
    (h : t.after.document = some document) (hlater : later ∈ late) :
    later.before.document = some document := by
  induction calls generalizing state early with
  | nil => simp [history] at hsplit
  | cons call rest ih =>
      cases early with
      | nil =>
          obtain ⟨rfl, rfl⟩ := List.cons_eq_cons.mp hsplit
          exact kept_of_mem h hlater
      | cons first early => exact ih (List.cons_eq_cons.mp hsplit).2

def IsIssued (client : Client) (state : State) : Prop :=
  ∀ document, state.document = some document → client.isIssuedBy document

theorem isIssued_make (client : Client) (state : State) (call : Call) (h : client.IsIssued state) :
    client.IsIssued (Transition.make client state call).after := by
  intro document hafter
  cases hbefore : state.document with
  | none =>
      rcases discovers_of_none hbefore call with
        ⟨failure, -, -, -, -, hfailed⟩ | ⟨found, -, ⟨hissuer, -⟩, -, huses⟩
      · rw [hfailed] at hafter
        exact h document hafter
      · obtain rfl : found = document := Option.some.inj (huses.kept.symm.trans hafter)
        exact decide_eq_true hissuer
  | some kept =>
      obtain rfl : kept = document :=
        Option.some.inj ((uses_of_some hbefore call).kept.symm.trans hafter)
      exact h kept hbefore

/-! ## Registrations -/

theorem eq_of_checkUrl {refusal : Option Text → Refusal} {given : Option Text} {value : Text}
    (h : checkUrl refusal given = .ok value) : value = given.getD [] := by
  unfold checkUrl at h
  dsimp only at h
  split at h
  · contradiction
  · split at h
    · exact (Except.ok.inj h).symm
    · contradiction

theorem eq_of_checkId {given : Option Text} {clientId : Text} (h : checkId given = .ok clientId) :
    clientId = given.getD [] := by
  unfold checkId at h
  split at h
  · contradiction
  · contradiction
  · exact (Except.ok.inj h).symm

theorem eq_of_register {registration : Registration} (h : register registration = .ok client) :
    client = ⟨withoutTrailingSlashes (registration.issuerUrl.getD []),
      registration.clientId.getD [], registration.clientSecret, registration.redirectUrl.getD [],
      withOpenid registration.scopes, registration.timeout⟩ := by
  unfold register at h
  cases hissuer : checkUrl .issuerUrl registration.issuerUrl with
  | error failure => simp [hissuer, bind, Except.bind] at h
  | ok issuer =>
      cases hredirect : checkUrl .redirectUrl registration.redirectUrl with
      | error failure => simp [hissuer, hredirect, bind, Except.bind] at h
      | ok redirectUrl =>
          cases hid : checkId registration.clientId with
          | error failure => simp [hissuer, hredirect, hid, bind, Except.bind] at h
          | ok clientId =>
              simp only [hissuer, hredirect, hid, bind, Except.bind, Except.ok.injEq] at h
              rw [← eq_of_checkUrl hissuer, ← eq_of_checkUrl hredirect, ← eq_of_checkId hid, h]

theorem withoutTrailingSlashes_append (base : Text) (n : Nat) :
    withoutTrailingSlashes (base ++ List.replicate n (CodePoint.ofChar '/')) =
      withoutTrailingSlashes base := by
  unfold withoutTrailingSlashes Split.trimEnd
  rw [List.reverse_append, List.reverse_replicate, List.dropWhile_append_of_pos]
  intro c hc
  simp [List.eq_of_mem_replicate hc]

theorem issuer_of_register {registration : Registration}
    (h : register registration = .ok client) :
    client.issuer = withoutTrailingSlashes (registration.issuerUrl.getD []) :=
  congrArg issuer (eq_of_register h)

def sampleRegistration : Registration where
  issuerUrl := some "https://i//"
  clientId := some "c"
  clientSecret := "s"
  redirectUrl := some "https://a/cb"
  scopes := []

def sampleState : State :=
  ⟨[.failed "x", .answered ⟨200, [], Utf8.encode Service.sampleMetadata⟩], [], .ofList [], 0, 0,
    none, .empty 0 0, .empty⟩

end Client

end SignOn

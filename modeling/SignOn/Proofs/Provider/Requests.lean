import SignOn.Proofs.Flow.Protocol
import SignOn.Proofs.Http.Request
import SignOn.Proofs.Url.Form
import SignOn.Provider.Authorization
import SignOn.Provider.Exchange

/-!
# Requests to the provider

A request for tokens posts a form that names its code; `Http.Request.code?` reads the code off a
request.  No other request of a client has one.  So a protocol that lets a client ask for
documents needs to know of requests for tokens only.
-/

namespace SignOn

/-- The code that a request asks tokens for. -/
def Http.Request.code? (request : Http.Request) : Option Text :=
  match request.method with
  | .get => none
  | .post => do
      let form ← Percent.formDecode? request.body
      let field ← form.find? fun field => field.1 = Text.ofString "code"
      some field.2

namespace Http

theorem method_getRequest {target : Text} {authorization : Option Text} {request : Request}
    (h : getRequest target authorization = .ok request) : request.method = .get := by
  obtain ⟨-, url, -, rfl⟩ := getRequest_eq_ok_iff.mp h
  rfl

theorem code?_getRequest {target : Text} {authorization : Option Text} {request : Request}
    (h : getRequest target authorization = .ok request) : request.code? = none := by
  rw [Request.code?, method_getRequest h]

end Http

namespace Client

variable {client : Client} {document : Metadata} {code : Text} {request : Http.Request}

structure IsWritable (client : Client) (code : Text) : Prop where
  code : code.IsScalar
  redirectUrl : client.redirectUrl.IsScalar
  clientId : client.clientId.IsScalar
  clientSecret : client.clientSecret.IsScalar

theorem tokenCredentials_eq_ok_iff {given : Option Text} :
    client.tokenCredentials document = .ok given ↔
      if document.takesSecretInForm then given = none
      else client.clientId.IsScalar ∧ client.clientSecret.IsScalar ∧
        given = some (Http.basic client.clientId client.clientSecret) := by
  unfold tokenCredentials
  split
  · simp [eq_comm]
  · simp [bind_eq_ok_iff, Http.checkEncodable_eq_ok_iff, eq_comm (b := given)]

def tokenHeader (client : Client) (document : Metadata) (url : Url) : Option Text :=
  if document.takesSecretInForm then Http.credentials url none
  else some (Http.basic client.clientId client.clientSecret)

theorem forall_mem_tokenForm_iff :
    (∀ pair ∈ client.tokenForm document code, pair.2.IsScalar) ↔
      code.IsScalar ∧ client.redirectUrl.IsScalar ∧ client.clientId.IsScalar ∧
        (document.takesSecretInForm → client.clientSecret.IsScalar) := by
  have hgrant : Text.IsScalar (Text.ofString "authorization_code") := by decide
  unfold tokenForm
  split
  next hform => simp [hform, hgrant]
  next hform => simp [hform, hgrant]

theorem tokenRequest_eq_ok_iff :
    client.tokenRequest document code = .ok request ↔
      client.IsWritable code ∧ ∃ url, Http.siteUrl document.tokenEndpoint = .ok url ∧
        request = ⟨.post, url, client.tokenHeader document url, "application/json",
          some "application/x-www-form-urlencoded",
          Percent.formEncode (client.tokenForm document code)⟩ := by
  simp only [tokenRequest, bind_eq_ok_iff, tokenCredentials_eq_ok_iff,
    Http.postRequest_eq_ok_iff, forall_mem_tokenForm_iff]
  by_cases hform : document.takesSecretInForm
  · simp only [tokenHeader, hform, forall_const]
    constructor
    · rintro ⟨_, rfl, ⟨hcode, hredirect, hid, hsecret⟩, url, hurl, rfl⟩
      exact ⟨⟨hcode, hredirect, hid, hsecret⟩, url, hurl, rfl⟩
    · rintro ⟨⟨hcode, hredirect, hid, hsecret⟩, url, hurl, rfl⟩
      exact ⟨none, rfl, ⟨hcode, hredirect, hid, hsecret⟩, url, hurl, rfl⟩
  · simp only [tokenHeader, hform]
    constructor
    · rintro ⟨_, ⟨-, hsecret, rfl⟩, ⟨hcode, hredirect, hid, -⟩, url, hurl, rfl⟩
      exact ⟨⟨hcode, hredirect, hid, hsecret⟩, url, hurl, rfl⟩
    · rintro ⟨⟨hcode, hredirect, hid, hsecret⟩, url, hurl, rfl⟩
      exact ⟨_, ⟨hid, hsecret, rfl⟩, ⟨hcode, hredirect, hid, nofun⟩, url, hurl, rfl⟩

theorem isScalar_of_mem_tokenForm {pair : Text × Text}
    (h : pair ∈ client.tokenForm document code) : pair.1.IsScalar := by
  have hnames : ∀ name ∈ (client.tokenForm document code).map (·.1), Text.IsScalar name := by
    unfold tokenForm
    split <;>
      simp only [List.cons_append, List.nil_append, List.map_cons, List.map_nil] <;> decide
  exact hnames _ (List.mem_map_of_mem h)

theorem find?_tokenForm (client : Client) (document : Metadata) (code : Text) :
    (client.tokenForm document code).find? (fun field => field.1 = Text.ofString "code") =
      some (Text.ofString "code", code) := by
  have hgrant : Text.ofString "grant_type" ≠ Text.ofString "code" := by decide
  unfold tokenForm
  split <;> simp [hgrant]

theorem IsWritable.isScalar_form (h : client.IsWritable code) :
    ∀ pair ∈ client.tokenForm document code, pair.2.IsScalar :=
  forall_mem_tokenForm_iff.mpr ⟨h.code, h.redirectUrl, h.clientId, fun _ => h.clientSecret⟩

theorem IsWritable.formDecode?_formEncode (h : client.IsWritable code) :
    Percent.formDecode? (Percent.formEncode (client.tokenForm document code)) =
      some (client.tokenForm document code) := by
  refine Percent.formDecode?_formEncode ?_ fun pair hpair =>
    ⟨isScalar_of_mem_tokenForm hpair, h.isScalar_form pair hpair⟩
  unfold tokenForm
  split <;> simp

theorem code?_tokenRequest (h : client.tokenRequest document code = .ok request) :
    request.code? = some code := by
  obtain ⟨hwritable, url, -, rfl⟩ := tokenRequest_eq_ok_iff.mp h
  simp [Http.Request.code?, hwritable.formDecode?_formEncode, find?_tokenForm]

theorem userInfoRequest_eq_ok_iff {endpoint accessToken : Text} :
    userInfoRequest endpoint accessToken = .ok request ↔
      (∀ c ∈ accessToken, c.isAscii = true) ∧ ∃ url, Http.siteUrl endpoint = .ok url ∧
        request = ⟨.get, url, Http.credentials url (some (Http.bearer accessToken)), "*/*", none,
          []⟩ := by
  have hscheme : ∀ c ∈ Text.ofString "Bearer ", c.isAscii = true := by decide
  have hbearer : (∀ c ∈ Http.bearer accessToken, c.isAscii = true) ↔
      ∀ c ∈ accessToken, c.isAscii = true := by
    rw [Http.bearer, List.forall_mem_append]
    exact and_iff_right hscheme
  rw [userInfoRequest, Http.getRequest_eq_ok_iff, Http.checkHeader_eq_ok_iff, hbearer]

end Client

/-- Asking for documents is possible at a point and leads nowhere else. -/
structure Protocol.Admits {σ : Type} (protocol : Protocol σ) (point : σ) : Prop where
  document : ∀ answer, protocol point .document answer point
  keep : ∀ document answer, protocol point (.keep document) answer point
  send : ∀ (request : Http.Request) outcome, request.code? = none →
    protocol point (.send request) outcome point

variable {σ : Type} {protocol : Protocol σ} {point : σ}

theorem Flow.run_ofChecked {ε α : Type} (failure : ε → Failure) (x : Except ε α)
    (state : State) : (Flow.ofChecked failure x).run state = (x.mapError failure, state) := by
  cases x <;> rfl

theorem Flow.follows_ofChecked {ε α : Type} {failure : ε → Failure} {x : Except ε α}
    {post : Except Failure α → σ → Prop} (hok : ∀ a, x = .ok a → post (.ok a) point)
    (herror : ∀ fault, x = .error fault → post (.error (failure fault)) point) :
    (Flow.ofChecked failure x).Follows protocol point post := by
  cases x with
  | ok a => exact hok a rfl
  | error fault => exact herror fault rfl

theorem Flow.follows_fetch {α : Type} {refusal : DocumentFault → Refusal} {model : Text}
    {read : Json → Record.Checked α} {request : Except Http.Fault Http.Request}
    (h : protocol.Admits point)
    (hrequest : ∀ actual, request = .ok actual → actual.code? = none) :
    (Flow.fetch refusal model read request).Follows protocol point fun _ q => q = point := by
  cases request with
  | error fault => exact rfl
  | ok actual =>
      refine Follows.perform_bind fun outcome =>
        ⟨point, h.send actual outcome (hrequest actual rfl), ?_⟩
      exact follows_ofChecked (fun _ _ => rfl) fun _ _ => rfl

namespace Client

theorem follows_discover (h : protocol.Admits point) (client : Client) :
    client.discover.Follows protocol point fun _ q => q = point := by
  refine Flow.Follows.perform_bind fun kept => ⟨point, h.document kept, ?_⟩
  cases kept with
  | some document => exact rfl
  | none =>
      refine Flow.Follows.bind (Flow.follows_fetch h fun _ hr => Http.code?_getRequest hr) ?_
        fun _ _ hq => hq
      rintro document q rfl
      by_cases hissuer : client.isIssuedBy document
      · rw [if_pos hissuer]
        exact Flow.Follows.perform_bind fun answer => ⟨q, h.keep document answer, rfl⟩
      · rw [if_neg hissuer]
        exact rfl

theorem follows_userInfo (h : protocol.Admits point) (client : Client) (accessToken : Text) :
    (client.userInfo accessToken).Follows protocol point fun _ q => q = point := by
  refine Flow.Follows.bind (follows_discover h client) ?_ fun _ _ hq => hq
  rintro document q rfl
  split
  · exact rfl
  · exact rfl
  · exact Flow.follows_fetch h fun _ hr => Http.code?_getRequest hr

theorem follows_exchangeCode (h : protocol.Admits point) (client : Client) {code : Text}
    {asked : Http.Request → Http.Outcome → σ}
    (hask : ∀ (request : Http.Request) outcome, request.code? = some code →
      protocol point (.send request) outcome (asked request outcome)) :
    (client.exchangeCode code).Follows protocol point fun result q =>
      (q = point ∧ ∃ failure, result = .error failure) ∨
        ∃ request outcome, request.code? = some code ∧ q = asked request outcome ∧
          result = tokensOf request outcome := by
  refine Flow.Follows.bind (follows_discover h client) ?_
    fun failure q hq => .inl ⟨hq, failure, rfl⟩
  rintro document q rfl
  cases hrequest : client.tokenRequest document code with
  | error fault => exact .inl ⟨rfl, tokenFailure fault, rfl⟩
  | ok request =>
      have hcode := code?_tokenRequest hrequest
      refine Flow.Follows.perform_bind fun outcome => ⟨_, hask request outcome hcode, ?_⟩
      refine Flow.follows_ofChecked (fun tokens htokens => ?_) fun failure hfailure => ?_
      · exact .inr ⟨request, outcome, hcode, rfl, htokens.symm⟩
      · exact .inr ⟨request, outcome, hcode, rfl, hfailure.symm⟩

end Client

end SignOn

import SignOn.Proofs.Provider.Discovery

/-!
# What a token request carries

A code goes to the token endpoint in a form, with the values of the client, and the secret goes
with it in the form or in a header.  The form is read back as it was, so the body of a request
tells its code.
-/

namespace SignOn

namespace Metadata

variable {document : Metadata}

def Advertises (document : Metadata) (method : Text) : Prop :=
  ∃ methods, document.tokenEndpointAuthMethods = some methods ∧ method ∈ methods

/-- The token endpoint takes a secret in the form only. -/
def PostsSecret (document : Metadata) : Prop :=
  document.Advertises "client_secret_post" ∧ ¬document.Advertises "client_secret_basic"

theorem mem_authMethods_iff {method : Text} :
    method ∈ document.tokenEndpointAuthMethods.getD [] ↔ document.Advertises method := by
  unfold Advertises
  cases document.tokenEndpointAuthMethods with
  | none => simp
  | some methods => simp

theorem takesSecretInForm_iff : document.takesSecretInForm = true ↔ document.PostsSecret := by
  unfold takesSecretInForm PostsSecret
  simp only [Bool.and_eq_true, Bool.not_eq_true', ← Bool.not_eq_true, List.contains_iff_mem,
    mem_authMethods_iff]

end Metadata

def Registration.grant (registration : Registration) (code : Text) : Percent.Form := [
  ("grant_type", "authorization_code"),
  ("code", code),
  ("redirect_uri", registration.redirectUrl.getD []),
  ("client_id", registration.clientId.getD [])]

/-- A request that posts the grant of a code, with the secret in one of the two ways. -/
structure PostsGrant (registration : Registration) (document : Metadata) (code : Text)
    (request : Http.Request) : Prop where
  method : request.method = .post
  url : Http.siteUrl document.tokenEndpoint = .ok request.url
  contentType : request.contentType = some "application/x-www-form-urlencoded"
  /-- There may be a header all the same, where the endpoint names credentials of its own. -/
  posted : document.PostsSecret →
    Percent.formDecode? request.body =
      some (registration.grant code ++
        ([("client_secret", registration.clientSecret)] : Percent.Form)) ∧
    request.authorization = Http.credentials request.url none
  shown : ¬document.PostsSecret →
    Percent.formDecode? request.body = some (registration.grant code) ∧
    request.authorization = some ("Basic " ++ (Base64.encode .standard true (Utf8.encode
      (registration.clientId.getD [] ++ ":" ++ registration.clientSecret))).map CodePoint.ofByte)

namespace Client

variable {client : Client} {registration : Registration} {document : Metadata} {state : State}
  {code : Text} {request : Http.Request}

theorem isSome_tokenRequest_iff :
    (client.tokenRequest document code).toOption.isSome ↔
      client.IsWritable code ∧ ∃ url, Http.siteUrl document.tokenEndpoint = .ok url := by
  constructor
  · intro h
    obtain ⟨request, hrequest⟩ := exists_ok_of_isSome h
    obtain ⟨hwritable, url, hurl, -⟩ := tokenRequest_eq_ok_iff.mp hrequest
    exact ⟨hwritable, url, hurl⟩
  · rintro ⟨hwritable, url, hurl⟩
    rw [tokenRequest_eq_ok_iff.mpr ⟨hwritable, url, hurl, rfl⟩]
    rfl

theorem postsGrant_of_tokenRequest (hregister : register registration = .ok client)
    (h : client.tokenRequest document code = .ok request) :
    PostsGrant registration document code request := by
  obtain ⟨hwritable, url, hurl, rfl⟩ := tokenRequest_eq_ok_iff.mp h
  have hread : Percent.formDecode? (Percent.formEncode (client.tokenForm document code)) =
      some (client.tokenForm document code) := hwritable.formDecode?_formEncode
  obtain rfl := eq_of_register hregister
  refine ⟨rfl, hurl, rfl, fun hposts => ?_, fun hshows => ?_⟩
  · have hform := Metadata.takesSecretInForm_iff.mpr hposts
    refine ⟨hread.trans ?_, if_pos hform⟩
    rw [tokenForm, if_pos hform]
    rfl
  · have hform := mt Metadata.takesSecretInForm_iff.mp hshows
    refine ⟨hread.trans ?_, if_neg hform⟩
    rw [tokenForm, if_neg hform]
    rfl

theorem sent_exchangeCode_of_some (h : state.document = some document) (code : Text) :
    ((client.exchangeCode code).run state).2.sent =
      state.sent ++ (client.tokenRequest document code).toOption.toList := by
  rw [snd_run_exchangeCode_of_some h]
  rfl

theorem tokenRequest_of_sent (h : state.document = some document)
    (hsent : ((client.exchangeCode code).run state).2.sent = state.sent ++ [request]) :
    client.tokenRequest document code = .ok request := by
  rw [sent_exchangeCode_of_some h] at hsent
  exact eq_ok_of_toOption (Option.toList_eq_singleton_iff.mp (List.append_cancel_left hsent))

theorem code_eq_of_body_eq {other : Client} {otherDocument : Metadata} {otherCode : Text}
    {another : Http.Request} (h : client.tokenRequest document code = .ok request)
    (hother : other.tokenRequest otherDocument otherCode = .ok another)
    (hbody : another.body = request.body) : otherCode = code := by
  have hread := code?_tokenRequest h
  have hotherRead := code?_tokenRequest hother
  obtain ⟨-, url, -, rfl⟩ := tokenRequest_eq_ok_iff.mp h
  obtain ⟨-, otherUrl, -, rfl⟩ := tokenRequest_eq_ok_iff.mp hother
  simp only [Http.Request.code?] at hread hotherRead hbody
  rw [hbody, hread] at hotherRead
  exact (Option.some.inj hotherRead).symm

/-- With a document kept, an exchange sends one request if its URL can be used and its values
written, and else none.  The request posts the grant, and its body is that of no other code. -/
theorem exchange_posts_grant (hregister : register registration = .ok client)
    (hkept : state.document = some document) (code : Text) :
    ∃ asked : Option Http.Request,
      ((client.exchangeCode code).run state).2.sent = state.sent ++ asked.toList ∧
      (asked.isSome ↔ (∃ url, Http.siteUrl document.tokenEndpoint = .ok url) ∧
        code.IsScalar ∧ (registration.redirectUrl.getD []).IsScalar ∧
        (registration.clientId.getD []).IsScalar ∧ registration.clientSecret.IsScalar) ∧
      ∀ request, asked = some request → PostsGrant registration document code request ∧
        ∀ (other : Client) (start : State) otherDocument otherCode another,
          start.document = some otherDocument →
          ((other.exchangeCode otherCode).run start).2.sent = start.sent ++ [another] →
          another.body = request.body → otherCode = code := by
  refine ⟨(client.tokenRequest document code).toOption, sent_exchangeCode_of_some hkept code, ?_,
    fun request hasked => ?_⟩
  · rw [isSome_tokenRequest_iff, eq_of_register hregister]
    constructor
    · rintro ⟨⟨hcode, hredirect, hid, hsecret⟩, hurl⟩
      exact ⟨hurl, hcode, hredirect, hid, hsecret⟩
    · rintro ⟨hurl, hcode, hredirect, hid, hsecret⟩
      exact ⟨⟨hcode, hredirect, hid, hsecret⟩, hurl⟩
  · have hrequest := eq_ok_of_toOption hasked
    refine ⟨postsGrant_of_tokenRequest hregister hrequest,
      fun other start otherDocument otherCode another hstart hsent hbody => ?_⟩
    exact code_eq_of_body_eq hrequest (tokenRequest_of_sent hstart hsent) hbody

def postingDocument : Metadata :=
  ⟨"https://i", "https://i/a", "https://i/t", none, none, some ["client_secret_post"]⟩

def postingState : State := { sampleState with document := some postingDocument }

/-- Code and secret hold what a form is cut at, and what its values are escaped with. -/
theorem exchange_posts_grant_in_sample :
    ∃ client request,
      register { sampleRegistration with clientSecret := "s&code=+%41" } = .ok client ∧
      ((client.exchangeCode "k&client_secret=").run postingState).2.sent = [request] ∧
      Percent.formDecode? request.body = some ([
        ("grant_type", "authorization_code"), ("code", "k&client_secret="),
        ("redirect_uri", "https://a/cb"), ("client_id", "c"),
        ("client_secret", "s&code=+%41")] : Percent.Form) ∧
      request.authorization = none := by
  obtain ⟨client, hregister⟩ : ∃ client,
      register { sampleRegistration with clientSecret := "s&code=+%41" } = .ok client :=
    exists_ok_of_isSome (by decide +kernel)
  have hkept : postingState.document = some postingDocument := rfl
  obtain ⟨asked, hsent, hasked, hposts⟩ :=
    exchange_posts_grant hregister hkept "k&client_secret="
  have hurl : ∃ url, Http.siteUrl postingDocument.tokenEndpoint = .ok url :=
    exists_ok_of_isSome (by decide +kernel)
  obtain ⟨request, rfl⟩ := Option.isSome_iff_exists.mp
    (hasked.mpr ⟨hurl, by decide, by decide, by decide, by decide⟩)
  obtain ⟨hgrant, -⟩ := hposts request rfl
  obtain ⟨hform, hheader⟩ := hgrant.posted (Metadata.takesSecretInForm_iff.mp (by decide))
  have hnone : (Http.siteUrl postingDocument.tokenEndpoint).toOption.all
      (fun url => Http.credentials url none = none) := by decide +kernel
  rw [hgrant.url] at hnone
  exact ⟨client, request, hregister, hsent, hform, hheader.trans (of_decide_eq_true hnone)⟩

end Client

end SignOn

import SignOn.Proofs.Service.Exchange
import SignOn.Proofs.Token.Obstruction
import SignOn.Proofs.Web.Simulation

/-!
# Identity tokens that are not accepted

An identity token is accepted, or refused as one that cannot be decoded, or something about it
obstructs its check.  A request for an exchange whose token is refused is answered with the status
of a bad gateway; where the check is obstructed, with an error of the application.
-/

namespace SignOn

namespace Token

/-- What comes of a token: three ways, and no token goes two of them. -/
inductive Judges (leeway now : Int) (token : Text) : Prop
  | accepted (claims : IdentityClaims) (h : parse leeway now token = .ok claims)
      (hclear : ∀ interruption, ¬Obstructs leeway now token interruption)
  | refused (failure : Failure) (refusal : Refusal) (h : parse leeway now token = .error failure)
      (hrefusal : SignOn.Failure.ofToken failure = .refused refusal)
      (hkind : refusal.kind = .identityTokenDecode) (hstatus : refusal.status = 502)
      (hmessage : refusal.message = Text.ofString "Could not decode id token")
      (hclear : ∀ interruption, ¬Obstructs leeway now token interruption)
  | obstructed (interruption : Interruption) (h : Obstructs leeway now token interruption)
      (hparse : parse leeway now token = .error (.interrupted interruption))

theorem judges (leeway now : Int) (token : Text) : Judges leeway now token := by
  have hclear : ∀ result, parse leeway now token = result →
      (∀ interruption, result ≠ .error (.interrupted interruption)) →
      ∀ interruption, ¬Obstructs leeway now token interruption := by
    rintro _ rfl hnot interruption hobstructs
    exact hnot interruption (parse_interrupted_iff.mpr hobstructs)
  cases hparse : parse leeway now token with
  | ok claims => exact .accepted claims hparse (hclear _ hparse nofun)
  | error failure =>
      rcases refused_or_interrupted failure with
        ⟨refusal, hrefusal, hkind, hstatus, hmessage⟩ | ⟨interruption, rfl, -⟩
      · refine .refused failure refusal hparse hrefusal hkind hstatus hmessage (hclear _ hparse ?_)
        rintro interruption ⟨⟩
        contradiction
      · exact .obstructed interruption (parse_interrupted_iff.mp hparse) hparse

end Token

namespace Web

variable {app : App} {settings : Settings} {client : Client} {request : Request} {code : Text}

/-- An exchange that got tokens from the provider, with an identity token among them. -/
structure Presents (client : Client) (code : Text) (state : State) (token : Text) : Prop where
  initiated : state.phase code = .initiated
  traded : ∃ document tokens asked, client.Trades code state.outlook document tokens asked ∧
    Service.nonempty? tokens.idToken = some token

def tokenRefusal : Response := .detail 502 (.str "Could not decode id token")

theorem handle_of_presents (h : app.Serves settings client)
    (hcall : Step.call? settings (.request request) = some (.exchange code)) {token : Text}
    (hpresents : Presents client code app.state token) {failure : Token.Failure}
    (hparse : Token.parse Service.leeway app.state.wall token = .error failure) :
    (app.handle request).1 =
      sentAs settings request (imageOf (.exchange code) (.failed (Failure.ofToken failure))) := by
  obtain ⟨hinitiated, document, tokens, asked, htrades, htoken⟩ := hpresents
  have hresult := Service.fst_run_exchange_of_parse hinitiated htrades htoken hparse
  have hstep : (Service.step client app.state (.exchange code)).1 =
      .failed (Failure.ofToken failure) := by
    change Service.Result.ofRun ((Service.exchange client code).run app.state).1 = _
    rw [hresult]
    rfl
  rw [(handle_of_call h hcall).1, hstep]

/-- A token is refused unless something obstructs its check, and the exchange that presents it is
answered so.  A text without a UTF-8 form, a header or a payload that is nested too deeply, a header
that names no algorithm and a time that is no value to be tried as an integer are what obstructs. -/
theorem refused_unless_obstructed (leeway now : Int) (token : Text) :
    Token.Judges leeway now token ∧
    ∀ (app : App) (settings : Settings) (client : Client) (request : Request) (code : Text),
      app.Serves settings client →
      Step.call? settings (.request request) = some (.exchange code) →
      Presents client code app.state token →
      (∀ claims, Token.parse Service.leeway app.state.wall token ≠ .ok claims) →
        ((∀ interruption,
            ¬Token.Obstructs Service.leeway app.state.wall token interruption) →
          (app.handle request).1 =
            tokenRefusal.withHeaders ((Cors.ofSettings settings).headersFor request)) ∧
        ∀ interruption, Token.Obstructs Service.leeway app.state.wall token interruption →
          (app.handle request).1 = .unexpected := by
  refine ⟨Token.judges leeway now token,
    fun app settings client request code h hcall hpresents hfails => ?_⟩
  cases Token.judges Service.leeway app.state.wall token with
  | accepted claims hparse => exact absurd hparse (hfails claims)
  | refused failure refusal hparse hrefusal _ hstatus hmessage hclear =>
      refine ⟨fun _ => ?_, fun interruption hobstructs => absurd hobstructs (hclear interruption)⟩
      rw [handle_of_presents h hcall hpresents hparse, hrefusal]
      change sentAs settings request
        (some (refusal.message, .detail refusal.status (.str refusal.message))) = _
      rw [hstatus, hmessage]
      rfl
  | obstructed interruption hobstructs hparse =>
      refine ⟨fun hclear => absurd hobstructs (hclear interruption), fun _ _ => ?_⟩
      rw [handle_of_presents h hcall hpresents hparse]
      rfl

open Service (sampleCode sampleMetadata)

def isInterrupted : Token.Checked IdentityClaims → Bool
  | .error (.interrupted _) => true
  | _ => false

def oneSegmentTokens : Text :=
  Service.textsDocument [("access_token", "a"), ("id_token", "x")]

theorem refused_unless_obstructed_in_sample :
    ∃ app, App.start sampleSettings (sampleStart [sampleMetadata, oneSegmentTokens]) = .ok app ∧
      Presents registeredClient sampleCode app.state "x" ∧
      (app.handle exchangeRequest).1 = tokenRefusal.withHeaders
        ((Cors.ofSettings sampleSettings).headersFor exchangeRequest) := by
  obtain ⟨app, hstart, hstate⟩ := exists_start_sample [sampleMetadata, oneSegmentTokens]
  have hserves := (serves_start rfl register_sample hstart).1
  have hcall : Step.call? sampleSettings (.request exchangeRequest) =
      some (.exchange sampleCode) := by decide +kernel
  have htokens : ((registeredClient.exchangeCode sampleCode).run app.state).1.toOption =
      some ⟨"a", "Bearer", none, some (Text.ofString "x"), none⟩ := by
    rw [hstate]
    decide +kernel
  have hpresents : Presents registeredClient sampleCode app.state "x" := by
    refine ⟨by rw [hstate]; decide +kernel, ?_⟩
    rcases hrun : (registeredClient.exchangeCode sampleCode).run app.state with
      ⟨failure | tokens, next⟩
    · rw [hrun] at htokens
      exact nomatch htokens
    · rw [hrun] at htokens
      have hequal := Option.some.inj htokens
      obtain ⟨document, asked, htrades, -⟩ := Client.run_exchangeCode_eq_ok_iff.mp hrun
      exact ⟨document, tokens, asked, htrades, by rw [hequal]; decide +kernel⟩
  have hparse : (Token.parse Service.leeway app.state.wall "x").toOption = none ∧
      isInterrupted (Token.parse Service.leeway app.state.wall "x") = false := by
    rw [hstate]
    decide +kernel
  obtain ⟨-, hanswers⟩ := refused_unless_obstructed Service.leeway app.state.wall "x"
  have hanswer := hanswers app sampleSettings registeredClient exchangeRequest sampleCode
    hserves hcall hpresents fun claims hok => by
      rw [hok] at hparse
      exact nomatch hparse.1
  refine ⟨app, hstart, hpresents, hanswer.1 fun interruption hobstructs => ?_⟩
  rw [Token.parse_interrupted_iff.mpr hobstructs] at hparse
  exact nomatch hparse.2

/-- The identity token of `{"alg":"a"}` and `{"exp":null,"nonce":"n"}`. -/
def timelessToken : Text := "eyJhbGciOiJhIn0.eyJleHAiOm51bGwsIm5vbmNlIjoibiJ9.c2ln"

theorem not_always_decoded_or_refused :
    ¬ ∀ (leeway now : Int) (token : Text),
      (∃ claims, Token.parse leeway now token = .ok claims) ∨
        ∃ failure refusal, Token.parse leeway now token = .error failure ∧
          Failure.ofToken failure = .refused refusal := by
  intro hclaim
  have hinterrupted : isInterrupted (Token.parse 60 0 timelessToken) = true := by decide +kernel
  rcases hclaim 60 0 timelessToken with ⟨claims, hparse⟩ | ⟨failure, refusal, hparse, hrefusal⟩
  · rw [hparse] at hinterrupted
    exact nomatch hinterrupted
  · rw [hparse] at hinterrupted
    cases failure with
    | rejected reason => exact nomatch hinterrupted
    | incomplete issues => exact nomatch hinterrupted
    | interrupted interruption => exact nomatch hrefusal

end Web

end SignOn

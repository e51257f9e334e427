import SignOn.Provider.Document

/-!
# Exchanging a code with the provider

The token endpoint gives tokens for a code.  The client shows its secret there in one of two ways:
as credentials in a header, or in the form where the provider supports that way only.  The user
info endpoint gives the claims of a user for an access token.
-/

namespace SignOn

def Metadata.takesSecretInForm (document : Metadata) : Bool :=
  let methods := document.tokenEndpointAuthMethods.getD []
  methods.contains (Text.ofString "client_secret_post") &&
    !methods.contains (Text.ofString "client_secret_basic")

namespace Client

def tokenForm (client : Client) (document : Metadata) (code : Text) : Percent.Form :=
  let grant : Percent.Form := [
    ("grant_type", "authorization_code"),
    ("code", code),
    ("redirect_uri", client.redirectUrl),
    ("client_id", client.clientId)]
  let secret : Percent.Form := [("client_secret", client.clientSecret)]
  if document.takesSecretInForm then grant ++ secret else grant

def tokenCredentials (client : Client) (document : Metadata) :
    Except Http.Fault (Option Text) := do
  if document.takesSecretInForm then .ok none
  else
    Http.checkEncodable client.clientId
    Http.checkEncodable client.clientSecret
    .ok (some (Http.basic client.clientId client.clientSecret))

def tokenRequest (client : Client) (document : Metadata) (code : Text) :
    Except Http.Fault Http.Request := do
  let credentials ← client.tokenCredentials document
  Http.postRequest document.tokenEndpoint credentials (client.tokenForm document code)

/-- Only a fault on the way to the endpoint refuses the exchange. -/
def tokenFailure (fault : Http.Fault) : Failure :=
  if fault.family = .way then .refused (.tokenEndpoint fault) else .interrupted (.sending fault)

/-- An answer of another status is read as a text for the log, before the call is refused. -/
def tokensOf (request : Http.Request) (outcome : Http.Outcome) : Except Failure TokenAnswer :=
  match Http.receive request outcome with
  | .error fault => .error (tokenFailure fault)
  | .ok answer =>
      if answer.status = 200 then
        (readDocument TokenAnswer.model TokenAnswer.ofJson answer).mapError
          (DocumentFault.failure .tokenAnswer)
      else
        match answer.checkText with
        | .ok () => .error (.refused (.tokenStatus answer.status))
        | .error fault => .error (.interrupted (.text fault))

def exchangeCode (client : Client) (code : Text) : Flow TokenAnswer := do
  let document ← client.discover
  let request ← Flow.ofChecked tokenFailure (client.tokenRequest document code)
  let outcome ← Flow.send request
  Flow.ofChecked id (tokensOf request outcome)

def userInfoRequest (endpoint accessToken : Text) : Except Http.Fault Http.Request :=
  Http.getRequest endpoint (some (Http.bearer accessToken))

def userInfo (client : Client) (accessToken : Text) : Flow UserInfo := do
  let document ← client.discover
  match document.userinfoEndpoint with
  | none | some [] => Flow.refuse .userInfoEndpointMissing
  | some endpoint =>
      Flow.fetch .userInfo UserInfo.model UserInfo.ofJson (userInfoRequest endpoint accessToken)

end Client

end SignOn

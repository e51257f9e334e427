import SignOn.Provider.Document

/-!
# Authorization URLs

The URL that a browser is sent to: the provider's endpoint with the request as a query.  Its state
and its nonce are drawn afresh each time, and only once the provider's metadata are there.
-/

namespace SignOn

structure Authorization where
  url : Text
  state : Text
  nonce : Text
  deriving DecidableEq, Repr

namespace Client

def authorizationForm (client : Client) (state nonce : Text) : Percent.Form := [
  ("response_type", "code"),
  ("client_id", client.clientId),
  ("state", state),
  ("scope", Text.join " " client.scopes),
  ("redirect_uri", client.redirectUrl),
  ("nonce", nonce)]

/-- A query is appended to an endpoint that has one already. -/
def separator (endpoint : Text) : Text :=
  if endpoint.contains (CodePoint.ofChar '?') then "&" else "?"

def authorizationUrl (client : Client) (endpoint state nonce : Text) : Text :=
  endpoint ++ separator endpoint ++ Percent.formEncode (client.authorizationForm state nonce)

def authorize (client : Client) : Flow Authorization := do
  let document ← client.discover
  let state ← Flow.draw
  let nonce ← Flow.draw
  Flow.ofChecked (fun fault => .interrupted (.sending fault))
    (Http.checkForm (client.authorizationForm state nonce))
  return ⟨client.authorizationUrl document.authorizationEndpoint state nonce, state, nonce⟩

end Client

def randomToken (bytes : Bytes) : Text := (Base64.encode .urlSafe false bytes).map .ofByte

end SignOn

import SignOn.Failure.Basic
import SignOn.Settings

/-!
# The client of a provider

A registration is what is configured about a provider and this application with it.
`Client.register` accepts it or says what is wrong.
-/

namespace SignOn

structure Registration where
  issuerUrl : Option Text
  clientId : Option Text
  clientSecret : Text
  redirectUrl : Option Text
  /-- The scopes to ask for besides `openid`. -/
  scopes : List Text := ["email", "profile"]
  timeout : Binary64 := .ofInt 10
  deriving DecidableEq, Repr

def Settings.registration (settings : Settings) : Registration where
  issuerUrl := settings.issuerUrl
  clientId := settings.clientId
  clientSecret := settings.clientSecret
  redirectUrl := settings.redirectUrl
  scopes := settings.scopeList
  timeout := settings.httpTimeoutSeconds

structure Client where
  issuer : Text
  clientId : Text
  clientSecret : Text
  redirectUrl : Text
  scopes : List Text
  timeout : Binary64
  deriving DecidableEq, Repr

namespace Client

def openidScope : Text := "openid"

def withOpenid (scopes : List Text) : List Text :=
  openidScope :: scopes.filter (· ≠ openidScope)

def withoutTrailingSlashes (t : Text) : Text :=
  Split.trimEnd (fun (c : CodePoint) => c = CodePoint.ofChar '/') t

def checkUrl (refusal : Option Text → Refusal) (given : Option Text) : Except Failure Text :=
  let value := given.getD []
  match Url.origin? value with
  | .error fault => .error (.interrupted (.origin fault))
  | .ok origin =>
      if origin.isWeb then .ok value else .error (.refused (refusal given))

def checkId (given : Option Text) : Except Failure Text :=
  match given with
  | none | some [] => .error (.refused .clientId)
  | some clientId => .ok clientId

def register (registration : Registration) : Except Failure Client := do
  let issuer ← checkUrl .issuerUrl registration.issuerUrl
  let redirectUrl ← checkUrl .redirectUrl registration.redirectUrl
  let clientId ← checkId registration.clientId
  .ok ⟨withoutTrailingSlashes issuer, clientId, registration.clientSecret, redirectUrl,
    withOpenid registration.scopes, registration.timeout⟩

end Client

end SignOn

import SignOn.Web.Message

/-!
# Routes

Each endpoint has a path and a method.  A path that only its slashes at the end keep from being an
endpoint's is redirected to the endpoint's.
-/

namespace SignOn.Web

inductive Endpoint where
  | health
  | root
  | authorize
  | exchange
  | redeem
  deriving DecidableEq, Repr

namespace Endpoint

def all : List Endpoint := [.health, .root, .authorize, .exchange, .redeem]

def path : Endpoint → Text
  | .health => "/health"
  | .root => "/"
  | .authorize => "/api/v1/sso/authorize"
  | .exchange => "/api/v1/sso/exchange"
  | .redeem => "/api/v1/sso/redeem"

def method : Endpoint → Text
  | .health | .root | .authorize => "GET"
  | .exchange | .redeem => "POST"

def ofPath? (path : Text) : Option Endpoint := all.find? fun endpoint => endpoint.path = path

end Endpoint

inductive Route where
  | endpoint (endpoint : Endpoint)
  | otherMethod (endpoint : Endpoint)
  | redirected (path : Text)
  | unknown
  deriving DecidableEq, Repr

def slash : Text := "/"

def otherSlashes (path : Text) : Text :=
  if path.getLast? = some (CodePoint.ofChar '/') then
    Split.trimEnd (fun (c : CodePoint) => c = CodePoint.ofChar '/') path
  else path ++ slash

def route (method path : Text) : Route :=
  match Endpoint.ofPath? path with
  | some endpoint =>
      if endpoint.method = method then .endpoint endpoint else .otherMethod endpoint
  | none =>
      if path ≠ slash && (Endpoint.ofPath? (otherSlashes path)).isSome then
        .redirected (otherSlashes path)
      else .unknown

end SignOn.Web

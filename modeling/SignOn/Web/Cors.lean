import SignOn.Settings
import SignOn.Web.Message

/-!
# Cross-origin requests

A policy says which origins, methods and headers a page of another origin may use.  A browser asks
before it sends such a request: `preflight?` is the answer.  `headers` is what is added to the
response of the request itself.
-/

namespace SignOn.Web

structure Cors where
  origins : List Text
  credentials : Bool
  methods : List Text
  headers : List Text
  deriving DecidableEq, Repr

def Cors.ofSettings (settings : Settings) : Cors :=
  ⟨settings.corsOrigins, settings.corsAllowCredentials, settings.corsAllowMethods,
    settings.corsAllowHeaders⟩

namespace Cors

def wildcard : Text := "*"

def everyMethod : List Text :=
  ["DELETE", "GET", "HEAD", "OPTIONS", "PATCH", "POST", "PUT", "QUERY"]

def plainHeaders : List Text := ["Accept", "Accept-Language", "Content-Language", "Content-Type"]

def allowedMethods (policy : Cors) : List Text :=
  if policy.methods.contains wildcard then everyMethod else policy.methods

def everyHeader (policy : Cors) : Bool := policy.headers.contains wildcard

def allowedHeaders (policy : Cors) : List Text :=
  (plainHeaders ++ policy.headers).eraseDups.mergeSort Text.le

def everyOrigin (policy : Cors) : Bool := policy.origins.contains wildcard

/-- Whether the response names the origin: it cannot stand for all origins with credentials. -/
def namesOrigin (policy : Cors) : Bool := !policy.everyOrigin || policy.credentials

def allowsOrigin (policy : Cors) (origin : Text) : Bool :=
  policy.everyOrigin || policy.origins.contains origin

def originHeaders (policy : Cors) (origin : Text) : Headers :=
  headerIf (policy.allowsOrigin origin) "access-control-allow-origin"
      (if policy.namesOrigin then origin else wildcard) ++
    headerIf policy.credentials "access-control-allow-credentials" "true"

def headersFor (policy : Cors) (request : Request) : Headers :=
  headerIf policy.namesOrigin "vary" "Origin" ++
    match Headers.get? request.headers "origin" with
    | none => []
    | some origin => policy.originHeaders origin

def requestedNames (requested : Text) : List Text :=
  (Split.splitOn (CodePoint.ofChar ',') requested).map fun name =>
    Split.trim CodePoint.isBlank (Text.lower name)

def allowsHeaders (policy : Cors) : Option Text → Bool
  | none => true
  | some requested =>
      policy.everyHeader ||
        (requestedNames requested).all fun name =>
          (policy.allowedHeaders.map Text.lower).contains name

def failures (policy : Cors) (origin method : Text) (requested network : Option Text) :
    List Text :=
  let allowed : List (Text × Bool) := [
    ("origin", policy.allowsOrigin origin),
    ("method", policy.allowedMethods.contains method),
    ("headers", policy.allowsHeaders requested),
    ("private-network", network.isNone)]
  (allowed.filter fun entry => !entry.2).map (·.1)

def preflightVary (policy : Cors) : Text :=
  let names : List Text := ["Access-Control-Request-Method", "Access-Control-Request-Headers",
    "Access-Control-Request-Private-Network"]
  Text.join ", " (if policy.namesOrigin then Text.ofString "Origin" :: names else names)

/-- The headers that may be used: those that are asked for, where all may. -/
def headersHeader (policy : Cors) (requested : Option Text) : Headers :=
  if policy.everyHeader then
    headerIf requested.isSome "access-control-allow-headers" (requested.getD [])
  else header "access-control-allow-headers" (Text.join ", " policy.allowedHeaders)

def preflightHeaders (policy : Cors) (origin : Text) (requested : Option Text) : Headers :=
  header "vary" policy.preflightVary ++
    header "access-control-allow-methods" (Text.join ", " policy.allowedMethods) ++
    header "access-control-max-age" "600" ++
    policy.headersHeader requested ++ policy.originHeaders origin

def verdict : List Text → Response
  | [] => .ofText 200 "OK"
  | failures => .ofText 400 ("Disallowed CORS " ++ Text.join ", " failures)

def preflight? (policy : Cors) (request : Request) : Option Response := do
  let origin ← Headers.get? request.headers "origin"
  let method ← Headers.get? request.headers "access-control-request-method"
  if request.method ≠ Text.ofString "OPTIONS" then none
  else
    let requested := Headers.get? request.headers "access-control-request-headers"
    let network := Headers.get? request.headers "access-control-request-private-network"
    let failures := policy.failures origin method requested network
    some ((verdict failures).withHeaders (policy.preflightHeaders origin requested))

end Cors

end SignOn.Web

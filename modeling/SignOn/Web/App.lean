import SignOn.Database
import SignOn.Flow.Run
import SignOn.Service.Basic
import SignOn.Web.Cors
import SignOn.Web.Input
import SignOn.Web.Route

/-!
# The application

The application starts from its settings and answers requests one after another.  The client of
the provider is registered when it is first needed, and each time anew until that succeeds.
-/

namespace SignOn.Web

structure App where
  settings : Settings
  state : State
  client : Option Client
  database : Option Database.Fault

inductive StartFault where
  | version
  | capacity
  | database (fault : Database.Fault)
  deriving DecidableEq, Repr

def StartFault.versionMessage : Text :=
  "A version must be provided for OpenAPI, e.g.: '2.1.0'"

namespace App

/-- The table is there from the start only where it is to be created. -/
def startWith (settings : Settings) (state : State) (cache : Cache) : Except StartFault App :=
  match settings.databaseAutoCreate, Database.fault? settings.databaseUrl with
  | true, some fault => .error (.database fault)
  | created, fault =>
      let table := { state.table with hidden := !created }
      .ok ⟨settings, { state with cache, table }, none, fault⟩

def start (settings : Settings) (state : State) : Except StartFault App :=
  if settings.serviceVersion.isEmpty then .error .version
  else
    let lifetime := Ticks.ofSeconds settings.cacheTtlSeconds
    match Cache.ofCapacity? settings.cacheMaxEntries lifetime with
    | none => .error .capacity
    | some cache => startWith settings state cache

def nonces? (app : App) : Option (List Text) :=
  if app.database.isSome then none else app.state.table.nonces?

def stopOf : Failure → Stop
  | .refused refusal => .response (.detail refusal.status (.str refusal.message))
  | .interrupted _ => .unexpected

def requireClient (app : App) : Except Stop Client :=
  if !app.settings.ssoEnabled then .error (.response (.detail 404 (.str "SSO is not enabled")))
  else
    match app.client with
    | some client => .ok client
    | none => (Client.register app.settings.registration).mapError stopOf

def requireDatabase (app : App) : Except Stop Unit :=
  if app.database.isSome then .error .unexpected else .ok ()

structure Call where
  flow : Flow Text
  response : Text → Except Stop Response

/-- A URL that cannot be written is found out too late to refuse it. -/
def redirectTo (url : Text) : Except Stop Response :=
  if url.IsScalar then .ok (.redirect url) else .error .unexpected

def authorizeCall (app : App) (client : Client) : Except Stop Call := do
  app.requireDatabase
  .ok ⟨Service.authorize client, redirectTo⟩

def exchangeCall (client : Client) (input : Input) : Except Stop Call := do
  let code ← input.code
  .ok ⟨Service.exchange client code,
    fun email => .ok (.ofJson 200 (Json.object [("email", .str email)]))⟩

def redeemCall (app : App) (input : Input) : Except Stop Call := do
  app.requireDatabase
  let code ← input.code
  .ok ⟨Service.redeem code,
    fun token => .ok (.ofJson 200 (Json.object [("refresh_token", .str token)]))⟩

def runCall (app : App) (call : Call) : Except Stop Response × App :=
  let (result, state) := call.flow.run app.state
  (match result with
    | .ok value => call.response value
    | .error failure => .error (stopOf failure), { app with state })

def withClient (app : App) (prepare : Client → Except Stop Call) : Except Stop Response × App :=
  match app.requireClient with
  | .error stop => (.error stop, app)
  | .ok client =>
      let app := { app with client := some client }
      match prepare client with
      | .error stop => (.error stop, app)
      | .ok call => app.runCall call

def withInput (app : App) (request : Request) (prepare : Input → Client → Except Stop Call) :
    Except Stop Response × App :=
  match request.input with
  | .error response => (.error (.response response), app)
  | .ok input => app.withClient (prepare input)

def healthDocument (settings : Settings) : Json :=
  Json.object [("status", .str "healthy"), ("service", .str settings.serviceName),
    ("version", .str settings.serviceVersion), ("environment", .str settings.environment),
    ("sso_enabled", .bool settings.ssoEnabled)]

def rootDocument (settings : Settings) : Json :=
  Json.object [("service", .str settings.serviceName), ("version", .str settings.serviceVersion),
    ("description", .str "OpenID Connect SSO Bridge"), ("docs", .str "/docs"),
    ("health", .str "/health")]

def serve (app : App) (request : Request) : Endpoint → Except Stop Response × App
  | .health => (.ok (.ofJson 200 (healthDocument app.settings)), app)
  | .root => (.ok (.ofJson 200 (rootDocument app.settings)), app)
  | .authorize => app.withClient (authorizeCall app)
  | .exchange => app.withInput request fun input client => exchangeCall client input
  | .redeem => app.withInput request fun input _ => redeemCall app input

def urlWithPath (request : Request) (path : Text) : Text :=
  let query : Text := if request.query.isEmpty then [] else "?" ++ request.query
  request.scheme ++ "://" ++ request.host ++ path ++ query

def respond (app : App) (request : Request) : Except Stop Response × App :=
  match route request.method request.path with
  | .endpoint endpoint => app.serve request endpoint
  | .otherMethod endpoint =>
      (.ok ((Response.detail 405 (.str "Method Not Allowed")).withHeaders
        (header "allow" endpoint.method)), app)
  | .redirected path => (.ok (.redirect (urlWithPath request path)), app)
  | .unknown => (.ok (.detail 404 (.str "Not Found")), app)

/-- A response as it is sent; only what was foreseen gets the headers of the policy. -/
def complete (app : App) (request : Request) : Except Stop Response → Response
  | .ok response | .error (.response response) =>
      if response.isSendable then
        response.withHeaders ((Cors.ofSettings app.settings).headersFor request)
      else .unexpected
  | .error .unexpected => .unexpected

def headOnly (request : Request) (response : Response) : Response :=
  if request.method = Text.ofString "HEAD" then { response with content := .text [] } else response

def handle (app : App) (request : Request) : Response × App :=
  match (Cors.ofSettings app.settings).preflight? request with
  | some response => (response, app)
  | none =>
      let (outcome, next) := app.respond request
      (headOnly request (app.complete request outcome), next)

end App

inductive Step where
  | request (request : Request)
  | advance (ticks : Ticks)
  | setWall (seconds : Int)
  | change (change : Nonce.Table.Change)
  | supply (outcomes : List Http.Outcome)
  deriving DecidableEq, Repr

def App.step (app : App) : Step → Option Response × App
  | .request request =>
      let (response, next) := app.handle request
      (some response, next)
  | .advance ticks =>
      (none, { app with state := { app.state with clock := app.state.clock + ticks } })
  | .setWall wall => (none, { app with state := { app.state with wall } })
  | .change change =>
      (none, { app with state := { app.state with table := app.state.table.apply change } })
  | .supply outcomes => (none, { app with state := { app.state with outcomes } })

end SignOn.Web

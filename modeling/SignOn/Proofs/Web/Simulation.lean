import SignOn.Proofs.Checks
import SignOn.Proofs.Service.Release
import SignOn.Proofs.Service.Sample
import SignOn.Proofs.Web.Calls

/-!
# The application does what the service does

Each request to the application is a call to one service, or none.  The application stands where
that service stands after the calls, and its response is the image of what the service answers.  A
text that has no UTF-8 form is the one exception: the service answers with it, and the application
cannot.
-/

namespace SignOn.Web

/-! ## Responses -/

/-- The response that the result of a call makes, with the text that it carries. -/
def imageOf : Service.Step → Service.Result → Option (Text × Response)
  | .authorize, .text url => some (url, .redirect url)
  | .exchange _, .text email => some (email, .ofJson 200 (Json.object [("email", .str email)]))
  | .redeem _, .text token =>
      some (token, .ofJson 200 (Json.object [("refresh_token", .str token)]))
  | _, .failed (.refused refusal) =>
      some (refusal.message, .detail refusal.status (.str refusal.message))
  | _, _ => none

def sentAs (settings : Settings) (request : Request) : Option (Text × Response) → Response
  | some (carried, response) =>
      if carried.IsScalar then
        response.withHeaders ((Cors.ofSettings settings).headersFor request)
      else .unexpected
  | none => .unexpected

namespace App

def after (app : App) : List Step → App
  | [] => app
  | s :: rest => (app.step s).2.after rest

/-- An application that signs users on, and has the client already or will have it when it first
needs it. -/
structure Serves (app : App) (settings : Settings) (client : Client) : Prop where
  enabled : settings.ssoEnabled = true
  accepted : Client.register settings.registration = .ok client
  configured : app.settings = settings
  opened : app.database = Database.fault? settings.databaseUrl
  registered : app.client = none ∨ app.client = some client

end App

/-! ## One request -/

section Requests

variable {app : App} {settings : Settings} {client : Client} {request : Request}

theorem App.Serves.requireClient (h : app.Serves settings client) :
    app.requireClient = .ok client := by
  unfold App.requireClient
  rw [h.configured, h.enabled]
  rcases h.registered with hnone | hsome
  · rw [hnone, h.accepted]
    rfl
  · rw [hsome]
    rfl

theorem App.Serves.withClient (h : app.Serves settings client)
    (prepare : Client → Except Stop App.Call) :
    app.withClient prepare =
      match prepare client with
      | .error stop => (.error stop, { app with client := some client })
      | .ok call => App.runCall { app with client := some client } call := by
  unfold App.withClient
  cases hprepare : prepare client <;> simp only [h.requireClient, hprepare]

theorem isSendable_object (status : Nat) (name : String) (t : Text)
    (hname : (Text.ofString name).IsScalar) :
    (Response.ofJson status (Json.object [(name, .str t)])).isSendable = decide t.IsScalar := by
  simp [Response.isSendable, Response.ofJson, Json.object, Json.isSendable, Json.fieldsSendable,
    hname]

/-- The response to a result is sent when the text that it carries has a UTF-8 form. -/
theorem complete_ofJson (h : app.Serves settings client) (request : Request) (status : Nat)
    (name : String) (t : Text) (hname : (Text.ofString name).IsScalar) :
    app.complete request (.ok (.ofJson status (Json.object [(name, .str t)]))) =
      sentAs settings request (some (t, .ofJson status (Json.object [(name, .str t)]))) := by
  simp only [App.complete, sentAs, isSendable_object status name t hname, h.configured,
    decide_eq_true_eq]

theorem complete_failure (h : app.Serves settings client) (request : Request) (call : Service.Step)
    (failure : Failure) :
    app.complete request (.error (App.stopOf failure)) =
      sentAs settings request (imageOf call (.failed failure)) := by
  cases failure with
  | interrupted interruption => cases call <;> rfl
  | refused refusal =>
      have himage : imageOf call (.failed (.refused refusal)) =
          some (refusal.message, .detail refusal.status (.str refusal.message)) := by
        cases call <;> rfl
      have hsent := complete_ofJson h request refusal.status "detail" refusal.message (by decide)
      rw [himage]
      exact hsent

theorem complete_redirectTo (h : app.Serves settings client) (request : Request) (url : Text) :
    app.complete request (App.redirectTo url) =
      sentAs settings request (some (url, .redirect url)) := by
  unfold App.redirectTo sentAs
  by_cases hurl : url.IsScalar
  · simp only [hurl, if_true, ← h.configured]
    rfl
  · simp only [hurl, if_false]
    rfl

/-- What comes of a request: its response, and where the application stands. -/
structure Answers (app : App) (settings : Settings) (client : Client) (request : Request)
    (call : Service.Step) (result : Except Stop Response × App) : Prop where
  response : app.complete request result.1 =
    sentAs settings request (imageOf call (Service.step client app.state call).1)
  state : result.2.state = (Service.step client app.state call).2
  serves : result.2.Serves settings client

theorem answers_runCall (h : app.Serves settings client) {call : Service.Step} {flow : Flow Text}
    {response : Text → Except Stop Response}
    (hstep : Service.step client app.state call = Service.runCall flow app.state)
    (hresponse : ∀ value, app.complete request (response value) =
      sentAs settings request (imageOf call (.text value))) :
    Answers app settings client request call
      (App.runCall { app with client := some client } ⟨flow, response⟩) := by
  refine ⟨?_, ?_, ?_⟩
  · rw [hstep]
    simp only [App.runCall, Service.runCall]
    cases (flow.run app.state).1 with
    | ok value => exact hresponse value
    | error failure => exact complete_failure h request call failure
  · rw [hstep]
    rfl
  · exact { h with registered := .inr rfl }

theorem answers_authorize (h : app.Serves settings client)
    (hdatabase : Database.fault? settings.databaseUrl = none) :
    Answers app settings client request .authorize (app.serve request .authorize) := by
  have hopened : app.database = none := h.opened.trans hdatabase
  have hprepare : App.authorizeCall app client =
      .ok ⟨Service.authorize client, App.redirectTo⟩ := by
    simp only [App.authorizeCall, App.requireDatabase, hopened]
    rfl
  change Answers app settings client request .authorize (app.withClient _)
  rw [h.withClient, hprepare]
  exact answers_runCall h rfl (complete_redirectTo h request)

theorem answers_exchange (h : app.Serves settings client) {code : Text}
    (hcode : request.code? = some code) :
    Answers app settings client request (.exchange code) (app.serve request .exchange) := by
  obtain ⟨input, hinput, hstated⟩ := of_code?_eq_some hcode
  change Answers app settings client request _ (app.withInput request _)
  rw [App.withInput, hinput]
  change Answers app settings client request _ (app.withClient _)
  rw [h.withClient, App.exchangeCall, hstated]
  exact answers_runCall h rfl fun email => complete_ofJson h request 200 "email" email (by decide)

theorem answers_redeem (h : app.Serves settings client)
    (hdatabase : Database.fault? settings.databaseUrl = none) {code : Text}
    (hcode : request.code? = some code) :
    Answers app settings client request (.redeem code) (app.serve request .redeem) := by
  have hopened : app.database = none := h.opened.trans hdatabase
  obtain ⟨input, hinput, hstated⟩ := of_code?_eq_some hcode
  have hprepare : app.redeemCall input = .ok ⟨Service.redeem code, fun token =>
      .ok (.ofJson 200 (Json.object [("refresh_token", .str token)]))⟩ := by
    simp only [App.redeemCall, App.requireDatabase, hopened, hstated]
    rfl
  change Answers app settings client request _ (app.withInput request _)
  rw [App.withInput, hinput]
  change Answers app settings client request _ (app.withClient _)
  rw [h.withClient, hprepare]
  exact answers_runCall h rfl fun token =>
    complete_ofJson h request 200 "refresh_token" token (by decide)

structure Spares (app : App) (settings : Settings) (client : Client)
    (result : Except Stop Response × App) : Prop where
  state : result.2.state = app.state
  serves : result.2.Serves settings client

theorem spares_self (h : app.Serves settings client) (response : Except Stop Response) :
    Spares app settings client (response, app) := ⟨rfl, h⟩

theorem spares_withClient (h : app.Serves settings client)
    {prepare : Client → Except Stop App.Call} (hprepare : ∃ stop, prepare client = .error stop) :
    Spares app settings client (app.withClient prepare) := by
  obtain ⟨stop, hstop⟩ := hprepare
  rw [h.withClient, hstop]
  exact ⟨rfl, { h with registered := .inr rfl }⟩

theorem spares_withInput (h : app.Serves settings client)
    {prepare : Input → Client → Except Stop App.Call}
    (hprepare : ∀ input, request.input = .ok input → ∃ stop, prepare input client = .error stop) :
    Spares app settings client (app.withInput request prepare) := by
  unfold App.withInput
  cases hinput : request.input with
  | error response => exact spares_self h _
  | ok input => exact spares_withClient h (hprepare input hinput)

theorem requireDatabase_of_fault (h : app.Serves settings client) {fault : Database.Fault}
    (hfault : Database.fault? settings.databaseUrl = some fault) :
    app.requireDatabase = .error .unexpected := by
  rw [App.requireDatabase, h.opened, hfault]
  rfl

theorem spares_authorize (h : app.Serves settings client) {fault : Database.Fault}
    (hfault : Database.fault? settings.databaseUrl = some fault) :
    Spares app settings client (app.serve request .authorize) := by
  refine spares_withClient h ⟨.unexpected, ?_⟩
  rw [App.authorizeCall, requireDatabase_of_fault h hfault]
  rfl

theorem spares_exchange (h : app.Serves settings client) (hcode : request.code? = none) :
    Spares app settings client (app.serve request .exchange) := by
  refine spares_withInput h fun input hinput => ?_
  obtain ⟨stop, hstop⟩ := of_code?_eq_none hcode hinput
  exact ⟨stop, by rw [App.exchangeCall, hstop]; rfl⟩

theorem spares_redeem (h : app.Serves settings client)
    (hnone : request.code? = none ∨ ∃ fault, Database.fault? settings.databaseUrl = some fault) :
    Spares app settings client (app.serve request .redeem) := by
  refine spares_withInput h fun input hinput => ?_
  cases hfault : Database.fault? settings.databaseUrl with
  | some fault =>
      exact ⟨.unexpected, by rw [App.redeemCall, requireDatabase_of_fault h hfault]; rfl⟩
  | none =>
      have hopened : app.database = none := h.opened.trans hfault
      rcases hnone with hcode | ⟨fault, hsome⟩
      · obtain ⟨stop, hstop⟩ := of_code?_eq_none hcode hinput
        refine ⟨stop, ?_⟩
        simp only [App.redeemCall, App.requireDatabase, hopened, hstop]
        rfl
      · rw [hfault] at hsome
        contradiction

/-! ## Handling -/

theorem method_of_route {method path : Text} {endpoint : Endpoint}
    (h : route method path = .endpoint endpoint) : endpoint.method = method := by
  unfold route at h
  split at h
  · split at h
    next hmethod =>
      cases h
      exact hmethod
    · contradiction
  · split at h <;> contradiction

theorem preflight?_eq_none (policy : Cors) (h : request.method ≠ Text.ofString "OPTIONS") :
    policy.preflight? request = none := by
  unfold Cors.preflight?
  cases Headers.get? request.headers "origin" with
  | none => rfl
  | some origin =>
      cases Headers.get? request.headers "access-control-request-method" with
      | none => rfl
      | some method => exact if_pos h

theorem handle_of_route {endpoint : Endpoint}
    (h : route request.method request.path = .endpoint endpoint) :
    app.handle request =
      (app.complete request (app.serve request endpoint).1, (app.serve request endpoint).2) := by
  have hmethod := method_of_route h
  have hoptions : request.method ≠ Text.ofString "OPTIONS" := by
    rw [← hmethod]
    cases endpoint <;> decide
  have hhead : request.method ≠ Text.ofString "HEAD" := by
    rw [← hmethod]
    cases endpoint <;> decide
  simp only [App.handle, preflight?_eq_none _ hoptions, App.respond, h, App.headOnly, hhead,
    if_false]

theorem handle_of_not_endpoint
    (h : ∀ endpoint, route request.method request.path ≠ .endpoint endpoint) :
    (app.handle request).2 = app := by
  have hrespond : (app.respond request).2 = app := by
    unfold App.respond
    split
    next hroute => exact absurd hroute (h _)
    all_goals rfl
  unfold App.handle
  split
  · rfl
  · exact hrespond

theorem handle_of_answers {call : Service.Step} {endpoint : Endpoint}
    (hroute : route request.method request.path = .endpoint endpoint)
    (hanswers : Answers app settings client request call (app.serve request endpoint)) :
    (app.handle request).1 =
        sentAs settings request (imageOf call (Service.step client app.state call).1) ∧
      (app.handle request).2.state = (Service.step client app.state call).2 ∧
      (app.handle request).2.Serves settings client := by
  rw [handle_of_route hroute]
  exact ⟨hanswers.response, hanswers.state, hanswers.serves⟩

theorem handle_of_call (h : app.Serves settings client) {call : Service.Step}
    (hcall : Step.call? settings (.request request) = some call) :
    (app.handle request).1 =
        sentAs settings request (imageOf call (Service.step client app.state call).1) ∧
      (app.handle request).2.state = (Service.step client app.state call).2 ∧
      (app.handle request).2.Serves settings client := by
  obtain ⟨hasked, hopened⟩ := Option.filter_eq_some_iff.mp hcall
  simp only [Bool.or_eq_true, Option.isNone_iff_eq_none, Bool.not_eq_true'] at hopened
  unfold Request.call? at hasked
  split at hasked
  next hroute =>
    obtain rfl := Option.some.inj hasked
    exact handle_of_answers hroute (answers_authorize h (hopened.resolve_right nofun))
  next hroute =>
    obtain ⟨code, hcode, rfl⟩ := Option.map_eq_some_iff.mp hasked
    exact handle_of_answers hroute (answers_exchange h hcode)
  next hroute =>
    obtain ⟨code, hcode, rfl⟩ := Option.map_eq_some_iff.mp hasked
    exact handle_of_answers hroute (answers_redeem h (hopened.resolve_right nofun) hcode)
  · contradiction

theorem exists_fault_of_call?_eq_none {call : Service.Step}
    (hasked : request.call? = some call) (hcall : Step.call? settings (.request request) = none) :
    needsSession call = true ∧ ∃ fault, Database.fault? settings.databaseUrl = some fault := by
  rw [Step.call?, hasked, Option.filter_some] at hcall
  cases hfault : Database.fault? settings.databaseUrl with
  | none => simp [hfault] at hcall
  | some fault => exact ⟨by simpa [hfault] using hcall, fault, rfl⟩

theorem spares_serve (h : app.Serves settings client) {endpoint : Endpoint}
    (hroute : route request.method request.path = .endpoint endpoint)
    (hcall : Step.call? settings (.request request) = none) :
    Spares app settings client (app.serve request endpoint) := by
  have hasked : ∀ {call : Service.Step}, request.call? = some call → needsSession call = true ∧
      ∃ fault, Database.fault? settings.databaseUrl = some fault :=
    fun hasked => exists_fault_of_call?_eq_none hasked hcall
  unfold Request.call? at hasked
  rw [hroute] at hasked
  cases endpoint with
  | health => exact spares_self h _
  | root => exact spares_self h _
  | authorize =>
      obtain ⟨-, fault, hfault⟩ := hasked rfl
      exact spares_authorize h hfault
  | exchange =>
      cases hcode : request.code? with
      | none => exact spares_exchange h hcode
      | some code =>
          have hneeds := (hasked (congrArg (Option.map Service.Step.exchange) hcode)).1
          contradiction
  | redeem =>
      refine spares_redeem h ?_
      cases hcode : request.code? with
      | none => exact .inl rfl
      | some code => exact .inr (hasked (congrArg (Option.map Service.Step.redeem) hcode)).2

theorem handle_of_no_call (h : app.Serves settings client)
    (hcall : Step.call? settings (.request request) = none) :
    (app.handle request).2.state = app.state ∧ (app.handle request).2.Serves settings client := by
  cases hroute : route request.method request.path with
  | endpoint endpoint =>
      have hspares := spares_serve h hroute hcall
      rw [handle_of_route hroute]
      exact ⟨hspares.state, hspares.serves⟩
  | _ =>
      have hsame : (app.handle request).2 = app :=
        handle_of_not_endpoint fun endpoint => by simp [hroute]
      rw [hsame]
      exact ⟨rfl, h⟩

theorem handle_of_fault (h : app.Serves settings client) {call : Service.Step}
    (hasked : request.call? = some call) (hcall : Step.call? settings (.request request) = none) :
    (app.handle request).1 = .unexpected := by
  obtain ⟨hneeds, fault, hfault⟩ := exists_fault_of_call?_eq_none hasked hcall
  have hdatabase := requireDatabase_of_fault h hfault
  unfold Request.call? at hasked
  split at hasked
  next hroute =>
    rw [handle_of_route hroute, App.serve, h.withClient, App.authorizeCall, hdatabase]
    rfl
  next hroute =>
    obtain ⟨code, hcode, rfl⟩ := Option.map_eq_some_iff.mp hasked
    contradiction
  next hroute =>
    obtain ⟨code, hcode, rfl⟩ := Option.map_eq_some_iff.mp hasked
    obtain ⟨input, hinput, -⟩ := of_code?_eq_some hcode
    rw [handle_of_route hroute, App.serve, App.withInput, hinput]
    simp only [h.withClient, App.redeemCall, hdatabase]
    rfl
  · contradiction

end Requests

/-! ## Many steps -/

section Steps

variable {app : App} {settings : Settings} {client : Client}

theorem serves_step (h : app.Serves settings client) (s : Step) :
    (app.step s).2.Serves settings client ∧
      (app.step s).2.state = match s.call? settings with
        | none => app.state
        | some call => (Service.step client app.state call).2 := by
  cases s with
  | request request =>
      cases hcall : Step.call? settings (.request request) with
      | none =>
          obtain ⟨hstate, hserves⟩ := handle_of_no_call h hcall
          exact ⟨hserves, hstate⟩
      | some call =>
          obtain ⟨-, hstate, hserves⟩ := handle_of_call h hcall
          exact ⟨hserves, hstate⟩
  | _ => exact ⟨{ h with }, rfl⟩

theorem after_eq_final (h : app.Serves settings client) (steps : List Step) :
    (app.after steps).Serves settings client ∧
      (app.after steps).state =
        Service.final client app.state (steps.filterMap (Step.call? settings)) := by
  induction steps generalizing app with
  | nil => exact ⟨h, rfl⟩
  | cons s rest ih =>
      obtain ⟨hserves, hstate⟩ := serves_step h s
      obtain ⟨hlast, hfinal⟩ := ih hserves
      refine ⟨hlast, ?_⟩
      rw [List.filterMap_cons, App.after, hfinal, hstate]
      cases s.call? settings <;> rfl

theorem eq_of_start {state : State} (hstart : App.start settings state = .ok app) :
    ∃ cache, Cache.ofCapacity? settings.cacheMaxEntries
        (Ticks.ofSeconds settings.cacheTtlSeconds) = some cache ∧
      app = ⟨settings, { state with
          cache, table := { state.table with hidden := !settings.databaseAutoCreate } }, none,
        Database.fault? settings.databaseUrl⟩ := by
  unfold App.start at hstart
  split at hstart
  · contradiction
  · simp only at hstart
    split at hstart
    · contradiction
    next cache hcache =>
      unfold App.startWith at hstart
      split at hstart
      · contradiction
      next created fault hnot => exact ⟨cache, hcache, (Except.ok.inj hstart).symm⟩

theorem serves_start {state : State} (henabled : settings.ssoEnabled = true)
    (hclient : Client.register settings.registration = .ok client)
    (hstart : App.start settings state = .ok app) :
    app.Serves settings client ∧
      ∃ cache, Cache.ofCapacity? settings.cacheMaxEntries
          (Ticks.ofSeconds settings.cacheTtlSeconds) = some cache ∧
        app.state = { state with
          cache, table := { state.table with hidden := !settings.databaseAutoCreate } } := by
  obtain ⟨cache, hcache, rfl⟩ := eq_of_start hstart
  exact ⟨⟨henabled, hclient, rfl, rfl, .inl rfl⟩, cache, hcache, rfl⟩

/-- One service stands behind the application from its start on.  After any steps the application
is where that service is after the calls among them; the next request gets the image of what the
service answers to its call, and without a call it changes nothing.  The image is what is written of
a text; where the text has no UTF-8 form, an error of the application is sent instead. -/
theorem answers_as_one_service {state : State} (henabled : settings.ssoEnabled = true)
    (hclient : Client.register settings.registration = .ok client)
    (hstart : App.start settings state = .ok app) (steps : List Step) (request : Request) :
    let service := Service.final client app.state (steps.filterMap (Step.call? settings))
    let now := app.after steps
    (∃ cache, Cache.ofCapacity? settings.cacheMaxEntries
        (Ticks.ofSeconds settings.cacheTtlSeconds) = some cache ∧
      app.state = { state with
        cache, table := { state.table with hidden := !settings.databaseAutoCreate } }) ∧
    now.state = service ∧
    (∀ call, Step.call? settings (.request request) = some call →
      (now.handle request).1 =
          sentAs settings request (imageOf call (Service.step client service call).1) ∧
        (now.handle request).2.state = (Service.step client service call).2) ∧
    (Step.call? settings (.request request) = none →
      (now.handle request).2.state = service ∧
        (request.call?.isSome → (now.handle request).1 = .unexpected)) := by
  intro service now
  obtain ⟨hserves, hcache⟩ := serves_start henabled hclient hstart
  obtain ⟨hnow, hstate⟩ := after_eq_final hserves steps
  refine ⟨hcache, hstate, fun call hcall => ?_, fun hcall => ?_⟩
  · obtain ⟨hresponse, hafter, -⟩ := handle_of_call hnow hcall
    rw [hstate] at hresponse hafter
    exact ⟨hresponse, hafter⟩
  · obtain ⟨hafter, -⟩ := handle_of_no_call hnow hcall
    rw [hstate] at hafter
    refine ⟨hafter, fun hsome => ?_⟩
    obtain ⟨call, hasked⟩ := Option.isSome_iff_exists.mp hsome
    exact handle_of_fault hnow hasked hcall

end Steps

/-! ## A sample -/

open Service (sampleClient sampleCode sampleMetadata sampleTokens)

def sampleSettings : Settings where
  ssoEnabled := true
  clientId := "c"
  clientSecret := "s"
  issuerUrl := "https://i"
  redirectUrl := "https://a/cb"
  scopes := ""
  databaseUrl := "sqlite+aiosqlite://"
  databaseAutoCreate := true

def sampleStart (bodies : List Text) : State :=
  .start (.empty 0 0) (bodies.map fun body => .answered ⟨200, [], Utf8.encode body⟩)
    (.ofList ["t", "n"]) 0

def authorizeRequest : Request where
  method := "GET"
  scheme := "http"
  host := "test"
  path := "/api/v1/sso/authorize"
  query := []
  headers := []
  body := []

def exchangeRequest : Request where
  method := "POST"
  scheme := "http"
  host := "test"
  path := "/api/v1/sso/exchange"
  query := []
  headers := [("content-type", "application/json")]
  body := Utf8.encode (Service.textsDocument [("code", "k")])

def registeredClient : Client := { sampleClient with scopes := ["openid"] }

theorem register_sample :
    Client.register sampleSettings.registration = .ok registeredClient := by
  have hclient : (Client.register sampleSettings.registration).toOption =
      some registeredClient := by decide +kernel
  exact eq_ok_of_toOption hclient

theorem exists_start_sample (bodies : List Text) :
    ∃ app, App.start sampleSettings (sampleStart bodies) = .ok app ∧
      app.state = { sampleStart bodies with cache := .empty 1000 (.ofSeconds 600) } :=
  ⟨_, rfl, rfl⟩

theorem answers_as_one_service_in_sample :
    ∃ app, App.start sampleSettings (sampleStart [sampleMetadata, sampleTokens]) = .ok app ∧
      ((app.after [.request authorizeRequest]).handle exchangeRequest).1 =
        sentAs sampleSettings exchangeRequest
          (some ("e", .ofJson 200 (Json.object [("email", .str "e")]))) := by
  obtain ⟨app, hstart, hstate⟩ := exists_start_sample [sampleMetadata, sampleTokens]
  have hcall : Step.call? sampleSettings (.request exchangeRequest) =
      some (.exchange sampleCode) := by decide +kernel
  have hresult : (Service.step registeredClient (Service.final registeredClient app.state
      ([.request authorizeRequest].filterMap (Step.call? sampleSettings)))
      (.exchange sampleCode)).1.text? = some (Text.ofString "e") := by
    rw [hstate]
    decide +kernel
  obtain ⟨-, -, hanswer, -⟩ := answers_as_one_service rfl register_sample hstart
    [.request authorizeRequest] exchangeRequest
  obtain ⟨hresponse, -⟩ := hanswer (.exchange sampleCode) hcall
  refine ⟨app, hstart, ?_⟩
  rw [hresponse, Service.eq_text_of_text? hresult]
  rfl

def surrogateMetadata : Text :=
  Service.textsDocument [
    ("issuer", [.ofNat 0xD800]),
    ("authorization_endpoint", "https://i/a"),
    ("token_endpoint", "https://i/t")]

theorem not_always_sent_with_status :
    ¬ ∀ (settings : Settings) (state : State) (client : Client) (app : App) (request : Request)
      (call : Service.Step) (refusal : Refusal), settings.ssoEnabled = true →
      Client.register settings.registration = .ok client →
      App.start settings state = .ok app →
      Step.call? settings (.request request) = some call →
      (Service.step client app.state call).1 = .failed (.refused refusal) →
      (app.handle request).1.status = refusal.status := by
  intro hclaim
  obtain ⟨app, hstart, hstate⟩ := exists_start_sample [surrogateMetadata]
  have hcall : Step.call? sampleSettings (.request authorizeRequest) = some .authorize := by
    decide +kernel
  have hresult : (Service.step registeredClient app.state .authorize).1.status? = some 502 := by
    rw [hstate]
    decide +kernel
  obtain ⟨refusal, hrefused, hstatus⟩ := Service.exists_refusal hresult
  have hsent : (App.start sampleSettings (sampleStart [surrogateMetadata])).toOption.map
      (fun app => (app.handle authorizeRequest).1.status) = some 500 := by decide +kernel
  rw [hstart] at hsent
  have hunexpected : (app.handle authorizeRequest).1.status = 500 := Option.some.inj hsent
  have hequal := hclaim sampleSettings _ registeredClient app authorizeRequest .authorize refusal
    rfl register_sample hstart hcall hrefused
  omega

end SignOn.Web

import SignOn.Proofs.Provider.Registration
import SignOn.Proofs.Web.Simulation

/-!
# Applications that cannot register

An application whose registration fails has no client, whatever it is asked and however often.
Each request that comes to need one is answered with what is wrong, and changes nothing.
-/

namespace SignOn.Web

variable {app : App} {settings : Settings} {failure : Failure} {request : Request}

namespace App

def StopsAt (app : App) (stop : Stop) : Prop :=
  ∀ prepare, app.withClient prepare = (.error stop, app)

variable {stop : Stop}

theorem stopsAt_of_requireClient (h : app.requireClient = .error stop) : app.StopsAt stop := by
  intro prepare
  simp only [App.withClient, h]

theorem StopsAt.withInput_of_ok (h : app.StopsAt stop) {input : Input}
    (hinput : request.input = .ok input) (prepare : Input → Client → Except Stop Call) :
    app.withInput request prepare = (.error stop, app) := by
  simp only [App.withInput, hinput, h _]

theorem withInput_of_error {response : Response} (hinput : request.input = .error response)
    (prepare : Input → Client → Except Stop Call) :
    app.withInput request prepare = (.error (.response response), app) := by
  simp only [App.withInput, hinput]

theorem StopsAt.snd_serve (h : app.StopsAt stop) (request : Request) (endpoint : Endpoint) :
    (app.serve request endpoint).2 = app := by
  have hinput : ∀ prepare, (app.withInput request prepare).2 = app := by
    intro prepare
    cases hread : request.input with
    | error response => rw [withInput_of_error hread]
    | ok input => rw [h.withInput_of_ok hread]
  cases endpoint with
  | health => rfl
  | root => rfl
  | authorize => exact congrArg Prod.snd (h _)
  | exchange => exact hinput _
  | redeem => exact hinput _

theorem StopsAt.snd_handle (h : app.StopsAt stop) (request : Request) :
    (app.handle request).2 = app := by
  cases hroute : route request.method request.path with
  | endpoint endpoint =>
      rw [handle_of_route hroute]
      exact h.snd_serve request endpoint
  | _ => exact handle_of_not_endpoint fun endpoint => by simp [hroute]

theorem StopsAt.fst_handle_authorize (h : app.StopsAt stop)
    (hroute : route request.method request.path = .endpoint .authorize) :
    (app.handle request).1 = app.complete request (.error stop) := by
  rw [handle_of_route hroute, serve, h]

theorem StopsAt.fst_handle_of_ok (h : app.StopsAt stop) {endpoint : Endpoint} {input : Input}
    (hendpoint : endpoint = .exchange ∨ endpoint = .redeem)
    (hroute : route request.method request.path = .endpoint endpoint)
    (hinput : request.input = .ok input) :
    (app.handle request).1 = app.complete request (.error stop) := by
  rcases hendpoint with rfl | rfl
  · rw [handle_of_route hroute, serve, h.withInput_of_ok hinput]
  · rw [handle_of_route hroute, serve, h.withInput_of_ok hinput]

theorem fst_handle_of_error {endpoint : Endpoint} {response : Response}
    (hendpoint : endpoint = .exchange ∨ endpoint = .redeem)
    (hroute : route request.method request.path = .endpoint endpoint)
    (hinput : request.input = .error response) :
    (app.handle request).1 = app.complete request (.error (.response response)) := by
  rcases hendpoint with rfl | rfl
  · rw [handle_of_route hroute, serve, withInput_of_error hinput]
  · rw [handle_of_route hroute, serve, withInput_of_error hinput]

end App

/-- A request that comes to need the client: one for an authorization, or one with a body that can
be read for an exchange or a redemption. -/
inductive Request.NeedsClient (request : Request) : Prop
  | authorize (h : route request.method request.path = .endpoint .authorize)
  | exchange (input : Input) (h : route request.method request.path = .endpoint .exchange)
      (hinput : request.input = .ok input)
  | redeem (input : Input) (h : route request.method request.path = .endpoint .redeem)
      (hinput : request.input = .ok input)

def failureAnswer (settings : Settings) (request : Request) : Failure → Response
  | .refused refusal =>
      (Response.detail refusal.status (.str refusal.message)).withHeaders
        ((Cors.ofSettings settings).headersFor request)
  | .interrupted _ => .unexpected

namespace App

/-- An application that signs users on and has no client, since its registration fails. -/
structure LacksClient (app : App) (settings : Settings) (failure : Failure) : Prop where
  enabled : settings.ssoEnabled = true
  fails : Client.register settings.registration = .error failure
  configured : app.settings = settings
  unregistered : app.client = none

structure AnswersFailure (app : App) (settings : Settings) (failure : Failure) (request : Request) :
    Prop where
  unchanged : (app.handle request).2 = app
  needing : request.NeedsClient → (app.handle request).1 = failureAnswer settings request failure
  unreadable : ∀ endpoint response, endpoint = .exchange ∨ endpoint = .redeem →
    route request.method request.path = .endpoint endpoint → request.input = .error response →
      (app.handle request).1 = app.complete request (.error (.response response))

theorem LacksClient.stopsAt (h : app.LacksClient settings failure) :
    app.StopsAt (stopOf failure) := by
  refine stopsAt_of_requireClient ?_
  unfold requireClient
  rw [h.configured, h.enabled, h.unregistered, h.fails]
  rfl

theorem LacksClient.complete_stopOf (h : app.LacksClient settings failure) :
    app.complete request (.error (stopOf failure)) = failureAnswer settings request failure := by
  cases failure with
  | interrupted interruption => rfl
  | refused refusal =>
      obtain ⟨-, -, hscalar⟩ := (Client.register_refused_iff.mp h.fails).isConfiguration
      have hsent := isSendable_object refusal.status "detail" refusal.message (by decide)
      simp only [complete, stopOf, Response.detail, hsent, hscalar, decide_true, if_true,
        failureAnswer, h.configured]

theorem LacksClient.answersFailure (h : app.LacksClient settings failure) (request : Request) :
    app.AnswersFailure settings failure request := by
  refine ⟨h.stopsAt.snd_handle request, ?_, fun endpoint response hendpoint hroute hinput =>
    fst_handle_of_error hendpoint hroute hinput⟩
  rintro (hroute | ⟨input, hroute, hinput⟩ | ⟨input, hroute, hinput⟩)
  · rw [h.stopsAt.fst_handle_authorize hroute, h.complete_stopOf]
  · rw [h.stopsAt.fst_handle_of_ok (.inl rfl) hroute hinput, h.complete_stopOf]
  · rw [h.stopsAt.fst_handle_of_ok (.inr rfl) hroute hinput, h.complete_stopOf]

theorem LacksClient.step (h : app.LacksClient settings failure) (s : Step) :
    (app.step s).2.LacksClient settings failure := by
  cases s with
  | request request =>
      change (app.handle request).2.LacksClient settings failure
      rw [(h.answersFailure request).unchanged]
      exact h
  | _ => exact { h with }

theorem LacksClient.after (h : app.LacksClient settings failure) (steps : List Step) :
    (app.after steps).LacksClient settings failure := by
  induction steps generalizing app with
  | nil => exact h
  | cons s rest ih => exact ih (h.step s)

theorem lacksClient_start {state : State} (henabled : settings.ssoEnabled = true)
    (hfails : Client.register settings.registration = .error failure)
    (hstart : App.start settings state = .ok app) : app.LacksClient settings failure := by
  obtain ⟨cache, -, rfl⟩ := eq_of_start hstart
  exact ⟨henabled, hfails, rfl, rfl⟩

end App

/-- A registration gives a client that can be used, or is refused as a wrong configuration, unless
it cannot be told what it states.  An application that it is refused to has no client after any
steps; it says what is wrong to each request that comes to need one, and nothing changes by that. -/
theorem usable_or_refused (registration : Registration) :
    (∀ client, Client.register registration = .ok client → client.IsUsable) ∧
    (∀ refusal, Client.register registration = .error (.refused refusal) ↔
      Client.Misstates registration refusal) ∧
    (∀ refusal, Client.Misstates registration refusal →
      refusal.kind = .configuration ∧ refusal.status = 500) ∧
    (∀ interruption, Client.register registration = .error (.interrupted interruption) ↔
      ∃ fault, interruption = .origin fault ∧ Client.Obscures registration fault) ∧
    ∀ (settings : Settings) (state : State) (app : App) (failure : Failure),
      settings.ssoEnabled = true → settings.registration = registration →
      Client.register registration = .error failure → App.start settings state = .ok app →
        ∀ steps, (app.after steps).client = none ∧
          ∀ request, (app.after steps).AnswersFailure settings failure request := by
  refine ⟨fun client => Client.isUsable_of_register, fun refusal => Client.register_refused_iff,
    fun refusal h => ⟨h.isConfiguration.1, h.isConfiguration.2.1⟩,
    fun interruption => Client.register_interrupted_iff, ?_⟩
  rintro settings state app failure henabled rfl hfails hstart steps
  have hlacks := (App.lacksClient_start henabled hfails hstart).after steps
  exact ⟨hlacks.unregistered, hlacks.answersFailure⟩

def schemelessSettings : Settings := { sampleSettings with issuerUrl := "i" }

def issuerAnswer : Response := .detail 500 (.str "Invalid issuer URL: 'i'")

theorem register_schemeless :
    Client.register schemelessSettings.registration =
      .error (.refused (.issuerUrl (some "i"))) := by
  have horigin : Url.origin? "i" = .ok ⟨[], []⟩ := by decide +kernel
  exact Client.register_refused_iff.mpr (.issuer horigin rfl)

theorem usable_or_refused_in_sample :
    ∃ app, App.start schemelessSettings (sampleStart []) = .ok app ∧
      (app.after [.request authorizeRequest]).client = none ∧
      ((app.after [.request authorizeRequest]).handle exchangeRequest).1 =
        issuerAnswer.withHeaders ((Cors.ofSettings schemelessSettings).headersFor
          exchangeRequest) := by
  obtain ⟨input, hinput⟩ : ∃ input, exchangeRequest.input = .ok input :=
    exists_ok_of_isSome (by decide +kernel)
  obtain ⟨-, -, -, -, happ⟩ := usable_or_refused schemelessSettings.registration
  obtain ⟨hnone, hanswers⟩ := happ schemelessSettings (sampleStart []) _ _ rfl rfl
    register_schemeless rfl [.request authorizeRequest]
  refine ⟨_, rfl, hnone, ?_⟩
  exact (hanswers exchangeRequest).needing (.exchange input (by decide +kernel) hinput)

/-- An issuer of which it cannot be told where its authority ends, and one that is all port. -/
def bracketRegistration : Registration :=
  { Client.sampleRegistration with issuerUrl := some "https://[" }

def portRegistration : Registration :=
  { Client.sampleRegistration with issuerUrl := some "https://:443" }

theorem not_always_refused_and_hosted :
    (¬ ∀ (registration : Registration) (failure : Failure),
      Client.register registration = .error failure →
        ∃ refusal, failure = .refused refusal ∧ refusal.kind = .configuration) ∧
    ¬ ∀ (registration : Registration) (client : Client) (origin : Url.Origin),
      Client.register registration = .ok client → Url.origin? client.issuer = .ok origin →
        origin.host ≠ [] := by
  constructor
  · intro hclaim
    have horigin : Url.origin? "https://[" = .error .unpairedBracket := by decide +kernel
    have hfails : Client.register bracketRegistration =
        .error (.interrupted (.origin .unpairedBracket)) :=
      Client.register_interrupted_iff.mpr ⟨_, rfl, .issuer horigin⟩
    obtain ⟨refusal, hrefused, -⟩ := hclaim bracketRegistration _ hfails
    contradiction
  · intro hclaim
    obtain ⟨client, hregister⟩ : ∃ client, Client.register portRegistration = .ok client :=
      exists_ok_of_isSome (by decide +kernel)
    have horigin : Url.origin? client.issuer = .ok ⟨"https", ":443"⟩ := by
      rw [Client.issuer_of_register hregister]
      decide +kernel
    exact hclaim portRegistration client _ hregister horigin (by decide +kernel)

end SignOn.Web

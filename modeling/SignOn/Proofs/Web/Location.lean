import SignOn.Proofs.Service.Authorization
import SignOn.Proofs.Service.Exchange
import SignOn.Proofs.Web.Simulation

/-!
# The nonce in the location

The URL that an authorization gives ends with a form that names the nonce which is saved.  All that
a form is written with may stand in a header, so the location that a browser is sent to ends with
the same form, however its endpoint is written there.
-/

namespace SignOn

def Percent.Form.valuesOf (form : Percent.Form) (name : Text) : List Text :=
  (form.filter fun field => field.1 = name).map (·.2)

namespace Web.Response

theorem standsInLocation_of_isFormPoint {c : CodePoint} (h : Percent.IsFormPoint c) :
    standsInLocation c = true := by
  unfold standsInLocation
  rcases h with rfl | rfl | hunreserved
  · decide
  · decide
  · rw [hunreserved, Bool.true_or]

theorem encode_formEncode (form : Percent.Form) :
    Percent.encode standsInLocation (Percent.formEncode form) = Percent.formEncode form := by
  refine Percent.encode_of_forall fun c hc => ?_
  rcases Percent.of_mem_formEncode hc with hpoint | rfl | rfl
  · exact standsInLocation_of_isFormPoint hpoint
  · decide
  · decide

end Web.Response

namespace Service

variable {client : Client} {state : State} {token nonce : Text}

/-- A query is a form that names one nonce, which a table has gained and nothing else. -/
def GainsNamed (query : Text) (wall : Int) (before after : Nonce.Table) : Prop :=
  ∃ form nonce, query = Percent.formEncode form ∧ Percent.formDecode? query = some form ∧
    Percent.Form.valuesOf form "nonce" = [nonce] ∧ before.row? nonce = none ∧
    after = { before with rows := before.rows ++ [⟨nonce, wall⟩] }

/-- An authorization gives a URL whose query names the nonce that it saved, or it fails and has
saved nothing; all codes are as they were. -/
def IsAllOrNothing (before : State) : Except Failure Text × State → Prop
  | (.ok url, after) => after.timed = before.timed ∧
      ∃ document query, after.document = some document ∧
        url = document.authorizationEndpoint ++
          Client.separator document.authorizationEndpoint ++ query ∧
        GainsNamed query before.wall before.table after.table
  | (.error _, after) => after.timed = before.timed ∧ after.table = before.table

theorem valuesOf_authorizationForm (client : Client) (token nonce : Text) :
    Percent.Form.valuesOf (client.authorizationForm token nonce) "nonce" = [nonce] := by
  have hnames : ∀ name ∈ ["response_type", "client_id", "state", "scope", "redirect_uri"],
      Text.ofString name ≠ Text.ofString "nonce" := by decide
  simp only [List.forall_mem_cons] at hnames
  obtain ⟨htype, hid, hstate, hscope, hredirect, -⟩ := hnames
  simp [Percent.Form.valuesOf, Client.authorizationForm, htype, hid, hstate, hscope, hredirect]

theorem gainsNamed_of_save {before after : Nonce.Table} {wall : Int} {row : Nonce.Row}
    (hform : Http.checkForm (client.authorizationForm token nonce) = .ok ())
    (hsave : before.save wall nonce = .ok (row, after)) :
    GainsNamed (Percent.formEncode (client.authorizationForm token nonce)) wall before after := by
  have hsome : client.authorizationForm token nonce ≠ [] := by simp [Client.authorizationForm]
  have hread := Percent.formDecode?_formEncode hsome (isScalar_of_mem_authorizationForm hform)
  obtain ⟨-, hnone, hafter⟩ := Nonce.Table.of_save hsave
  exact ⟨_, nonce, rfl, hread, valuesOf_authorizationForm client token nonce, hnone, hafter⟩

theorem isAllOrNothing_run (client : Client) (state : State) :
    IsAllOrNothing state ((authorize client).run state) := by
  have hends := authorizes client state
  generalize (authorize client).run state = ending at hends ⊢
  cases hends with
  | undiscovered => exact ⟨rfl, rfl⟩
  | unwritable => exact ⟨rfl, rfl⟩
  | unsaved => exact ⟨rfl, rfl⟩
  | authorized hfinds hform hsave =>
      exact ⟨rfl, _, _, rfl, rfl, gainsNamed_of_save hform hsave⟩

end Service

namespace Web

variable {app : App} {request : Request} {stop : Stop}

def Stop.IsRedirect : Stop → Prop
  | .response given => given.status = 307
  | .unexpected => False

theorem not_isRedirect_stopOf (failure : Failure) : ¬(App.stopOf failure).IsRedirect := by
  have hstatus : ∀ kind : Failure.Kind, kind.status ≠ 307 := by
    intro kind
    cases kind <;> decide
  cases failure with
  | refused refusal => exact hstatus refusal.kind
  | interrupted interruption => exact id

theorem not_isRedirect_of_requireClient (h : app.requireClient = .error stop) :
    ¬stop.IsRedirect := by
  unfold App.requireClient at h
  split at h
  · cases h
    exact (by decide : (404 : Nat) ≠ 307)
  · split at h
    · contradiction
    · cases hregister : Client.register app.settings.registration with
      | ok client =>
          rw [hregister] at h
          contradiction
      | error failure =>
          rw [hregister] at h
          cases h
          exact not_isRedirect_stopOf failure

theorem status_complete_error (h : ¬stop.IsRedirect) :
    (app.complete request (.error stop)).status ≠ 307 := by
  cases stop with
  | unexpected => exact (by decide : (500 : Nat) ≠ 307)
  | response given =>
      simp only [App.complete]
      split
      · exact h
      · exact (by decide : (500 : Nat) ≠ 307)

theorem get?_location (app : App) (request : Request) (url : Text) :
    Headers.get? (app.complete request (.ok (.redirect url))).headers "location" =
      some (Percent.encode Response.standsInLocation url) := rfl

theorem serve_authorize {client : Client} (h : app.requireClient = .ok client) :
    app.serve request .authorize =
      if app.database.isSome then (.error .unexpected, { app with client := some client })
      else App.runCall { app with client := some client }
        ⟨Service.authorize client, App.redirectTo⟩ := by
  rw [App.serve, App.withClient, h]
  simp only [App.authorizeCall, App.requireDatabase]
  cases app.database.isSome <;> rfl

/-- A request to authorize is redirected only where a call to the service gives a URL, and the
location is that URL. -/
theorem exists_url_of_status (hroute : route request.method request.path = .endpoint .authorize)
    (hstatus : (app.handle request).1.status = 307) :
    ∃ client url, ((Service.authorize client).run app.state).1 = .ok url ∧
      (app.handle request).2.state = ((Service.authorize client).run app.state).2 ∧
      Headers.get? (app.handle request).1.headers "location" =
        some (Percent.encode Response.standsInLocation url) := by
  -- Every ending that gives no URL is answered with a status of its own.
  rw [handle_of_route hroute] at hstatus ⊢
  cases hclient : app.requireClient with
  | error stop =>
      rw [App.serve, App.withClient, hclient] at hstatus
      exact absurd hstatus (status_complete_error (not_isRedirect_of_requireClient hclient))
  | ok client =>
      rw [serve_authorize hclient] at hstatus ⊢
      by_cases hdatabase : app.database.isSome = true
      · rw [if_pos hdatabase] at hstatus
        exact absurd hstatus (status_complete_error id)
      · rw [if_neg hdatabase, App.runCall] at hstatus ⊢
        rcases hrun : (Service.authorize client).run app.state with ⟨failure | url, next⟩
        · simp only [hrun] at hstatus
          exact absurd hstatus (status_complete_error (not_isRedirect_stopOf failure))
        · refine ⟨client, url, ?_⟩
          simp only [hrun, App.redirectTo] at hstatus ⊢
          by_cases hscalar : url.IsScalar
          · rw [if_pos hscalar]
            exact ⟨trivial, trivial, get?_location app request url⟩
          · rw [if_neg hscalar] at hstatus
            exact absurd hstatus (status_complete_error id)

/-- An authorization gives a URL and has saved the nonce that the URL names, and nothing else, or
it fails and has saved none.  The location that a browser is sent to names the same nonce. -/
theorem saves_what_it_names (client : Client) (state : State) :
    Service.IsAllOrNothing state ((Service.authorize client).run state) ∧
    ∀ (app : App) (request : Request), app.state = state →
      route request.method request.path = .endpoint .authorize →
      (app.handle request).1.status = 307 →
        (app.handle request).2.state.timed = state.timed ∧
        ∃ document query, (app.handle request).2.state.document = some document ∧
          Headers.get? (app.handle request).1.headers "location" =
            some (Percent.encode Response.standsInLocation (document.authorizationEndpoint ++
              Client.separator document.authorizationEndpoint) ++ query) ∧
          Service.GainsNamed query state.wall state.table
            (app.handle request).2.state.table := by
  refine ⟨Service.isAllOrNothing_run client state, fun app request hsame hroute hstatus => ?_⟩
  subst hsame
  obtain ⟨client, url, hurl, hstate, hlocation⟩ := exists_url_of_status hroute hstatus
  have hends := Service.isAllOrNothing_run client app.state
  rcases hrun : (Service.authorize client).run app.state with ⟨failure | url', after⟩
  · rw [hrun] at hurl
    cases hurl
  · rw [hrun] at hurl hends
    cases hurl
    obtain ⟨htimed, document, query, hdocument, rfl, hgains⟩ := hends
    obtain ⟨form, nonce, rfl, -⟩ := id hgains
    rw [hlocation, hstate, hrun, Percent.encode_append, Response.encode_formEncode]
    exact ⟨htimed, document, _, hdocument, rfl, hgains⟩

/-- The second token is the nonce. -/
theorem saves_what_it_names_in_sample :
    ∃ app, App.start sampleSettings (sampleStart [Service.sampleMetadata]) = .ok app ∧
      (app.handle authorizeRequest).1.status = 307 ∧
      ∃ document query, (app.handle authorizeRequest).2.state.document = some document ∧
        Headers.get? (app.handle authorizeRequest).1.headers "location" =
          some (Percent.encode Response.standsInLocation (document.authorizationEndpoint ++
            Client.separator document.authorizationEndpoint) ++ query) ∧
        Service.GainsNamed query 0 .empty { rows := [⟨"n", 0⟩] } := by
  obtain ⟨app, hstart, hstate⟩ := exists_start_sample [Service.sampleMetadata]
  have hanswer : (App.start sampleSettings (sampleStart [Service.sampleMetadata])).toOption.map
      (fun app => ((app.handle authorizeRequest).1.status,
        (app.handle authorizeRequest).2.state.table)) =
      some (307, { rows := [⟨"n", 0⟩] }) := by decide +kernel
  rw [hstart] at hanswer
  obtain ⟨hstatus, htable⟩ := Prod.mk.inj (Option.some.inj hanswer)
  obtain ⟨-, document, query, hdocument, hlocation, hgains⟩ :=
    (saves_what_it_names registeredClient app.state).2 app authorizeRequest rfl
      (by decide +kernel) hstatus
  rw [htable, hstate] at hgains
  exact ⟨app, hstart, hstatus, document, query, hdocument, hlocation, hgains⟩

end Web

end SignOn

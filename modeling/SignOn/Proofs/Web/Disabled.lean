import SignOn.Proofs.Web.Registration

/-!
# Applications that sign nobody on

An application that does not sign users on says so to each request of its routes for it, and
nothing changes.  But a body that is sent as a document is read before that is looked at, so one
that cannot be read is refused for what it is.
-/

namespace SignOn.Web

variable {app : App} {settings : Settings} {request : Request} {fault : Json.ReadFault}

/-- A body that is sent as a document and is none. -/
structure Request.Unreadable (request : Request) (fault : Json.ReadFault) : Prop where
  given : request.body ≠ []
  named : namesDocument ((Headers.get? request.headers "content-type").getD []) = true
  fails : Json.readBytes request.body = .error fault

theorem input_eq_error_iff {response : Response} :
    request.input = .error response ↔
      ∃ fault, request.Unreadable fault ∧ response = refuseDocument fault := by
  unfold Request.input
  split
  next hempty =>
    refine iff_of_false nofun ?_
    rintro ⟨fault, hunreadable, -⟩
    exact hunreadable.given (List.isEmpty_iff.mp hempty)
  next hgiven =>
    split
    next hnamed =>
      cases hread : Json.readBytes request.body with
      | ok document =>
          refine iff_of_false nofun ?_
          rintro ⟨fault, hunreadable, -⟩
          exact absurd (hread.symm.trans hunreadable.fails) nofun
      | error fault =>
          constructor
          · rintro ⟨⟩
            exact ⟨fault, ⟨mt List.isEmpty_iff.mpr hgiven, hnamed, hread⟩, rfl⟩
          · rintro ⟨other, hunreadable, rfl⟩
            cases hread.symm.trans hunreadable.fails
            rfl
    next hnamed =>
      refine iff_of_false nofun ?_
      rintro ⟨fault, hunreadable, -⟩
      exact hnamed hunreadable.named

theorem exists_input_of_readable (h : ∀ fault, ¬request.Unreadable fault) :
    ∃ input, request.input = .ok input := by
  cases hinput : request.input with
  | ok input => exact ⟨input, rfl⟩
  | error response =>
      obtain ⟨fault, hunreadable, -⟩ := input_eq_error_iff.mp hinput
      exact absurd hunreadable (h fault)

theorem isScalar_message (reason : Json.Reason) : reason.message.IsScalar := by
  cases reason <;> decide

/-- A refusal quotes nothing of the body, so it can be sent. -/
theorem isSendable_refuseDocument (fault : Json.ReadFault) :
    (refuseDocument fault).isSendable = true := by
  unfold refuseDocument
  split
  next reason position =>
    simp +decide [unprocessable, Response.detail, Response.ofJson, Response.isSendable,
      Record.Issue.json, Record.Kind.context?, Record.Kind.code, Record.Kind.message,
      Record.Step.json, bodyStep, Json.object, Json.isSendable, Json.fieldsSendable,
      Json.allSendable, isScalar_message]
  next => rfl

theorem status_refuseDocument (fault : Json.ReadFault) :
    (refuseDocument fault).status = 422 ∨ (refuseDocument fault).status = 400 := by
  unfold refuseDocument
  split
  · exact .inl rfl
  · exact .inr rfl

namespace App

structure IsDisabled (app : App) (settings : Settings) : Prop where
  disabled : settings.ssoEnabled = false
  configured : app.settings = settings

def hiddenAnswer (settings : Settings) (request : Request) : Response :=
  (Response.detail 404 (.str "SSO is not enabled")).withHeaders
    ((Cors.ofSettings settings).headersFor request)

/-- A request changes nothing, and one of the routes is answered as if there were none, unless its
body cannot be read. -/
structure Hides (app : App) (settings : Settings) (request : Request) : Prop where
  unchanged : (app.handle request).2 = app
  authorize : route request.method request.path = .endpoint .authorize →
    (app.handle request).1 = hiddenAnswer settings request
  readable : ∀ endpoint, endpoint = .exchange ∨ endpoint = .redeem →
    route request.method request.path = .endpoint endpoint →
    (∀ fault, ¬request.Unreadable fault) →
      (app.handle request).1 = hiddenAnswer settings request
  unreadable : ∀ endpoint fault, endpoint = .exchange ∨ endpoint = .redeem →
    route request.method request.path = .endpoint endpoint → request.Unreadable fault →
      (app.handle request).1 = (refuseDocument fault).withHeaders
        ((Cors.ofSettings settings).headersFor request) ∧
      ((app.handle request).1.status = 422 ∨ (app.handle request).1.status = 400)

namespace IsDisabled

theorem stopsAt (h : app.IsDisabled settings) :
    app.StopsAt (.response (.detail 404 (.str "SSO is not enabled"))) := by
  refine stopsAt_of_requireClient ?_
  unfold requireClient
  rw [h.configured, h.disabled]
  rfl

theorem complete_hidden (h : app.IsDisabled settings) (request : Request) :
    app.complete request (.error (.response (.detail 404 (.str "SSO is not enabled")))) =
      hiddenAnswer settings request := by
  rw [hiddenAnswer, ← h.configured]
  rfl

theorem complete_refuseDocument (h : app.IsDisabled settings) (request : Request)
    (fault : Json.ReadFault) :
    app.complete request (.error (.response (refuseDocument fault))) =
      (refuseDocument fault).withHeaders ((Cors.ofSettings settings).headersFor request) := by
  rw [complete, if_pos (isSendable_refuseDocument fault), h.configured]

theorem hides (h : app.IsDisabled settings) (request : Request) : app.Hides settings request := by
  refine ⟨h.stopsAt.snd_handle request, fun hroute => ?_,
    fun endpoint hendpoint hroute hreadable => ?_,
    fun endpoint fault hendpoint hroute hunreadable => ?_⟩
  · rw [h.stopsAt.fst_handle_authorize hroute, h.complete_hidden]
  · obtain ⟨input, hinput⟩ := exists_input_of_readable hreadable
    rw [h.stopsAt.fst_handle_of_ok hendpoint hroute hinput, h.complete_hidden]
  · have hinput : request.input = .error (refuseDocument fault) :=
      input_eq_error_iff.mpr ⟨fault, hunreadable, rfl⟩
    rw [fst_handle_of_error hendpoint hroute hinput, h.complete_refuseDocument]
    exact ⟨rfl, status_refuseDocument fault⟩

theorem step (h : app.IsDisabled settings) (s : Step) : (app.step s).2.IsDisabled settings := by
  cases s with
  | request request =>
      change (app.handle request).2.IsDisabled settings
      rw [(h.hides request).unchanged]
      exact h
  | _ => exact { h with }

theorem after (h : app.IsDisabled settings) (steps : List Step) :
    (app.after steps).IsDisabled settings := by
  induction steps generalizing app with
  | nil => exact h
  | cons s rest ih => exact ih (h.step s)

theorem after_requests (h : app.IsDisabled settings) (requests : List Request) :
    app.after (requests.map .request) = app := by
  induction requests with
  | nil => rfl
  | cons request rest ih =>
      change (app.handle request).2.after _ = app
      rw [(h.hides request).unchanged]
      exact ih

end IsDisabled

theorem isDisabled_start {state : State} (hdisabled : settings.ssoEnabled = false)
    (hstart : App.start settings state = .ok app) : app.IsDisabled settings := by
  obtain ⟨cache, -, rfl⟩ := eq_of_start hstart
  exact ⟨hdisabled, rfl⟩

end App

/-- An application that starts without signing users on hides its routes after any steps, and no
requests change anything: neither what has been sent to the provider nor the table. -/
theorem hidden_where_disabled {state : State} (hdisabled : settings.ssoEnabled = false)
    (hstart : App.start settings state = .ok app) (steps : List Step) :
    (∀ request, (app.after steps).Hides settings request) ∧
    ∀ requests : List Request, ((app.after steps).after (requests.map .request)).state =
      (app.after steps).state := by
  have hafter := (App.isDisabled_start hdisabled hstart).after steps
  exact ⟨hafter.hides, fun requests => congrArg App.state (hafter.after_requests requests)⟩

def disabledSettings : Settings := { sampleSettings with ssoEnabled := false }

theorem hidden_where_disabled_in_sample :
    ∃ app, App.start disabledSettings (sampleStart []) = .ok app ∧
      ((app.after [.request authorizeRequest]).handle exchangeRequest).1 =
        App.hiddenAnswer disabledSettings exchangeRequest := by
  obtain ⟨input, hinput⟩ : ∃ input, exchangeRequest.input = .ok input :=
    exists_ok_of_isSome (by decide +kernel)
  have hreadable : ∀ fault, ¬exchangeRequest.Unreadable fault := by
    intro fault hunreadable
    exact absurd (hinput.symm.trans (input_eq_error_iff.mpr ⟨fault, hunreadable, rfl⟩)) nofun
  obtain ⟨hhides, -⟩ := hidden_where_disabled rfl
    (rfl : App.start disabledSettings (sampleStart []) = .ok _) [.request authorizeRequest]
  exact ⟨_, rfl, (hhides exchangeRequest).readable .exchange (.inl rfl) (by decide +kernel)
    hreadable⟩

def brokenRequest : Request :=
  { exchangeRequest with body := Utf8.encode [CodePoint.ofChar '{'] }

theorem not_always_hidden :
    ¬∀ (settings : Settings) (state : State) (app : App) (request : Request),
      settings.ssoEnabled = false → App.start settings state = .ok app →
        route request.method request.path = .endpoint .exchange →
          (app.handle request).1.status = 404 := by
  intro hclaim
  have hfails : Json.readBytes brokenRequest.body =
      .error (.reading [CodePoint.ofChar '{'] (.expected .propertyName 1)) := by rfl
  have hunreadable : brokenRequest.Unreadable _ := ⟨by decide, by decide +kernel, hfails⟩
  have hroute : route brokenRequest.method brokenRequest.path = .endpoint .exchange := by
    decide +kernel
  have hstart : App.start disabledSettings (sampleStart []) = .ok _ := rfl
  obtain ⟨-, hstatus⟩ := ((App.isDisabled_start rfl hstart).hides brokenRequest).unreadable
    .exchange _ (.inl rfl) hroute hunreadable
  rw [hclaim disabledSettings _ _ brokenRequest rfl hstart hroute] at hstatus
  exact absurd hstatus (by decide)

end SignOn.Web

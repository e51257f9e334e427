import SignOn.Proofs.Flow.Twin
import SignOn.Provider.Authorization
import SignOn.Provider.Exchange

/-!
# Clients that get answers alike

A client that gets answers that are alike asks for the same things: the metadata it reads are the
same, the tokens are the same but for the refresh token, and so are the claims that it reads of a
user.  This holds as well of an answer that is meant for one request and comes to another.
-/

namespace SignOn

open Record Relator

/-! ## Documents -/

section Documents

variable {fields others : Json.Fields}

theorem alike_metadata (h : fields.Alike others) :
    ReadingsAlike Eq (Metadata.ofFields fields) (Metadata.ofFields others) := by
  have hmk : LiftFun Eq (LiftFun Eq (LiftFun Eq (LiftFun Eq (LiftFun Eq (LiftFun Eq Eq)))))
      Metadata.mk Metadata.mk := by
    rintro _ _ rfl _ _ rfl _ _ rfl _ _ rfl _ _ rfl _ _ rfl
    rfl
  have hissuer := h.rest "issuer" (by decide)
  have hauthorization := h.rest "authorization_endpoint" (by decide)
  have htoken := h.rest "token_endpoint" (by decide)
  have huser := h.rest "userinfo_endpoint" (by decide)
  have hkeys := h.rest "jwks_uri" (by decide)
  have hmethods := h.rest "token_endpoint_auth_methods_supported" (by decide)
  exact ReadingsAlike.apply (.apply (.apply (.apply (.apply (.apply (.ok hmk)
    (alike_required hissuer string)) (alike_required hauthorization string))
    (alike_required htoken string)) (alike_optional huser string)) (alike_optional hkeys string))
    (alike_optional hmethods strings)

/-- Tokens that differ in the refresh token, and in what is not used. -/
def TokenAnswer.Alike (tokens others : TokenAnswer) : Prop :=
  tokens.accessToken = others.accessToken ∧ tokens.idToken = others.idToken

theorem alike_refreshToken (h : fields.Alike others) :
    ReadingsAlike (fun _ _ => True) (optional fields "refresh_token" string)
      (optional others "refresh_token" string) := by
  obtain ⟨token, -, htoken⟩ := h.token
  obtain ⟨other, -, hother⟩ := h.otherToken
  simp only [Record.optional, withDefault, htoken, hother]
  exact .ok trivial

theorem alike_tokenFields {likeRefresh likeIdentity : Option Text → Option Text → Prop}
    (hrest : ∀ name ∈ (["access_token", "token_type", "expires_in"] : List Text),
      fields.get? name = others.get? name)
    (hrefresh : ReadingsAlike likeRefresh (optional fields "refresh_token" string)
      (optional others "refresh_token" string))
    (hidentity : ReadingsAlike likeIdentity (optional fields "id_token" string)
      (optional others "id_token" string)) :
    ReadingsAlike (fun tokens more : TokenAnswer =>
        likeRefresh tokens.refreshToken more.refreshToken ∧
        likeIdentity tokens.idToken more.idToken ∧
        more = { tokens with refreshToken := more.refreshToken, idToken := more.idToken })
      (TokenAnswer.ofFields fields) (TokenAnswer.ofFields others) := by
  have hmk : LiftFun Eq (LiftFun Eq (LiftFun likeRefresh (LiftFun likeIdentity (LiftFun Eq
      fun tokens more : TokenAnswer =>
        likeRefresh tokens.refreshToken more.refreshToken ∧
        likeIdentity tokens.idToken more.idToken ∧
        more = { tokens with refreshToken := more.refreshToken, idToken := more.idToken }))))
      TokenAnswer.mk TokenAnswer.mk := by
    rintro _ _ rfl _ _ rfl _ _ hfirst _ _ hsecond _ _ rfl
    exact ⟨hfirst, hsecond, rfl⟩
  have haccess := hrest "access_token" (by decide)
  have htype := hrest "token_type" (by decide)
  have hexpiry := hrest "expires_in" (by decide)
  exact ReadingsAlike.apply (.apply (.apply (.apply (.apply (.ok hmk)
    (alike_required haccess string)) (alike_withDefault htype _ string)) hrefresh)
    hidentity) (alike_optional hexpiry integer)

theorem alike_tokenAnswer (h : fields.Alike others) :
    ReadingsAlike TokenAnswer.Alike (TokenAnswer.ofFields fields)
      (TokenAnswer.ofFields others) := by
  have hother : ∀ name ∈ (["access_token", "token_type", "expires_in"] : List Text),
      name ≠ Text.ofString "refresh_token" := by decide
  have hidentity := alike_optional (h.rest "id_token" (by decide)) string
  refine (alike_tokenFields (fun name hname => h.rest name (hother name hname))
    (alike_refreshToken h) hidentity).mono fun tokens more hsame => ?_
  obtain ⟨-, hid, hmore⟩ := hsame
  exact ⟨by rw [hmore], hid⟩

theorem isScalar_refreshToken : (Text.ofString "refresh_token").IsScalar := by decide

theorem exists_not_isScalar (h : fields.Alike others)
    (hnot : ∃ field ∈ fields, ¬ field.1.IsScalar) : ∃ field ∈ others, ¬ field.1.IsScalar := by
  obtain ⟨⟨name, value⟩, hmem, hname⟩ := hnot
  have hne : name ≠ Text.ofString "refresh_token" := by
    rintro rfl
    exact hname isScalar_refreshToken
  have hsome : (others.get? name).isSome := by
    rw [← h.rest name hne]
    simpa [Json.Fields.get?] using ⟨value, hmem⟩
  simp only [Json.Fields.get?, Option.isSome_map, List.find?_isSome, decide_eq_true_eq] at hsome
  obtain ⟨field, hfield, rfl⟩ := hsome
  exact ⟨field, hfield, hname⟩

theorem Json.Fields.Alike.symm (h : fields.Alike others) : others.Alike fields where
  token := h.otherToken
  otherToken := h.token
  rest name hne := (h.rest name hne).symm

theorem alike_userInfo (h : fields.Alike others) :
    ReadingsAlike (fun user other => user.email = other.email) (UserInfo.ofFields fields)
      (UserInfo.ofFields others) := by
  have hfault : ∀ given : Json.Fields,
      (given.find? fun field => ¬ field.1.IsScalar).isSome ↔
        ∃ field ∈ given, ¬ field.1.IsScalar := by simp
  unfold UserInfo.ofFields
  cases hfirst : fields.find? fun field => ¬ field.1.IsScalar with
  | some field =>
      have hnot := (hfault fields).mp (by rw [hfirst]; rfl)
      have hsome := (hfault others).mpr (exists_not_isScalar h hnot)
      obtain ⟨other, hother⟩ := Option.isSome_iff_exists.mp hsome
      rw [hother]
      exact .error rfl
  | none =>
      have hnone : others.find? (fun field => ¬ field.1.IsScalar) = none := by
        refine Option.not_isSome_iff_eq_none.mp fun hsome => ?_
        have hback := (hfault fields).mpr (exists_not_isScalar h.symm ((hfault others).mp hsome))
        rw [hfirst] at hback
        contradiction
      rw [hnone]
      have hmk : ∀ given more : Json.Fields, LiftFun Eq (LiftFun Eq fun user other : UserInfo =>
          user.email = other.email) (fun sub email => ⟨sub, email, given⟩)
          (fun sub email => ⟨sub, email, more⟩) := by
        rintro given more _ _ rfl _ _ rfl
        rfl
      have hsubject := h.rest "sub" (by decide)
      have hemail := h.rest "email" (by decide)
      exact ReadingsAlike.apply (.apply (.ok (hmk _ _)) (alike_optional hsubject string))
        (alike_optional hemail string)

end Documents

/-! ## Answers -/

section Answers

variable {α : Type} {like : α → α → Prop} {model : Text} {read : Json → Checked α}
  {outcome other : Http.Outcome}

theorem Http.Outcome.Alike.refl (outcome : Http.Outcome) : outcome.Alike outcome := by
  cases outcome with
  | answered answer =>
      exact .answered ⟨⟨rfl, rfl, .refl (fun _ => rfl) .same _⟩, .inr rfl⟩
  | failed message => exact .failed message
  | urlRefused message => exact .urlRefused message

theorem alike_ofObject {read : Json.Fields → Checked α} (hlike : ∀ a, like a a)
    (hread : ∀ fields others, fields.Alike others → ReadingsAlike like (read fields) (read others))
    (value other : Json) (h : value.Alike other) :
    ReadingsAlike like (ofObject model read value) (ofObject model read other) := by
  cases h with
  | same => exact ReadingsAlike.refl hlike _
  | object h => exact hread _ _ h

theorem alike_receive_answered (request : Http.Request) {answer other : Http.Answer}
    (hstatus : answer.status = other.status) (hheaders : answer.headers = other.headers) :
    ResultsAlike Eq (fun given more => given = answer ∧ more = other)
      (Http.receive request (.answered answer)) (Http.receive request (.answered other)) := by
  have hcheck : Http.checkHeaders answer = Http.checkHeaders other := by
    rw [Http.checkHeaders, Http.checkHeaders, hheaders]
  have hredirect : answer.redirect? = other.redirect? := by
    rw [Http.Answer.redirect?, Http.Answer.redirect?, Http.Answer.header?, Http.Answer.header?,
      hstatus, hheaders]
  simp only [Http.receive, hcheck, hredirect]
  refine .bind (.refl (fun _ => rfl) (fun _ => rfl) _) fun _ _ _ => ?_
  split
  · exact .error rfl
  · cases other.redirect? with
    | none => exact .ok ⟨rfl, rfl⟩
    | some location =>
        simp only
        cases Http.redirectUrl request.url location with
        | error fault => exact .error rfl
        | ok _ => exact .ok ⟨rfl, rfl⟩

theorem alike_receive (request : Http.Request) (h : outcome.Alike other) :
    ResultsAlike Eq Http.Answer.Alike (Http.receive request outcome)
      (Http.receive request other) := by
  cases h with
  | failed message => exact .error rfl
  | urlRefused message => exact .error rfl
  | answered h =>
      refine (alike_receive_answered request h.status h.headers).mono ?_
      rintro _ _ ⟨rfl, rfl⟩
      exact h

theorem alike_readDocument {answer other : Http.Answer}
    (hread : ∀ value other : Json, value.Alike other → ReadingsAlike like (read value) (read other))
    (h : answer.Alike other) :
    ResultsAlike DocumentFault.Alike like (readDocument model read answer)
      (readDocument model read other) := by
  have hbody : ResultsAlike DocumentFault.Alike Json.Alike
      ((Json.readBytes answer.body).mapError .body) ((Json.readBytes other.body).mapError .body) :=
    h.body.mapError fun fault other heq => congrArg DocumentFault.body heq
  refine hbody.bind fun value other hvalue => ?_
  exact (hread value other hvalue).mapError fun issues more hissues =>
    congrArg (DocumentFault.invalid model) hissues

theorem alike_documentOf
    (hread : ∀ value other : Json, value.Alike other → ReadingsAlike like (read value) (read other))
    (request : Http.Request) (h : outcome.Alike other) :
    ResultsAlike DocumentFault.Alike like (documentOf model read request outcome)
      (documentOf model read request other) := by
  have hreceive : ResultsAlike DocumentFault.Alike Http.Answer.Alike
      ((Http.receive request outcome).mapError .sending)
      ((Http.receive request other).mapError .sending) :=
    (alike_receive request h).mapError fun fault other heq => congrArg _ (heq ▸ rfl)
  refine hreceive.bind fun answer other hanswer => ?_
  rw [hanswer.status]
  split
  · exact alike_readDocument hread hanswer
  · have hwithout : answer.withoutBody = other.withoutBody := by
      rw [Http.Answer.withoutBody, Http.Answer.withoutBody, hanswer.status, hanswer.headers]
    exact .error (congrArg (DocumentFault.status request.url) hwithout)

/-- Beyond status and headers, what tokens are made of an answer is settled by how it is read and
how it is logged. -/
theorem alike_tokensOf_answered {likeTokens : TokenAnswer → TokenAnswer → Prop}
    (request : Http.Request) {answer other : Http.Answer} (hstatus : answer.status = other.status)
    (hheaders : answer.headers = other.headers) (hlogged : answer.LoggedAlike other)
    (hread : ResultsAlike DocumentFault.Alike likeTokens
      (readDocument TokenAnswer.model TokenAnswer.ofJson answer)
      (readDocument TokenAnswer.model TokenAnswer.ofJson other)) :
    ResultsAlike Failure.Alike likeTokens (Client.tokensOf request (.answered answer))
      (Client.tokensOf request (.answered other)) := by
  have hreceive := alike_receive_answered request hstatus hheaders
  unfold Client.tokensOf
  generalize Http.receive request (.answered answer) = received at hreceive
  generalize Http.receive request (.answered other) = receivedOther at hreceive
  cases hreceive with
  | error heq =>
      subst heq
      exact .error (.refl _)
  | @ok given more hsame =>
      obtain ⟨rfl, rfl⟩ := hsame
      by_cases hfine : given.status = 200
      · simp only [← hstatus, if_pos hfine]
        exact hread.mapError fun fault other =>
          @DocumentFault.alike_failure .tokenAnswer fault other fun _ => rfl
      · simp only [← hstatus, if_neg hfine, ← hlogged.resolve_left hfine]
        cases given.checkText with
        | ok _ => exact .error (.refl _)
        | error fault => exact .error (.refl _)

theorem alike_tokensOf (request : Http.Request) (h : outcome.Alike other) :
    ResultsAlike Failure.Alike TokenAnswer.Alike (Client.tokensOf request outcome)
      (Client.tokensOf request other) := by
  have hread : ∀ value other : Json, value.Alike other → ReadingsAlike TokenAnswer.Alike
      (TokenAnswer.ofJson value) (TokenAnswer.ofJson other) :=
    alike_ofObject (fun _ => ⟨rfl, rfl⟩) fun _ _ => alike_tokenAnswer
  cases h with
  | failed message => exact .error (.refl _)
  | urlRefused message => exact .error (.refl _)
  | answered h =>
      exact alike_tokensOf_answered request h.status h.headers h.logged (alike_readDocument hread h)

end Answers

/-! ## Flows -/

section Flows

variable {α : Type} {like : α → α → Prop}

theorem Flow.twin_ofChecked {ε : Type} {failure : ε → Failure} {x y : Except ε α}
    (h : ResultsAlike Failure.Alike like (x.mapError failure) (y.mapError failure)) :
    Twin like (ofChecked failure x) (ofChecked failure y) := by
  have hdone : ∀ given : Except ε α, ofChecked failure given = .done (given.mapError failure) := by
    intro given
    cases given <;> rfl
  rw [hdone, hdone]
  exact .done h

theorem Flow.twin_ofChecked_self {ε : Type} (failure : ε → Failure) (x : Except ε α) :
    Twin Eq (ofChecked failure x) (ofChecked failure x) :=
  twin_ofChecked (.refl Failure.Alike.refl Eq.refl _)

theorem Flow.twin_fetch {refusal : DocumentFault → Refusal} {model : Text}
    {read : Json → Checked α} (request : Except Http.Fault Http.Request)
    (hrefusal : ∀ fault, (refusal fault).withoutEcho = refusal fault.withoutEcho)
    (hread : ∀ value other : Json, value.Alike other →
      ReadingsAlike like (read value) (read other)) :
    Twin like (fetch refusal model read request) (fetch refusal model read request) := by
  cases request with
  | error fault => exact .fail _
  | ok actual =>
      refine .perform_bind fun outcome other houtcome => twin_ofChecked ?_
      exact (alike_documentOf hread actual houtcome).mapError fun _ _ =>
        DocumentFault.alike_failure hrefusal

namespace Client

theorem twin_discover (client : Client) : Flow.Twin Eq client.discover client.discover := by
  refine .perform_bind fun kept other heq => ?_
  obtain rfl : kept = other := heq
  cases kept with
  | some document => exact .pure rfl
  | none =>
      refine .bind (Flow.twin_fetch _ (fun _ => rfl)
        (alike_ofObject Eq.refl fun _ _ => alike_metadata)) ?_
      rintro document _ rfl
      by_cases hissuer : client.isIssuedBy document
      · rw [if_pos hissuer]
        exact .perform_bind fun _ _ _ => .pure rfl
      · rw [if_neg hissuer]
        exact .fail _

theorem twin_authorize (client : Client) : Flow.Twin Eq client.authorize client.authorize := by
  refine .bind client.twin_discover ?_
  rintro document _ rfl
  refine .perform_bind fun state _ heq => ?_
  obtain rfl := heq
  refine .perform_bind fun nonce _ heq => ?_
  obtain rfl := heq
  exact .bind (Flow.twin_ofChecked_self _ _) fun _ _ _ => .pure rfl

theorem twin_exchangeCode (client : Client) (code : Text) :
    Flow.Twin TokenAnswer.Alike (client.exchangeCode code) (client.exchangeCode code) := by
  refine .bind client.twin_discover ?_
  rintro document _ rfl
  refine .bind (Flow.twin_ofChecked_self _ _) ?_
  rintro request _ rfl
  refine .perform_bind fun outcome other houtcome => Flow.twin_ofChecked ?_
  exact (alike_tokensOf request houtcome).mapError fun _ _ => id

theorem twin_userInfo (client : Client) (accessToken : Text) :
    Flow.Twin (fun user other : UserInfo => user.email = other.email)
      (client.userInfo accessToken) (client.userInfo accessToken) := by
  refine .bind client.twin_discover ?_
  rintro document _ rfl
  split
  · exact .fail _
  · exact .fail _
  · exact Flow.twin_fetch _ (fun _ => rfl)
      (alike_ofObject (fun _ => rfl) fun _ _ => alike_userInfo)

end Client

end Flows

end SignOn

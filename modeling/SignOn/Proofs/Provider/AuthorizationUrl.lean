import SignOn.Proofs.Service.Authorization

/-!
# What an authorization URL carries

The URL that a browser is sent to is the provider's endpoint with one mark and a form after it.
Nothing that the form is written with can be taken for a mark, so it is read back as it was, and
what the endpoint's own query holds stays in front of it.
-/

namespace SignOn

def questionMark : CodePoint := CodePoint.ofChar '?'

def ampersand : CodePoint := CodePoint.ofChar '&'

def numberSign : CodePoint := CodePoint.ofChar '#'

namespace Url

def queryText (url : Text) : Text := ((Split.cutFirst? questionMark url).map (·.2)).getD []

def queryParts (url : Text) : List Text :=
  Split.runs (fun c => decide (c = ampersand)) (queryText url)

theorem queryParts_append_of_not_mem {endpoint : Text} (h : questionMark ∉ endpoint)
    (query : Text) :
    queryParts (endpoint ++ questionMark :: query) =
      queryParts endpoint ++ Split.runs (fun c => decide (c = ampersand)) query := by
  have hnone : queryText endpoint = [] := by
    rw [queryText, Split.cutFirst?_of_not_mem h]
    rfl
  have hquery : queryText (endpoint ++ questionMark :: query) = query := by
    rw [queryText, Split.cutFirst?_append h]
    rfl
  rw [queryParts, queryParts, hnone, hquery]
  rfl

theorem queryParts_append_of_mem {endpoint : Text} (h : questionMark ∈ endpoint)
    (query : Text) :
    queryParts (endpoint ++ ampersand :: query) =
      queryParts endpoint ++ Split.runs (fun c => decide (c = ampersand)) query := by
  obtain ⟨base, own, rfl, hbase⟩ := List.eq_append_cons_of_mem h
  have hown : queryText (base ++ questionMark :: own) = own := by
    rw [queryText, Split.cutFirst?_append hbase]
    rfl
  have hquery : queryText (base ++ questionMark :: own ++ ampersand :: query) =
      own ++ ampersand :: query := by
    rw [List.append_assoc, List.cons_append, queryText, Split.cutFirst?_append hbase]
    rfl
  rw [queryParts, queryParts, hown, hquery]
  exact Split.runs_append (by decide) own query

end Url

/-- A URL is an endpoint, one mark and a query after it that is read as a form.  The parts of the
query come after those that the endpoint has, and without a fragment in the endpoint there is
none. -/
structure Percent.Carries (endpoint query url : Text) (form : Percent.Form) : Prop where
  split : ∃ mark, (mark = questionMark ∨ mark = ampersand) ∧ url = endpoint ++ mark :: query
  letters : ∀ c ∈ query,
    Percent.IsFormPoint c ∨ c = CodePoint.ofChar '=' ∨ c = CodePoint.ofChar '&'
  decodes : Percent.formDecode? query = some form
  parts : Url.queryParts url = Url.queryParts endpoint ++ Split.splitOn ampersand query
  fragment : numberSign ∉ endpoint → numberSign ∉ url

namespace Percent

variable {form : Form}

theorem splitOn_formEncode (h : form ≠ []) :
    Split.splitOn ampersand (formEncode form) = form.map formPair := by
  refine splitOn_join (by simpa using h) fun piece hpiece => ?_
  obtain ⟨pair, -, rfl⟩ := List.mem_map.mp hpiece
  exact not_mem_formPair pair

theorem runs_formEncode (h : form ≠ []) :
    Split.runs (fun c => decide (c = ampersand)) (formEncode form) =
      Split.splitOn ampersand (formEncode form) := by
  refine List.filter_eq_self.mpr fun piece hpiece => ?_
  change piece ∈ Split.splitOn ampersand (formEncode form) at hpiece
  rw [splitOn_formEncode h] at hpiece
  obtain ⟨pair, -, rfl⟩ := List.mem_map.mp hpiece
  simp [formPair, Text.ofString]

theorem numberSign_not_mem_formEncode (form : Form) : numberSign ∉ formEncode form := by
  intro hmem
  rcases of_mem_formEncode hmem with hpoint | hmark | hmark
  · exact absurd hpoint (by unfold IsFormPoint; decide)
  · exact absurd hmark (by decide)
  · exact absurd hmark (by decide)

theorem carries_of_mark {endpoint : Text} {mark : CodePoint}
    (hmark : mark = questionMark ∨ mark = ampersand) (hne : form ≠ [])
    (hform : ∀ pair ∈ form, pair.1.IsScalar ∧ pair.2.IsScalar)
    (hparts : Url.queryParts (endpoint ++ mark :: formEncode form) = Url.queryParts endpoint ++
      Split.runs (fun c => decide (c = ampersand)) (formEncode form)) :
    Carries endpoint (formEncode form) (endpoint ++ mark :: formEncode form) form where
  split := ⟨mark, hmark, rfl⟩
  letters _ := of_mem_formEncode
  decodes := formDecode?_formEncode hne hform
  parts := by rw [hparts, runs_formEncode hne]
  fragment := by
    have hother : numberSign ≠ mark := by
      rcases hmark with rfl | rfl
      · decide
      · decide
    intro hnot hmem
    rcases List.mem_append.mp hmem with hendpoint | hrest
    · exact hnot hendpoint
    · exact numberSign_not_mem_formEncode form (List.mem_of_ne_of_mem hother hrest)

/-- The mark is an ampersand where the endpoint has a query, though it be an empty one. -/
theorem carries_formEncode (endpoint : Text) (hne : form ≠ [])
    (hform : ∀ pair ∈ form, pair.1.IsScalar ∧ pair.2.IsScalar) :
    Carries endpoint (formEncode form)
      (endpoint ++ Client.separator endpoint ++ formEncode form) form := by
  rw [List.append_assoc]
  by_cases hown : questionMark ∈ endpoint
  · have hmark : Client.separator endpoint = [ampersand] :=
      if_pos (List.contains_iff_mem.mpr hown)
    rw [hmark]
    exact carries_of_mark (.inr rfl) hne hform (Url.queryParts_append_of_mem hown _)
  · have hmark : Client.separator endpoint = [questionMark] :=
      if_neg fun hcontains => hown (List.contains_iff_mem.mp hcontains)
    rw [hmark]
    exact carries_of_mark (.inl rfl) hne hform (Url.queryParts_append_of_not_mem hown _)

end Percent

theorem Text.isScalar_join {texts : List Text} (h : ∀ t ∈ texts, t.IsScalar) :
    (Text.join " " texts).IsScalar := by
  have hspace : Text.IsScalar (Text.ofString " ") := by decide
  induction texts with
  | nil => exact fun c hc => absurd hc List.not_mem_nil
  | cons t texts ih =>
      obtain ⟨ht, htexts⟩ := List.forall_mem_cons.mp h
      cases texts with
      | nil => exact ht
      | cons other texts =>
          rw [join]
          · intro c hc
            rcases List.mem_append.mp hc with hleft | hrest
            · rcases List.mem_append.mp hleft with hfirst | hmark
              · exact ht c hfirst
              · exact hspace c hmark
            · exact ih htexts c hrest
          · simp

namespace Client

variable {client : Client} {state next : State} {token nonce : Text}

structure IsScalar (client : Client) : Prop where
  clientId : client.clientId.IsScalar
  redirectUrl : client.redirectUrl.IsScalar
  scopes : ∀ scope ∈ client.scopes, scope.IsScalar

theorem IsScalar.checkForm (h : client.IsScalar) (htoken : token.IsScalar)
    (hnonce : nonce.IsScalar) :
    Http.checkForm (client.authorizationForm token nonce) = .ok () := by
  refine Http.checkForm_eq_ok_iff.mpr ?_
  have hcode : Text.IsScalar (Text.ofString "code") := by decide
  simp only [authorizationForm, List.forall_mem_cons]
  exact ⟨hcode, h.clientId, htoken, Text.isScalar_join h.scopes, h.redirectUrl, hnonce,
    List.forall_mem_nil _⟩

theorem exists_finds_of_run_authorize {authorization : Authorization}
    (h : client.authorize.run state = (.ok authorization, next)) :
    ∃ document, next.document = some document ∧
      Http.checkForm (client.authorizationForm authorization.state authorization.nonce) = .ok () ∧
      authorization.url = client.authorizationUrl document.authorizationEndpoint
        authorization.state authorization.nonce := by
  obtain ⟨document, found, hdiscover, -⟩ := Flow.run_bind_eq_ok_iff.mp h
  obtain ⟨asked, hfinds, -⟩ := run_discover_eq_ok_iff.mp hdiscover
  rw [Service.run_authorize_of_finds hfinds] at h
  cases hform : Http.checkForm
      (client.authorizationForm state.firstToken state.secondToken) with
  | error fault =>
      rw [hform] at h
      cases congrArg Prod.fst h
  | ok u =>
      rw [hform] at h
      cases h
      exact ⟨document, rfl, hform, rfl⟩

/-- An authorization that is got carries the request to the endpoint of the document that is kept,
with its own state and nonce; and one is got whenever there is a document and every value can be
written. -/
theorem url_decodes_to_request (client : Client) :
    (∀ state authorization next, client.authorize.run state = (.ok authorization, next) →
      ∃ document query, next.document = some document ∧
        Percent.Carries document.authorizationEndpoint query authorization.url [
          ("response_type", "code"),
          ("client_id", client.clientId),
          ("state", authorization.state),
          ("scope", Text.join " " client.scopes),
          ("redirect_uri", client.redirectUrl),
          ("nonce", authorization.nonce)]) ∧
    ∀ state document asked, client.Finds state.outlook document asked → client.IsScalar →
      state.firstToken.IsScalar → state.secondToken.IsScalar →
      ∃ url next, client.authorize.run state =
          (.ok ⟨url, state.firstToken, state.secondToken⟩, next) ∧
        next.document = some document := by
  refine ⟨fun state authorization next hrun => ?_,
    fun state document asked hfinds hclient htoken hnonce => ?_⟩
  · obtain ⟨document, hdocument, hform, hurl⟩ := exists_finds_of_run_authorize hrun
    have hne : client.authorizationForm authorization.state authorization.nonce ≠ [] := by
      simp [authorizationForm]
    have hcarries := Percent.carries_formEncode document.authorizationEndpoint hne
      (Service.isScalar_of_mem_authorizationForm hform)
    exact ⟨document, _, hdocument, by rw [hurl]; exact hcarries⟩
  · rw [Service.run_authorize_of_finds hfinds, hclient.checkForm htoken hnonce]
    exact ⟨_, _, rfl, rfl⟩

def queriedState : State :=
  { sampleState with
    tokens := .ofList ["a b&c=d", "#?"]
    document := some ⟨"https://i", "https://i/a?x=1&", "https://i/t", none, none, none⟩ }

theorem url_decodes_to_request_in_sample :
    ∃ url next query,
      Service.sampleClient.authorize.run queriedState = (.ok ⟨url, "a b&c=d", "#?"⟩, next) ∧
        Percent.Carries "https://i/a?x=1&" query url [
          ("response_type", "code"), ("client_id", "c"), ("state", "a b&c=d"), ("scope", ""),
          ("redirect_uri", "https://a/cb"), ("nonce", "#?")] := by
  have hclient : Service.sampleClient.IsScalar := ⟨by decide, by decide, by decide⟩
  obtain ⟨hcarries, hgot⟩ := url_decodes_to_request Service.sampleClient
  obtain ⟨url, next, hrun, hkept⟩ := hgot queriedState _ [] (.kept rfl) hclient
    (by decide : Text.IsScalar (Text.ofString "a b&c=d"))
    (by decide : Text.IsScalar (Text.ofString "#?"))
  obtain ⟨document, query, hdocument, hquery⟩ := hcarries _ _ _ hrun
  cases hkept.symm.trans hdocument
  exact ⟨url, next, query, hrun, hquery⟩

end Client

end SignOn

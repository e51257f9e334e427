import SignOn.Proofs.Provider.AuthorizationUrl
import SignOn.Proofs.Text.Runs
import SignOn.Proofs.Web.Location

/-!
# Scopes

The scopes of a client are `openid` and after it the words of the settings, each as often as it
stands there.  No word holds what separates words, so the scopes are read back from the text that
an authorization URL carries, and that text configures the same client.
-/

namespace SignOn

def separatesWords (c : CodePoint) : Bool := c = CodePoint.ofChar ',' || c.isBlank

def Text.IsWord (t : Text) : Prop := t ≠ [] ∧ ∀ c ∈ t, separatesWords c = false

def blank : CodePoint := CodePoint.ofChar ' '

namespace Client

variable {client : Client} {settings : Settings} {scopes words : List Text} {scope : Text}

theorem isWord_of_mem_scopeWords {t : Text} (h : scope ∈ Settings.scopeWords t) : scope.IsWord :=
  (Split.hasRuns_runs separatesWords t).of_mem h

theorem isWord_of_mem_withOpenid (h : ∀ word ∈ words, word.IsWord)
    (hmem : scope ∈ withOpenid words) : scope.IsWord := by
  rcases List.mem_cons.mp hmem with rfl | hrest
  · exact ⟨by decide, by decide⟩
  · exact h scope (List.mem_of_mem_filter hrest)

theorem hasRuns_join (h : ∀ word ∈ words, word.IsWord) :
    Split.HasRuns separatesWords (Text.join " " words) words := by
  induction words with
  | nil => exact .nil
  | cons word words ih =>
      obtain ⟨⟨hne, hword⟩, hwords⟩ := List.forall_mem_cons.mp h
      cases words with
      | nil =>
          have hlast := Split.HasRuns.run hne hword (by simp) .nil
          rwa [List.append_nil] at hlast
      | cons other words =>
          have hblank : separatesWords blank = true := by decide
          rw [Text.join, List.append_assoc]
          · refine .run hne hword ?_ (.skip hblank (ih hwords))
            rintro _ ⟨⟩
            exact hblank
          · simp

theorem scopeWords_join (h : ∀ word ∈ words, word.IsWord) :
    Settings.scopeWords (Text.join " " words) = words :=
  (hasRuns_join h).eq_runs.symm

theorem splitOn_blank_join (hne : words ≠ []) (h : ∀ word ∈ words, word.IsWord) :
    Split.splitOn blank (Text.join " " words) = words := by
  refine Percent.splitOn_join hne fun word hword hmem => ?_
  have hblank : separatesWords blank = false := (h word hword).2 blank hmem
  contradiction

theorem count_withOpenid (scopes : List Text) : (withOpenid scopes).count openidScope = 1 := by
  have hrest : (scopes.filter (· ≠ openidScope)).count openidScope = 0 :=
    List.count_eq_zero.mpr (by simp)
  rw [withOpenid, List.count_cons_self, hrest]

theorem withOpenid_withOpenid (scopes : List Text) :
    withOpenid (withOpenid scopes) = withOpenid scopes := by
  simp [withOpenid]

theorem scopes_of_register {registration : Registration}
    (h : register registration = .ok client) : client.scopes = withOpenid registration.scopes :=
  congrArg Client.scopes (eq_of_register h)

theorem register_with_scopes {registration : Registration}
    (h : register registration = .ok client) (scopes : List Text) :
    register { registration with scopes } = .ok { client with scopes := withOpenid scopes } := by
  simp only [register, bind_eq_ok_iff, Except.ok.injEq] at h ⊢
  obtain ⟨issuer, hissuer, redirectUrl, hredirect, clientId, hid, rfl⟩ := h
  exact ⟨issuer, hissuer, redirectUrl, hredirect, clientId, hid, rfl⟩

theorem registration_with_scopes (settings : Settings) (scopes : Text) :
    { settings with scopes }.registration =
      { settings.registration with scopes := Settings.scopeWords scopes } := rfl

theorem valuesOf_scope (client : Client) (token nonce : Text) :
    Percent.Form.valuesOf (client.authorizationForm token nonce) "scope" =
      [Text.join " " client.scopes] := by
  have hnames : ∀ name ∈ ["response_type", "client_id", "state", "redirect_uri", "nonce"],
      Text.ofString name ≠ Text.ofString "scope" := by decide
  simp only [List.forall_mem_cons] at hnames
  obtain ⟨htype, hid, hstate, hredirect, hnonce, -⟩ := hnames
  simp [Percent.Form.valuesOf, authorizationForm, htype, hid, hstate, hredirect, hnonce]

/-- The scopes of a client that settings configure: `openid` once and first, then the maximal runs
of the configured text in their order; an authorization URL carries a text that splits into them at
its blanks, and that text in place of the configured one gives the same client. -/
theorem scopes_read_back (hregister : register settings.registration = .ok client) :
    (∃ words, Split.HasRuns (fun c => c = CodePoint.ofChar ',' || c.isBlank) settings.scopes words ∧
      client.scopes = openidScope :: words.filter (· ≠ openidScope)) ∧
    client.scopes.count openidScope = 1 ∧
    (∀ scope ∈ client.scopes, ∀ c ∈ scope, c ≠ CodePoint.ofChar ',' ∧ c.isBlank = false) ∧
    (∀ state authorization next, client.authorize.run state = (.ok authorization, next) →
      ∃ document query form value, next.document = some document ∧
        Percent.Carries document.authorizationEndpoint query authorization.url form ∧
        Percent.Form.valuesOf form "scope" = [value] ∧
        Split.splitOn (CodePoint.ofChar ' ') value = client.scopes) ∧
    register { settings with scopes := Text.join " " client.scopes }.registration = .ok client := by
  have hscopes : client.scopes = withOpenid (Settings.scopeWords settings.scopes) :=
    scopes_of_register hregister
  have hwords : ∀ scope ∈ client.scopes, scope.IsWord := by
    intro scope hmem
    rw [hscopes] at hmem
    exact isWord_of_mem_withOpenid (fun word => isWord_of_mem_scopeWords) hmem
  refine ⟨⟨_, Split.hasRuns_runs _ _, hscopes⟩, ?_, ?_, ?_, ?_⟩
  · rw [hscopes]
    exact count_withOpenid _
  · intro scope hmem c hc
    simpa [separatesWords] using (hwords scope hmem).2 c hc
  · intro state authorization next hrun
    obtain ⟨document, hdocument, hform, hurl⟩ := exists_finds_of_run_authorize hrun
    have hne : client.authorizationForm authorization.state authorization.nonce ≠ [] := by
      simp [authorizationForm]
    have hcarries := Percent.carries_formEncode document.authorizationEndpoint hne
      (Service.isScalar_of_mem_authorizationForm hform)
    have hsome : client.scopes ≠ [] := by simp [hscopes, withOpenid]
    exact ⟨document, _, _, _, hdocument, by rw [hurl]; exact hcarries,
      valuesOf_scope _ _ _, splitOn_blank_join hsome hwords⟩
  · have hagain : withOpenid (Settings.scopeWords (Text.join " " client.scopes)) =
        client.scopes := by
      rw [scopeWords_join hwords, hscopes, withOpenid_withOpenid]
    rw [registration_with_scopes, register_with_scopes hregister, hagain]

def scopedSettings : Settings :=
  { Web.sampleSettings with scopes := ", email\u3000openid,,profile\x1femail," }

theorem scopes_read_back_in_sample :
    ∃ client, register scopedSettings.registration = .ok client ∧
      client.scopes = ["openid", "email", "profile", "email"] ∧
      client.scopes.count openidScope = 1 ∧
      register { scopedSettings with scopes := "openid email profile email" }.registration =
        .ok client := by
  obtain ⟨client, hregister⟩ : ∃ client, register scopedSettings.registration = .ok client :=
    exists_ok_of_isSome (by decide +kernel)
  obtain ⟨-, hcount, -, -, hsame⟩ := scopes_read_back hregister
  have hscopes : client.scopes = ["openid", "email", "profile", "email"] := by
    rw [scopes_of_register hregister]
    decide +kernel
  rw [hscopes] at hsame
  exact ⟨client, hregister, hscopes, hcount, hsame⟩

end Client

end SignOn

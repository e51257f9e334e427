import SignOn.Proofs.Http.Obstruction
import SignOn.Proofs.Provider.Answers

/-!
# Calls that are obstructed

A call to the provider replies, or it is refused in one of the few ways that are its own, or
something obstructs it.  Faults of the way and documents that cannot be used always refuse a call.
What obstructs one is a URL, be it the issuer's, an endpoint's or a location, and a body that is
nested too deeply; for a code also a value that cannot be written, a host whose name cannot be read,
and an answer without success that cannot be read as a text.
-/

namespace SignOn

open Http (attempt attempt_eq_error_iff)

namespace Client

/-- How a call ends that is refused in certain kinds only, unless certain causes obstruct it. -/
inductive Ends {α : Type} (kinds : List Failure.Kind) (obstructs : Interruption → Prop) :
    Except Failure α → Prop
  | replies (value : α) (hclear : ∀ cause, ¬obstructs cause) : Ends kinds obstructs (.ok value)
  | refused (refusal : Refusal) (hkind : refusal.kind ∈ kinds) (hstatus : refusal.status = 502)
      (hclear : ∀ cause, ¬obstructs cause) : Ends kinds obstructs (.error (.refused refusal))
  | obstructed (cause : Interruption) (h : obstructs cause) :
      Ends kinds obstructs (.error (.interrupted cause))

namespace Ends

variable {α β : Type} {kinds more : List Failure.Kind} {obstructs other : Interruption → Prop}
  {result : Except Failure α}

theorem map (h : Ends kinds obstructs result) (f : α → β) :
    Ends kinds obstructs (result.map f) := by
  cases h with
  | replies value hclear => exact .replies (f value) hclear
  | refused refusal hkind hstatus hclear => exact .refused refusal hkind hstatus hclear
  | obstructed cause h => exact .obstructed cause h

theorem widen (h : Ends kinds obstructs result) (hkinds : kinds ⊆ more) :
    Ends more obstructs result := by
  cases h with
  | replies value hclear => exact .replies value hclear
  | refused refusal hkind hstatus hclear => exact .refused refusal (hkinds hkind) hstatus hclear
  | obstructed cause h => exact .obstructed cause h

theorem congr (h : Ends kinds obstructs result) (hsame : ∀ cause, other cause ↔ obstructs cause) :
    Ends kinds other result := by
  rwa [funext fun cause => propext (hsame cause)]

theorem error {failure : Failure} (h : Ends kinds obstructs (.error failure : Except Failure α)) :
    Ends kinds obstructs (.error failure : Except Failure β) := by
  cases h with
  | refused refusal hkind hstatus hclear => exact .refused refusal hkind hstatus hclear
  | obstructed cause h => exact .obstructed cause h

theorem of_refusals (h : ∀ refusal, result = .error (.refused refusal) →
    refusal.kind ∈ kinds ∧ refusal.status = 502) :
    Ends kinds (fun cause => result = .error (.interrupted cause)) result := by
  rcases result with (refusal | cause) | value
  · obtain ⟨hkind, hstatus⟩ := h refusal rfl
    exact .refused refusal hkind hstatus nofun
  · exact .obstructed cause rfl
  · exact .replies value nofun

end Ends

end Client

/-! ## Documents -/

def Http.Answer.NestsTooDeep (answer : Http.Answer) (container : Json.Container) : Prop :=
  ∃ document, Json.readBytes answer.body = .error (.reading document (.nesting container))

/-- What keeps a document from being got and the call from being refused. -/
inductive ObstructsFetch (target : Text) (request : Except Http.Fault Http.Request)
    (outcome : Http.Outcome) : Interruption → Prop
  | url {fault : Http.Fault} (h : Http.Obstructs target request outcome fault)
      (hurl : fault.family = .url) : ObstructsFetch target request outcome (.sending fault)
  | nesting {answer : Http.Answer} {container : Json.Container}
      (h : attempt request outcome = .ok answer) (hstatus : Http.isSuccess answer.status)
      (hbody : answer.NestsTooDeep container) :
      ObstructsFetch target request outcome (.nesting container)

section Documents

variable {α : Type} {model : Text} {read : Json → Record.Checked α} {state : State}
  {refusal : DocumentFault → Refusal} {cause : Interruption} {request : Http.Request}
  {outcome : Http.Outcome}

theorem failure_sending_iff {fault : Http.Fault} :
    (DocumentFault.sending fault).failure refusal = .interrupted cause ↔
      fault.family = .url ∧ cause = .sending fault := by
  by_cases hfamily : fault.family = .url
  · simp [DocumentFault.failure, hfamily, eq_comm (a := cause)]
  · simp [DocumentFault.failure, hfamily]

theorem failure_body_iff {fault : Json.ReadFault} :
    (DocumentFault.body fault).failure refusal = .interrupted cause ↔
      ∃ container document, fault = .reading document (.nesting container) ∧
        cause = .nesting container := by
  have hnested : ∀ container, fault.tooDeep? = some container ↔ _ :=
    fun container => Json.ReadFault.tooDeep?_eq_some_iff
  cases htoo : fault.tooDeep? with
  | none =>
      refine iff_of_false (by simp [DocumentFault.failure, htoo]) ?_
      rintro ⟨container, document, hfault, -⟩
      cases htoo.symm.trans ((hnested container).mpr ⟨document, hfault⟩)
  | some container =>
      obtain ⟨document, rfl⟩ := (hnested container).mp htoo
      simp [DocumentFault.failure, htoo, eq_comm (a := cause)]

theorem eq_of_failure_eq_refused {fault : DocumentFault} {given : Refusal}
    (h : fault.failure refusal = .refused given) : refusal fault = given := by
  cases fault with
  | sending fault =>
      simp only [DocumentFault.failure] at h
      split at h
      · contradiction
      · exact Failure.refused.inj h
  | body fault =>
      simp only [DocumentFault.failure] at h
      split at h
      · contradiction
      · exact Failure.refused.inj h
  | status url answer => exact Failure.refused.inj h
  | invalid model issues => exact Failure.refused.inj h

theorem readDocument_eq_body_iff {answer : Http.Answer} {fault : Json.ReadFault} :
    readDocument model read answer = .error (.body fault) ↔
      Json.readBytes answer.body = .error fault := by
  unfold readDocument
  cases Json.readBytes answer.body with
  | error given =>
      change Except.error (DocumentFault.body given) = Except.error (.body fault) ↔ _
      simp
  | ok document =>
      refine iff_of_false ?_ nofun
      change (read document).mapError _ ≠ _
      cases read document <;> exact nofun

theorem readDocument_ne_sending {answer : Http.Answer} {fault : Http.Fault} :
    readDocument model read answer ≠ .error (.sending fault) := by
  unfold readDocument
  cases Json.readBytes answer.body with
  | error given => exact nofun
  | ok document =>
      change (read document).mapError _ ≠ _
      cases read document <;> exact nofun

theorem readDocument_interrupted_iff {answer : Http.Answer} :
    (readDocument model read answer).mapError (DocumentFault.failure refusal) =
        .error (.interrupted cause) ↔
      ∃ container, answer.NestsTooDeep container ∧ cause = .nesting container := by
  rw [mapError_eq_error_iff]
  constructor
  · rintro ⟨fault, hread, hfailure⟩
    cases fault with
    | sending fault => exact absurd hread readDocument_ne_sending
    | body fault =>
        obtain ⟨container, document, rfl, hcause⟩ := failure_body_iff.mp hfailure
        exact ⟨container, ⟨document, readDocument_eq_body_iff.mp hread⟩, hcause⟩
    | status url answer => contradiction
    | invalid model issues => contradiction
  · rintro ⟨container, ⟨document, hbody⟩, hcause⟩
    exact ⟨_, readDocument_eq_body_iff.mpr hbody,
      failure_body_iff.mpr ⟨container, document, rfl, hcause⟩⟩

theorem documentOf_interrupted_iff :
    (documentOf model read request outcome).mapError (DocumentFault.failure refusal) =
        .error (.interrupted cause) ↔
      (∃ fault, Http.receive request outcome = .error fault ∧ fault.family = .url ∧
        cause = .sending fault) ∨
      ∃ answer, Http.receive request outcome = .ok answer ∧ Http.isSuccess answer.status ∧
        ∃ container, answer.NestsTooDeep container ∧ cause = .nesting container := by
  unfold documentOf
  cases Http.receive request outcome with
  | error fault =>
      change Except.error ((DocumentFault.sending fault).failure refusal) = _ ↔ _
      simp [failure_sending_iff]
  | ok answer =>
      change (if _ then _ else _ : Except DocumentFault α).mapError _ = _ ↔ _
      by_cases hstatus : Http.isSuccess answer.status
      · simp [hstatus, readDocument_interrupted_iff]
      · simp only [hstatus]
        exact iff_of_false nofun (by simp [hstatus])

theorem obstructsFetch_iff {target : Text} {request : Except Http.Fault Http.Request}
    (hgoes : Http.GoesTo target request) :
    ObstructsFetch target request outcome cause ↔
      (∃ fault, attempt request outcome = .error fault ∧ fault.family = .url ∧
        cause = .sending fault) ∨
      ∃ answer, attempt request outcome = .ok answer ∧ Http.isSuccess answer.status ∧
        ∃ container, answer.NestsTooDeep container ∧ cause = .nesting container := by
  constructor
  · rintro (⟨hobstructs, hurl⟩ | ⟨hattempt, hstatus, hbody⟩)
    · exact .inl ⟨_, ((attempt_eq_error_iff hgoes).mpr hobstructs).1, hurl, rfl⟩
    · exact .inr ⟨_, hattempt, hstatus, _, hbody, rfl⟩
  · rintro (⟨fault, hattempt, hurl, rfl⟩ | ⟨answer, hattempt, hstatus, container, hbody, rfl⟩)
    · refine .url ((attempt_eq_error_iff hgoes).mp ⟨hattempt, ?_⟩) hurl
      rw [hurl]
      exact nofun
    · exact .nesting hattempt hstatus hbody

theorem Flow.ends_fetch {kind : Failure.Kind} {target : Text}
    {request : Except Http.Fault Http.Request} (hgoes : Http.GoesTo target request)
    (hkind : ∀ fault, (refusal fault).kind = kind) (hstatus : kind.status = 502) (state : State) :
    Client.Ends [kind] (ObstructsFetch target request (state.outlook.outcome 0))
      ((Flow.fetch refusal model read request).run state).1 := by
  have hends : ∀ result : Except DocumentFault α, Client.Ends [kind]
      (fun cause => result.mapError (DocumentFault.failure refusal) = .error (.interrupted cause))
      (result.mapError (DocumentFault.failure refusal)) := by
    intro result
    refine Client.Ends.of_refusals fun given hgiven => ?_
    obtain ⟨fault, -, hfailure⟩ := mapError_eq_error_iff.mp hgiven
    obtain rfl : refusal fault = given := eq_of_failure_eq_refused hfailure
    exact ⟨by simp [hkind], by rw [Refusal.status, hkind, hstatus]⟩
  cases request with
  | error fault =>
      refine (hends (.error (.sending fault))).congr fun cause => ?_
      refine (obstructsFetch_iff hgoes).trans ?_
      change _ ↔ Except.error ((DocumentFault.sending fault).failure refusal) = _
      simp [attempt, bind_eq_error_iff, bind_eq_ok_iff, failure_sending_iff]
  | ok actual =>
      have hrun : ((Flow.fetch refusal model read (.ok actual)).run state).1 =
          (documentOf model read actual (state.outlook.outcome 0)).mapError
            (DocumentFault.failure refusal) := by
        rw [← State.fst_send]
        exact congrArg Prod.fst (Flow.run_ofChecked _ _ _)
      rw [hrun]
      exact (hends _).congr fun cause =>
        (obstructsFetch_iff hgoes).trans documentOf_interrupted_iff.symm

end Documents

namespace Client

variable {client : Client} {state : State} {document : Metadata}

/-! ## With a document -/

theorem goesTo_tokenRequest (client : Client) (document : Metadata) (code : Text) :
    Http.GoesTo document.tokenEndpoint (client.tokenRequest document code) := by
  have hcredentials : Http.ChecksWriting (client.tokenCredentials document) := by
    unfold tokenCredentials
    split
    · exact .ok none
    · exact (Http.checksWriting_checkEncodable _).bind fun _ =>
        (Http.checksWriting_checkEncodable _).bind fun _ => .ok _
  exact hcredentials.bind_goesTo fun _ => Http.goesTo_postRequest _ _ _

inductive Halts (client : Client) (document : Metadata) (state : State) :
    Call → Interruption → Prop
  | form {fault : Http.Fault}
      (h : Http.checkForm (client.authorizationForm state.draw.1 state.draw.2.draw.1) =
        .error fault) :
      Halts client document state .authorize (.sending fault)
  | tokens {code : Text} {fault : Http.Fault}
      (h : Http.Obstructs document.tokenEndpoint (client.tokenRequest document code)
        (state.outlook.outcome 0) fault) :
      Halts client document state (.exchangeCode code) (.sending fault)
  | nesting {code : Text} {answer : Http.Answer} {container : Json.Container}
      (h : attempt (client.tokenRequest document code) (state.outlook.outcome 0) = .ok answer)
      (hstatus : answer.status = 200) (hbody : answer.NestsTooDeep container) :
      Halts client document state (.exchangeCode code) (.nesting container)
  | text {code : Text} {answer : Http.Answer} {fault : Http.TextFault}
      (h : attempt (client.tokenRequest document code) (state.outlook.outcome 0) = .ok answer)
      (hstatus : answer.status ≠ 200) (htext : answer.checkText = .error fault) :
      Halts client document state (.exchangeCode code) (.text fault)
  | user {accessToken endpoint : Text} {cause : Interruption}
      (hendpoint : Service.nonempty? document.userinfoEndpoint = some endpoint)
      (h : ObstructsFetch endpoint (userInfoRequest endpoint accessToken)
        (state.outlook.outcome 0) cause) :
      Halts client document state (.userInfo accessToken) cause

/-- The kinds in which a call can be refused: the one of finding the document, and its own. -/
def Call.kinds : Call → List Failure.Kind
  | .discover | .authorize => [.discovery]
  | .exchangeCode _ => [.discovery, .tokenExchange]
  | .userInfo _ => [.discovery, .userInfo]

theorem ends_authorize_of_some (h : state.document = some document) :
    Ends [] (client.Halts document state .authorize) (client.authorize.run state).1 := by
  rw [run_authorize_of_some h]
  cases hform : Http.checkForm (client.authorizationForm state.draw.1 state.draw.2.draw.1) with
  | error fault => exact .obstructed _ (.form hform)
  | ok u =>
      refine .replies _ fun cause hhalts => ?_
      cases hhalts with
      | form hfault => cases hform.symm.trans hfault

theorem tokenFailure_eq_interrupted_iff {fault : Http.Fault} {cause : Interruption} :
    tokenFailure fault = .interrupted cause ↔ fault.family ≠ .way ∧ cause = .sending fault := by
  unfold tokenFailure
  by_cases hfamily : fault.family = .way
  · simp [hfamily]
  · simp [hfamily, eq_comm (a := cause)]

theorem tokensOf_eq_interrupted_iff {request : Http.Request} {outcome : Http.Outcome}
    {cause : Interruption} :
    tokensOf request outcome = .error (.interrupted cause) ↔
      (∃ fault, Http.receive request outcome = .error fault ∧ fault.family ≠ .way ∧
        cause = .sending fault) ∨
      ∃ answer, Http.receive request outcome = .ok answer ∧
        (answer.status = 200 ∧ (∃ container, answer.NestsTooDeep container ∧
            cause = .nesting container) ∨
          answer.status ≠ 200 ∧
            ∃ fault, answer.checkText = .error fault ∧ cause = .text fault) := by
  unfold tokensOf
  cases Http.receive request outcome with
  | error fault => simp [tokenFailure_eq_interrupted_iff]
  | ok answer =>
      by_cases hstatus : answer.status = 200
      · simp [hstatus, readDocument_interrupted_iff]
      · cases htext : answer.checkText <;> simp [hstatus, htext, eq_comm (a := cause)]

theorem exchange_eq_interrupted_iff {request : Except Http.Fault Http.Request}
    {outcome : Http.Outcome} {cause : Interruption} :
    request.mapError tokenFailure >>= (tokensOf · outcome) = .error (.interrupted cause) ↔
      (∃ fault, attempt request outcome = .error fault ∧ fault.family ≠ .way ∧
        cause = .sending fault) ∨
      ∃ answer, attempt request outcome = .ok answer ∧
        (answer.status = 200 ∧ (∃ container, answer.NestsTooDeep container ∧
            cause = .nesting container) ∨
          answer.status ≠ 200 ∧
            ∃ fault, answer.checkText = .error fault ∧ cause = .text fault) := by
  cases request with
  | error fault =>
      change Except.error (tokenFailure fault) = _ ↔ _
      simp [attempt, bind_eq_error_iff, bind_eq_ok_iff, tokenFailure_eq_interrupted_iff]
  | ok actual => exact tokensOf_eq_interrupted_iff

theorem halts_exchangeCode_iff {code : Text} {cause : Interruption} :
    client.Halts document state (.exchangeCode code) cause ↔
      (client.tokenRequest document code).mapError tokenFailure >>=
          (tokensOf · (state.outlook.outcome 0)) = .error (.interrupted cause) := by
  have hfaults : ∀ fault, _ ↔ Http.Obstructs _ _ (state.outlook.outcome 0) fault :=
    fun fault => attempt_eq_error_iff (goesTo_tokenRequest client document code)
  rw [exchange_eq_interrupted_iff]
  constructor
  · rintro (_ | hobstructs | ⟨hattempt, hstatus, hbody⟩ | ⟨hattempt, hstatus, htext⟩ | _)
    · obtain ⟨hattempt, hfamily⟩ := (hfaults _).mpr hobstructs
      exact .inl ⟨_, hattempt, hfamily, rfl⟩
    · exact .inr ⟨_, hattempt, .inl ⟨hstatus, _, hbody, rfl⟩⟩
    · exact .inr ⟨_, hattempt, .inr ⟨hstatus, _, htext, rfl⟩⟩
  · rintro (⟨fault, hattempt, hfamily, rfl⟩ | ⟨answer, hattempt, hanswer⟩)
    · exact .tokens ((hfaults fault).mp ⟨hattempt, hfamily⟩)
    · rcases hanswer with ⟨hstatus, container, hbody, rfl⟩ | ⟨hstatus, fault, htext, rfl⟩
      · exact .nesting hattempt hstatus hbody
      · exact .text hattempt hstatus htext

theorem kind_of_tokenFailure {fault : Http.Fault} {refusal : Refusal}
    (h : tokenFailure fault = .refused refusal) : refusal.kind = .tokenExchange := by
  unfold tokenFailure at h
  split at h
  · cases h
    rfl
  · contradiction

theorem kind_of_tokensOf {request : Http.Request} {outcome : Http.Outcome} {refusal : Refusal}
    (h : tokensOf request outcome = .error (.refused refusal)) :
    refusal.kind = .tokenExchange := by
  unfold tokensOf at h
  split at h
  next fault => exact kind_of_tokenFailure (Except.error.inj h)
  next answer =>
    split at h
    · obtain ⟨fault, -, hfailure⟩ := mapError_eq_error_iff.mp h
      rw [← eq_of_failure_eq_refused hfailure]
      rfl
    · split at h
      · cases h
        rfl
      · cases h

theorem ends_exchangeCode_of_some (h : state.document = some document) (code : Text) :
    Ends [.tokenExchange] (client.Halts document state (.exchangeCode code))
      ((client.exchangeCode code).run state).1 := by
  have hrun : ((client.exchangeCode code).run state).1 =
      (client.tokenRequest document code).mapError tokenFailure >>=
        (tokensOf · (state.outlook.outcome 0)) := by
    rw [exchangeCode, Flow.run_bind_of_ok (run_discover_of_some h)]
    cases client.tokenRequest document code with
    | error fault => rfl
    | ok actual =>
        change ((Flow.ofChecked id (tokensOf actual (state.send actual).1)).run
          (state.send actual).2).1 = tokensOf actual (state.outlook.outcome 0)
        rw [Flow.run_ofChecked, State.fst_send]
        cases tokensOf actual (state.outlook.outcome 0) <;> rfl
  rw [hrun]
  refine (Ends.of_refusals fun refusal hrefused => ?_).congr fun cause => halts_exchangeCode_iff
  have hkind : refusal.kind = .tokenExchange := by
    rcases bind_eq_error_iff.mp hrefused with hfirst | ⟨actual, -, hlast⟩
    · obtain ⟨fault, -, hfault⟩ := mapError_eq_error_iff.mp hfirst
      exact kind_of_tokenFailure hfault
    · exact kind_of_tokensOf hlast
  exact ⟨by simp [hkind], by rw [Refusal.status, hkind]; rfl⟩

theorem ends_userInfo_of_some (h : state.document = some document) (accessToken : Text) :
    Ends [.userInfo] (client.Halts document state (.userInfo accessToken))
      ((client.userInfo accessToken).run state).1 := by
  rw [userInfo, Flow.run_bind_of_ok (run_discover_of_some h)]
  have hmissing : Service.nonempty? document.userinfoEndpoint = none →
      Ends [.userInfo] (client.Halts document state (.userInfo accessToken))
        (.error (.refused .userInfoEndpointMissing) : Except Failure UserInfo) := by
    intro hnone
    refine .refused _ (by simp [Refusal.kind]) rfl fun cause hhalts => ?_
    cases hhalts with
    | user hendpoint => cases hnone.symm.trans hendpoint
  rcases hgiven : document.userinfoEndpoint with _ | (_ | ⟨c, rest⟩)
  · exact hmissing (by rw [hgiven]; rfl)
  · exact hmissing (by rw [hgiven]; rfl)
  · have hendpoint : Service.nonempty? document.userinfoEndpoint = some (c :: rest) := by
      rw [hgiven]
      rfl
    have hkind : ∀ fault, (Refusal.userInfo fault).kind = .userInfo := fun _ => rfl
    refine (Flow.ends_fetch (Http.goesTo_getRequest (c :: rest) _) hkind rfl state).congr
      fun cause => ?_
    constructor
    · rintro (_ | _ | _ | _ | ⟨hother, hobstructs⟩)
      cases hendpoint.symm.trans hother
      exact hobstructs
    · exact .user hendpoint

theorem ends_of_some (h : state.document = some document) (call : Call) :
    Ends call.kinds (client.Halts document state call) ((call.flow client).run state).1 := by
  cases call with
  | discover =>
      have hrun := Flow.run_map Reply.metadata client.discover state
      rw [run_discover_of_some h] at hrun
      rw [Call.flow, hrun]
      refine .replies _ fun fault hhalts => ?_
      cases hhalts
  | authorize =>
      have hrun := Flow.run_map Reply.authorization client.authorize state
      rw [Call.flow, hrun]
      exact ((ends_authorize_of_some h).map _).widen (by simp)
  | exchangeCode code =>
      have hrun := Flow.run_map Reply.tokens (client.exchangeCode code) state
      rw [Call.flow, hrun]
      exact ((ends_exchangeCode_of_some h code).map _).widen (by simp [Call.kinds])
  | userInfo accessToken =>
      have hrun := Flow.run_map Reply.user (client.userInfo accessToken) state
      rw [Call.flow, hrun]
      exact ((ends_userInfo_of_some h accessToken).map _).widen (by simp [Call.kinds])

/-! ## Every call -/

/-- What obstructs a call: a cause in asking for the document, where none is kept, or one that
comes up with the document. -/
inductive Obstructs (client : Client) (state : State) (call : Call) (cause : Interruption) : Prop
  | finding (hnone : state.document = none)
      (h : ObstructsFetch client.discoveryUrl client.discoveryRequest (state.outlook.outcome 0)
        cause)
  | found {document : Metadata} {asked : List Http.Request}
      (hfinds : client.Finds state.outlook document asked)
      (h : client.Halts document (state.afterRequests asked (some document)) call cause)

theorem ends_discover_of_none (h : state.document = none) :
    Ends [.discovery]
      (ObstructsFetch client.discoveryUrl client.discoveryRequest (state.outlook.outcome 0))
      (client.discover.run state).1 := by
  have hkind : ∀ fault, (Refusal.discovery fault).kind = .discovery := fun _ => rfl
  have hfetch : Ends [.discovery] _ ((Flow.fetch .discovery Metadata.model Metadata.ofJson
      client.discoveryRequest).run state).1 :=
    Flow.ends_fetch (Http.goesTo_getRequest client.discoveryUrl none) hkind rfl state
  rw [run_discover_eq_of_none h]
  rcases hrun : (Flow.fetch .discovery Metadata.model Metadata.ofJson
    client.discoveryRequest).run state with ⟨failure | document, next⟩
  · rw [hrun] at hfetch
    exact hfetch.error
  · rw [hrun] at hfetch
    by_cases hissuer : client.isIssuedBy document
    · simp only [if_pos hissuer]
      exact hfetch
    · simp only [if_neg hissuer]
      cases hfetch with
      | replies _ hclear => exact .refused _ (by simp [Refusal.kind]) rfl hclear

def portlessRegistration : Registration :=
  { sampleRegistration with issuerUrl := some "https://i:x" }

def interruption? : Except Failure Reply → Option Text
  | .error (.interrupted interruption) => some interruption.message
  | _ => none

end Client

end SignOn

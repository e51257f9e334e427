import SignOn.Proofs.Json.Equality
import SignOn.Proofs.Provider.Twin
import SignOn.Proofs.Service.Exchange
import SignOn.Proofs.Token.Compact
import SignOn.Proofs.Token.Listed

/-!
# Claims that do not matter

Two token answers that differ in the identity token only are what an exchange gets in two runs.
Up to the answer both runs are one; after it they are one again, unless the token is not accepted,
and then they fail alike.  So claims that are not looked at change nothing.
-/

namespace SignOn

open Record

/-! ## Up to the token answer -/

namespace State

def expecting (state : State) (early late : List Http.Outcome) (outcome : Http.Outcome) : State :=
  { state with outcomes := early ++ outcome :: late }

def outcomesBeforeTokens (state : State) : Nat := if state.document.isSome then 0 else 1

end State

def FailsBefore {α : Type} (late : List Http.Outcome)
    (ending : Http.Outcome → Except Failure α × State) : Prop :=
  ∃ (failure : Failure) (next : State) (rest : List Http.Outcome), ∀ outcome,
    ending outcome = (.error failure, next.expecting rest late outcome)

namespace Client

variable {client : Client} {code : Text} {state : State} {early late : List Http.Outcome}

theorem run_discover_expecting (client : Client)
    (h : early.length = state.outcomesBeforeTokens) :
    FailsBefore late (fun outcome => client.discover.run (state.expecting early late outcome)) ∨
      ∃ (document : Metadata) (next : State), ∀ outcome,
        client.discover.run (state.expecting early late outcome) =
          (.ok document, next.expecting [] late outcome) := by
  unfold State.outcomesBeforeTokens at h
  cases hkept : state.document with
  | some document =>
      rw [hkept] at h
      obtain rfl := List.length_eq_zero_iff.mp h
      exact .inr ⟨document, state, fun outcome => run_discover_of_some hkept⟩
  | none =>
      rw [hkept] at h
      obtain ⟨first, rfl⟩ := List.length_eq_one_iff.mp h
      have hrun : ∀ outcome, client.discover.run (state.expecting [first] late outcome) = _ :=
        fun outcome => run_discover_eq_of_none hkept
      simp only [FailsBefore, hrun]
      cases client.discoveryRequest with
      | error fault =>
          exact .inl ⟨(DocumentFault.sending fault).failure .discovery, state, [first],
            fun outcome => rfl⟩
      | ok request =>
          let next : State := { state with sent := state.sent ++ [request] }
          have hfetch : ∀ outcome, (Flow.fetch .discovery Metadata.model Metadata.ofJson
              (.ok request)).run (state.expecting [first] late outcome) =
                ((documentOf Metadata.model Metadata.ofJson request first).mapError
                  (DocumentFault.failure .discovery), next.expecting [] late outcome) :=
            fun outcome => Flow.run_ofChecked _ _ _
          simp only [hfetch]
          cases documentOf Metadata.model Metadata.ofJson request first with
          | error fault =>
              exact .inl ⟨fault.failure .discovery, next, [], fun outcome => rfl⟩
          | ok document =>
              by_cases hissuer : client.isIssuedBy document
              · exact .inr ⟨document, { next with document := some document },
                  fun outcome => if_pos hissuer⟩
              · exact .inl ⟨_, next, [], fun outcome => if_neg hissuer⟩

theorem run_exchangeCode_expecting (client : Client) (code : Text)
    (h : early.length = state.outcomesBeforeTokens) :
    FailsBefore late (fun outcome =>
        (client.exchangeCode code).run (state.expecting early late outcome)) ∨
      ∃ (request : Http.Request) (next : State), ∀ outcome,
        (client.exchangeCode code).run (state.expecting early late outcome) =
          (tokensOf request outcome, next) := by
  rcases run_discover_expecting client h with
    ⟨failure, next, rest, hrun⟩ | ⟨document, next, hrun⟩
  · exact .inl ⟨failure, next, rest, fun outcome => Flow.run_bind_of_error (hrun outcome)⟩
  · have hdiscovered : ∀ outcome,
        (client.exchangeCode code).run (state.expecting early late outcome) = _ :=
      fun outcome => Flow.run_bind_of_ok (hrun outcome)
    simp only [FailsBefore, hdiscovered]
    cases client.tokenRequest document code with
    | error fault => exact .inl ⟨tokenFailure fault, next, [], fun outcome => rfl⟩
    | ok request =>
        refine .inr ⟨request, { next with sent := next.sent ++ [request], outcomes := late },
          fun outcome => ?_⟩
        refine (Flow.run_ofChecked id (tokensOf request outcome) _).trans ?_
        cases tokensOf request outcome <;> rfl

end Client

/-! ## The token answer -/

/-- Answers of one status with one set of headers, read as objects that state these identity tokens
and that have the same value under every other name. -/
structure Http.Answer.SameBut (token other : Text) (answer more : Http.Answer) : Prop where
  status : answer.status = more.status
  headers : answer.headers = more.headers
  body : ∃ fields others,
    Json.readBytes answer.body = .ok (.obj fields) ∧
    Json.readBytes more.body = .ok (.obj others) ∧
    Json.Fields.get? fields "id_token" = some (.str token) ∧
    Json.Fields.get? others "id_token" = some (.str other) ∧
    ∀ name ≠ Text.ofString "id_token", Json.Fields.get? fields name = Json.Fields.get? others name

def TokenAnswer.SameBut (token other : Text) (tokens more : TokenAnswer) : Prop :=
  tokens.idToken = some token ∧ more = { tokens with idToken := some other }

section Answers

variable {token other : Text} {fields others : Json.Fields} {answer more : Http.Answer}

theorem sameBut_ofFields (htoken : fields.get? "id_token" = some (.str token))
    (hother : others.get? "id_token" = some (.str other))
    (hrest : ∀ name ≠ Text.ofString "id_token", fields.get? name = others.get? name) :
    ReadingsAlike (TokenAnswer.SameBut token other) (TokenAnswer.ofFields fields)
      (TokenAnswer.ofFields others) := by
  have hknown : ∀ name ∈ (["access_token", "token_type", "expires_in"] : List Text),
      name ≠ Text.ofString "id_token" := by decide
  have hrefresh := alike_optional (hrest "refresh_token" (by decide)) string
  have hidentity : ReadingsAlike (fun given found => given = some token ∧ found = some other)
      (optional fields "id_token" string) (optional others "id_token" string) := by
    simp only [Record.optional, withDefault, htoken, hother]
    exact .ok ⟨rfl, rfl⟩
  refine (alike_tokenFields (fun name hname => hrest name (hknown name hname)) hrefresh
    hidentity).mono fun tokens more hsame => ?_
  obtain ⟨hsameRefresh, ⟨hgiven, hfound⟩, hmore⟩ := hsame
  exact ⟨hgiven, by rw [hmore, hfound, ← hsameRefresh]⟩

theorem sameBut_readDocument (h : answer.SameBut token other more) :
    ResultsAlike DocumentFault.Alike (TokenAnswer.SameBut token other)
      (readDocument TokenAnswer.model TokenAnswer.ofJson answer)
      (readDocument TokenAnswer.model TokenAnswer.ofJson more) := by
  obtain ⟨fields, others, hfields, hothers, htoken, hother, hrest⟩ := h.body
  rw [readDocument, readDocument, hfields, hothers]
  exact (sameBut_ofFields htoken hother hrest).mapError fun issues echoed hissues =>
    congrArg (DocumentFault.invalid TokenAnswer.model) hissues

theorem sameBut_tokensOf (request : Http.Request) (h : answer.SameBut token other more)
    (hlogged : answer.LoggedAlike more) :
    ResultsAlike Failure.Alike (TokenAnswer.SameBut token other)
      (Client.tokensOf request (.answered answer)) (Client.tokensOf request (.answered more)) :=
  alike_tokensOf_answered request h.status h.headers hlogged (sameBut_readDocument h)

end Answers

namespace Service

variable {client : Client} {code token other : Text} {state next : State}
  {fields others : Json.Fields} {early late : List Http.Outcome}

/-- Endings that are alike, in states that differ at most in the outcomes that are left. -/
structure EndsAlike {α : Type} (ending more : Except Failure α × State) : Prop where
  result : ResultsAlike Failure.Alike Eq ending.1 more.1
  state : ∃ outcomes, more.2 = { ending.2 with outcomes }

theorem EndsAlike.refl {α : Type} (ending : Except Failure α × State) : EndsAlike ending ending :=
  ⟨.refl Failure.Alike.refl Eq.refl _, _, rfl⟩

theorem EndsAlike.bind {α β : Type} {flow twin : Flow α} {f : α → Flow β} {state other : State}
    (h : EndsAlike (flow.run state) (twin.run other))
    (hnext : ∀ a next outcomes, EndsAlike ((f a).run next) ((f a).run { next with outcomes })) :
    EndsAlike ((flow >>= f).run state) ((twin >>= f).run other) := by
  simp only [Flow.run_bind]
  generalize flow.run state = ending at h
  generalize twin.run other = more at h
  obtain ⟨result, next⟩ := ending
  obtain ⟨resultMore, last⟩ := more
  obtain ⟨hresult, outcomes, hstate⟩ := h
  obtain rfl : last = { next with outcomes } := hstate
  cases hresult with
  | ok heq =>
      subst heq
      exact hnext _ next outcomes
  | error hfailure => exact ⟨.error hfailure, outcomes, rfl⟩

/-! ## After the token answer -/

def identifyFrom (client : Client) (tokens : TokenAnswer) : Flow Identity :=
  match nonempty? tokens.idToken with
  | none => Flow.refuse .identityTokenMissing
  | some token => do
      let claims ← checkToken token
      let email ← emailOf client claims tokens.accessToken
      return ⟨claims.nonce, tokens.refreshToken.getD [], email⟩

theorem nonempty?_of_ne_nil {t : Text} (h : t ≠ []) : nonempty? (some t) = some t := by
  cases t with
  | nil => contradiction
  | cons c rest => rfl

theorem endsAlike_identifyFrom (htoken : Token.Holds token fields)
    (hother : Token.Holds other others) (hagree : Token.Agree fields others)
    {tokens more : TokenAnswer} (h : tokens.SameBut token other more) :
    EndsAlike ((identifyFrom client tokens).run next) ((identifyFrom client more).run next) := by
  obtain ⟨hidentity, rfl⟩ := h
  have hparse := Token.alike_parse htoken hother hagree leeway next.wall
  simp only [identifyFrom, hidentity, nonempty?_of_ne_nil (Token.ne_nil_of_holds htoken),
    nonempty?_of_ne_nil (Token.ne_nil_of_holds hother), Flow.run_bind, run_checkToken]
  generalize Token.parse leeway next.wall token = parsed at hparse
  generalize Token.parse leeway next.wall other = parsedOther at hparse
  cases hparse with
  | ok heq =>
      subst heq
      exact .refl _
  | error hfailure => exact ⟨.error hfailure, _, rfl⟩

theorem endsAlike_identify (client : Client) (code : Text) (htoken : Token.Holds token fields)
    (hother : Token.Holds other others) (hagree : Token.Agree fields others)
    (hearly : early.length = state.outcomesBeforeTokens) {answer more : Http.Answer}
    (h : answer.SameBut token other more) (hlogged : answer.LoggedAlike more) :
    EndsAlike ((identify client code).run (state.expecting early late (.answered answer)))
      ((identify client code).run (state.expecting early late (.answered more))) := by
  have hsplit : identify client code = client.exchangeCode code >>= identifyFrom client := rfl
  rw [hsplit]
  rcases Client.run_exchangeCode_expecting client code hearly with
    ⟨failure, next, rest, hrun⟩ | ⟨request, next, hrun⟩
  · rw [Flow.run_bind_of_error (hrun _), Flow.run_bind_of_error (hrun _)]
    exact ⟨.error (.refl _), _, rfl⟩
  · have htokens := sameBut_tokensOf request h hlogged
    simp only [Flow.run_bind, hrun]
    generalize Client.tokensOf request (.answered answer) = tokens at htokens
    generalize Client.tokensOf request (.answered more) = others at htokens
    cases htokens with
    | ok hsame => exact endsAlike_identifyFrom htoken hother hagree hsame
    | error hfailure => exact ⟨.error hfailure, _, rfl⟩

theorem endsAlike_store (code : Text) (identity : Identity) (next : State)
    (outcomes : List Http.Outcome) :
    let keep : Flow Text := do
      if ← Flow.store code identity then return identity.email
      else Flow.interrupt .cacheFull
    EndsAlike (keep.run next) (keep.run { next with outcomes }) := by
  simp only [Flow.run_bind, Flow.run_store]
  cases (next.cache.put next.clock code identity).1 with
  | true => exact ⟨.ok rfl, outcomes, rfl⟩
  | false => exact ⟨.error (.refl _), outcomes, rfl⟩

theorem endsAlike_exchange (client : Client) (code : Text) (htoken : Token.Holds token fields)
    (hother : Token.Holds other others) (hagree : Token.Agree fields others)
    (hearly : early.length = state.outcomesBeforeTokens) {answer more : Http.Answer}
    (h : answer.SameBut token other more) (hlogged : answer.LoggedAlike more) :
    EndsAlike ((exchange client code).run (state.expecting early late (.answered answer)))
      ((exchange client code).run (state.expecting early late (.answered more))) := by
  by_cases hphase : state.phase code = .redeemed
  · have hrun : ∀ outcome, (exchange client code).run (state.expecting early late outcome) = _ :=
      fun outcome => run_exchange_redeemed hphase
    rw [hrun, hrun]
    exact ⟨.error (.refl _), _, rfl⟩
  · have hrun : ∀ outcome, (exchange client code).run (state.expecting early late outcome) = _ :=
      fun outcome => run_exchange_unredeemed hphase
    -- Neither what is looked up nor the state after it depends on outcomes.
    have hfound : ∀ outcome, (state.expecting early late outcome).timed.identity? code =
        state.timed.identity? code := fun outcome => rfl
    rw [hrun, hrun, hfound, hfound]
    cases (state.timed.identity? code).map (·.value) with
    | some identity => exact ⟨.ok rfl, _, rfl⟩
    | none =>
        have hasked : early.length = (state.lookUp code).2.outcomesBeforeTokens := hearly
        exact (endsAlike_identify client code htoken hother hagree hasked h hlogged).bind
          (endsAlike_store code)

/-- Claims that are not looked at decide nothing: neither what a token is accepted as or why it is
not, nor what comes of an exchange that gets it, what is asked meanwhile and what is kept. -/
theorem unlisted_claims_do_not_matter (htoken : Token.Holds token fields)
    (hother : Token.Holds other others) (hagree : Token.Agree fields others) :
    (∀ leeway now, ResultsAlike Token.Failure.Alike Eq (Token.parse leeway now token)
      (Token.parse leeway now other)) ∧
    ∀ (client : Client) (code : Text) (state : State) (early late : List Http.Outcome)
      (answer more : Http.Answer), early.length = state.outcomesBeforeTokens →
      answer.SameBut token other more → answer.LoggedAlike more →
      EndsAlike ((exchange client code).run (state.expecting early late (.answered answer)))
        ((exchange client code).run (state.expecting early late (.answered more))) :=
  ⟨Token.alike_parse htoken hother hagree, fun client code _ _ _ _ _ hearly h hlogged =>
    endsAlike_exchange client code htoken hother hagree hearly h hlogged⟩

def listedFields : Json.Fields := [("exp", .int 99), ("nonce", .str "n"), ("email", .str "e")]

def listedSegments : Token.Segments where
  header := Utf8.encode (Json.write (.obj [("alg", .str "a")]))
  payload := Utf8.encode (Json.write (.obj listedFields))
  signature := []

def issuedFields : Json.Fields :=
  [("iss", .str "x"), ("nonce", .str "n"), ("email", .str "e"), ("exp", .int 99)]

def issuedSegments : Token.Segments where
  header := Utf8.encode (Json.write (.obj [("kid", .int 1), ("alg", .str "b")]))
  payload := Utf8.encode (Json.write (.obj issuedFields))
  signature := [1]

def tokenOf (segments : Token.Segments) : Text := Token.compactText (false, false, false) segments

theorem namesAlgorithm_listed : Token.NamesAlgorithm listedSegments.header := by
  have hheader : (Json.readUtf8 listedSegments.header).toOption =
      some (.obj [("alg", .str "a")]) := by decide +kernel
  exact ⟨_, eq_ok_of_toOption hheader, by decide⟩

theorem readUtf8_listed : Json.readUtf8 listedSegments.payload = .ok (.obj listedFields) :=
  eq_ok_of_toOption (by decide +kernel)

theorem holds_listed : Token.Holds (tokenOf listedSegments) listedFields :=
  Token.holds_compactText _ namesAlgorithm_listed readUtf8_listed

theorem holds_issued : Token.Holds (tokenOf issuedSegments) issuedFields := by
  have hheader : (Json.readUtf8 issuedSegments.header).toOption =
      some (.obj [("kid", .int 1), ("alg", .str "b")]) := by decide +kernel
  have hpayload : (Json.readUtf8 issuedSegments.payload).toOption = some (.obj issuedFields) := by
    decide +kernel
  exact Token.holds_compactText _ ⟨_, eq_ok_of_toOption hheader, by decide⟩
    (eq_ok_of_toOption hpayload)

def sampleAnswer (segments : Token.Segments) : Http.Answer where
  status := 200
  headers := []
  body := Utf8.encode (textsDocument [("access_token", "a"), ("id_token", tokenOf segments)])

theorem sameBut_sampleAnswer : (sampleAnswer listedSegments).SameBut (tokenOf listedSegments)
    (tokenOf issuedSegments) (sampleAnswer issuedSegments) := by
  have hbody : ∀ segments ∈ [listedSegments, issuedSegments],
      (Json.readBytes (sampleAnswer segments).body).toOption = some (.obj
        [("access_token", .str "a"), ("id_token", .str (tokenOf segments))]) := by decide +kernel
  have hget : ∀ token : Text,
      Json.Fields.get? [("access_token", .str "a"), ("id_token", .str token)] "id_token" =
        some (.str token) := fun token => rfl
  have hlisted := eq_ok_of_toOption (hbody listedSegments (by simp))
  have hissued := eq_ok_of_toOption (hbody issuedSegments (by simp))
  refine ⟨Eq.refl 200, Eq.refl [], _, _, hlisted, hissued, hget _, hget _, fun name hname => ?_⟩
  simp [Json.Fields.get?, List.find?_cons, Ne.symm hname]

def unaskedState : State := ⟨[], [], .ofList [], 0, 0, none, .empty 1 10, .empty⟩

def metadataOutcome : Http.Outcome := .answered ⟨200, [], Utf8.encode sampleMetadata⟩

def sampleEnding (segments : Token.Segments) : Except Failure Text × State :=
  (exchange sampleClient sampleCode).run
    (unaskedState.expecting [metadataOutcome] [] (.answered (sampleAnswer segments)))

theorem unlisted_claims_do_not_matter_in_sample :
    EndsAlike (sampleEnding listedSegments) (sampleEnding issuedSegments) ∧
      (sampleEnding listedSegments).1.toOption = some (Text.ofString "e") := by
  obtain ⟨-, hexchange⟩ := unlisted_claims_do_not_matter holds_listed holds_issued (by decide)
  have hends := hexchange sampleClient sampleCode unaskedState [metadataOutcome] [] _ _ rfl
    sameBut_sampleAnswer (.inl rfl)
  exact ⟨hends, by decide +kernel⟩

/-- The listed token with two letters in its signature that no digit stands for. -/
def accentedToken : Text := tokenOf listedSegments ++ "\u00e9\u00e9"

theorem holds_accented : Token.Holds accentedToken listedFields := by
  have hsegments : Token.segments? (Utf8.encode accentedToken) =
      some ⟨Base64.encode .urlSafe false listedSegments.header,
        Base64.encode .urlSafe false listedSegments.payload, Utf8.encode "\u00e9\u00e9"⟩ := by
    decide +kernel
  have hsignature : (Base64.decodeSegment? (Utf8.encode "\u00e9\u00e9")).isSome := by decide +kernel
  have hunpack := Token.unpack_segments (false, false, false) namesAlgorithm_listed
  exact .mk (Utf8.encodeStrict_of_isScalar (by decide +kernel)) hsegments
    { hunpack with signature := hsignature } readUtf8_listed

theorem sameBut_loggedAnswer : (loggedAnswer "id_token" (tokenOf listedSegments)).SameBut
    (tokenOf listedSegments) accentedToken (loggedAnswer "id_token" accentedToken) := by
  have hbody : ∀ token ∈ [tokenOf listedSegments, accentedToken],
      readTexts? (loggedAnswer "id_token" token).body =
        some [(Text.ofString "id_token", token)] := by decide +kernel
  refine ⟨rfl, rfl, _, _, readBytes_of_texts (hbody _ (by simp)),
    readBytes_of_texts (hbody _ (by simp)), rfl, rfl, fun name hname => ?_⟩
  simp [ofTexts, Json.Fields.get?, Ne.symm hname]

theorem EndsAlike.status? {ending more : Except Failure Text × State} (h : EndsAlike ending more) :
    (Result.ofRun ending.1).status? = (Result.ofRun more.1).status? := by
  obtain ⟨result, next⟩ := ending
  obtain ⟨other, last⟩ := more
  cases h.result with
  | ok heq => rw [heq]
  | error hfailure =>
      simp only [Result.ofRun, Result.status?_failed, hfailure.kind]

/-- An exchange can tell the spellings of one token apart if the log is to take the answer. -/
theorem spelling_matters_to_log :
    let ending (token : Text) := (exchange sampleClient sampleCode).run
      (unaskedState.expecting [metadataOutcome] [] (.answered (loggedAnswer "id_token" token)))
    Token.Holds (tokenOf listedSegments) listedFields ∧ Token.Holds accentedToken listedFields ∧
      (loggedAnswer "id_token" (tokenOf listedSegments)).SameBut (tokenOf listedSegments)
        accentedToken (loggedAnswer "id_token" accentedToken) ∧
      ¬EndsAlike (ending (tokenOf listedSegments)) (ending accentedToken) := by
  refine ⟨holds_listed, holds_accented, sameBut_loggedAnswer, fun h => ?_⟩
  exact absurd h.status? (by decide +kernel)

end Service

end SignOn

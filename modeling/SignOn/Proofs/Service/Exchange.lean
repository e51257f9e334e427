import SignOn.Proofs.Cache.Steps
import SignOn.Proofs.Provider.Answers
import SignOn.Proofs.Service.Alone

/-!
# How an exchange ends

A code that is redeemed is refused and one that is exchanged is answered from the cache.  For any
other code the provider is asked: `MayAsk` says what for and in which order, and `Identifies` when
the answers make an identity.  `Exchanges` lists all the ways in which an exchange can end.
-/

namespace SignOn

def State.timed (state : State) : Cache.Timed := ⟨state.clock, state.cache⟩

def State.put (state : State) (code : Text) (identity : Identity) : State :=
  { state with cache := (state.cache.put state.clock code identity).2 }

theorem State.fst_lookUp (state : State) (code : Text) :
    (state.lookUp code).1 = (state.timed.identity? code).map (·.value) := by
  rw [Cache.Timed.identity?, Cache.Shelf.live?_eq_find?, ← Cache.Shelf.read_fst]
  rfl

namespace Service

variable {client : Client} {code : Text} {state next : State} {document : Metadata}

/-! ## What makes an identity -/

structure Certifies (client : Client) (code : Text) (outlook : Outlook) (document : Metadata)
    (tokens : TokenAnswer) (claims : IdentityClaims) (asked : List Http.Request) : Prop where
  trades : client.Trades code outlook document tokens asked
  accepted : ∃ token, nonempty? tokens.idToken = some token ∧
    Token.parse leeway outlook.wall token = .ok claims

/-- The email that an identity token states, or else the one that is stated for an access token
when it is asked for after so many other requests. -/
inductive StatesEmail (document : Metadata) (claims : IdentityClaims) (accessToken : Text)
    (outlook : Outlook) (n : Nat) : Text → List Http.Request → Prop
  | token {email : Text} (h : nonempty? claims.email = some email) :
      StatesEmail document claims accessToken outlook n email []
  | user {email endpoint : Text} {request : Http.Request} {user : UserInfo}
      (hnone : nonempty? claims.email = none)
      (hendpoint : nonempty? document.userinfoEndpoint = some endpoint)
      (hrequest : Client.userInfoRequest endpoint accessToken = .ok request)
      (hbrings : Brings (Http.isSuccess ·) UserInfo.model UserInfo.ofJson request
        (outlook.outcome n) user)
      (hemail : nonempty? user.email = some email) :
      StatesEmail document claims accessToken outlook n email [request]

/-- The identity that a code stands for at the provider, with the document that is gone by and all
that is asked. -/
inductive Identifies (client : Client) (code : Text) (outlook : Outlook) :
    Identity → Metadata → List Http.Request → Prop
  | mk {document : Metadata} {tokens : TokenAnswer} {claims : IdentityClaims} {email : Text}
      {asked more : List Http.Request}
      (hcertifies : Certifies client code outlook document tokens claims asked)
      (hemail : StatesEmail document claims tokens.accessToken outlook asked.length email more) :
      Identifies client code outlook ⟨claims.nonce, tokens.refreshToken.getD [], email⟩ document
        (asked ++ more)

/-- The access token is shown to the user info endpoint, unless the endpoint's URL has credentials,
which are shown in its place. -/
def Shows (accessToken : Text) (request : Http.Request) : Prop :=
  request.authorization = match request.url.credentials? with
    | some (name, password) => some (Http.basic name password)
    | none => some (Http.bearer accessToken)

/-- What can be asked for an identity, whether or not one is made: a document, if none is kept,
tokens, and the claims of the user, if the identity token has no email. -/
inductive MayAsk (client : Client) (code : Text) (outlook : Outlook) : List Http.Request → Prop
  | nothing : MayAsk client code outlook []
  | document {request : Http.Request} (hnone : outlook.document = none)
      (hrequest : client.discoveryRequest = .ok request) (hget : request.method = .get) :
      MayAsk client code outlook [request]
  | tokens {document : Metadata} {asked : List Http.Request} {request : Http.Request}
      (hfinds : client.Finds outlook document asked)
      (hrequest : client.tokenRequest document code = .ok request)
      (hpost : request.method = .post) (hcode : request.code? = some code) :
      MayAsk client code outlook (asked ++ [request])
  | user {document : Metadata} {tokens : TokenAnswer} {claims : IdentityClaims} {endpoint : Text}
      {asked : List Http.Request} {request : Http.Request}
      (hcertifies : Certifies client code outlook document tokens claims asked)
      (hnone : nonempty? claims.email = none)
      (hendpoint : nonempty? document.userinfoEndpoint = some endpoint)
      (hrequest : Client.userInfoRequest endpoint tokens.accessToken = .ok request)
      (hget : request.method = .get) (hshows : Shows tokens.accessToken request) :
      MayAsk client code outlook (asked ++ [request])

section Asking

variable {outlook : Outlook} {asked : List Http.Request} {request : Http.Request}

theorem mayAsk_document (hnone : outlook.document = none)
    (hrequest : client.discoveryRequest = .ok request) : MayAsk client code outlook [request] :=
  .document hnone hrequest (Http.method_getRequest hrequest)

theorem mayAsk_tokens (hfinds : client.Finds outlook document asked)
    (hrequest : client.tokenRequest document code = .ok request) :
    MayAsk client code outlook (asked ++ [request]) :=
  .tokens hfinds hrequest (Client.method_tokenRequest hrequest) (Client.code?_tokenRequest hrequest)

theorem mayAsk_user {tokens : TokenAnswer} {claims : IdentityClaims} {endpoint : Text}
    (hcertifies : Certifies client code outlook document tokens claims asked)
    (hnone : nonempty? claims.email = none)
    (hendpoint : nonempty? document.userinfoEndpoint = some endpoint)
    (hrequest : Client.userInfoRequest endpoint tokens.accessToken = .ok request) :
    MayAsk client code outlook (asked ++ [request]) := by
  obtain ⟨hget, -, hshows⟩ := Client.of_userInfoRequest hrequest
  exact .user hcertifies hnone hendpoint hrequest hget hshows

theorem mayAsk_of_finds (h : client.Finds outlook document asked) :
    MayAsk client code outlook asked := by
  cases h with
  | kept hkept => exact .nothing
  | asked hnone hrequest => exact mayAsk_document hnone hrequest

theorem mayAsk_of_trades {tokens : TokenAnswer}
    (h : client.Trades code outlook document tokens asked) : MayAsk client code outlook asked := by
  cases h with
  | mk hfinds hrequest => exact mayAsk_tokens hfinds hrequest

theorem Identifies.mayAsk {identity : Identity}
    (h : Identifies client code outlook identity document asked) :
    MayAsk client code outlook asked := by
  obtain ⟨hcertifies, hemail⟩ := h
  cases hemail with
  | token =>
      rw [List.append_nil]
      exact mayAsk_of_trades hcertifies.trades
  | user hnone hendpoint hrequest => exact mayAsk_user hcertifies hnone hendpoint hrequest

end Asking

/-! ## Identification -/

theorem run_checkToken (token : Text) (state : State) :
    (checkToken token).run state =
      ((Token.parse leeway state.wall token).mapError Failure.ofToken, state) :=
  Flow.run_ofChecked _ _ _

theorem run_checkToken_eq_ok_iff {token : Text} {claims : IdentityClaims} :
    (checkToken token).run state = (.ok claims, next) ↔
      Token.parse leeway state.wall token = .ok claims ∧ next = state :=
  Flow.run_ofChecked_eq_ok_iff

theorem run_emailOf_eq_ok_iff (hkept : state.document = some document) {claims : IdentityClaims}
    {accessToken email : Text} :
    (emailOf client claims accessToken).run state = (.ok email, next) ↔
      ∃ more, StatesEmail document claims accessToken state.outlook 0 email more ∧
        next = state.afterRequests more (some document) := by
  have hsame : state.afterRequests [] (some document) = state := by
    rw [← hkept, State.afterRequests_nil]
  unfold emailOf
  cases hstated : nonempty? claims.email with
  | some stated =>
      constructor
      · rintro ⟨⟩
        exact ⟨[], .token hstated, hsame.symm⟩
      · rintro ⟨more, h | ⟨hnone⟩, rfl⟩
        · obtain rfl := Option.some.inj (hstated.symm.trans h)
          rw [hsame]
          rfl
        · exact nomatch hstated.symm.trans hnone
  | none =>
      simp only [Flow.run_bind_eq_ok_iff, Client.run_userInfo_eq_ok_iff hkept]
      constructor
      · rintro ⟨user, _, ⟨endpoint, request, hendpoint, hrequest, hbrings, rfl⟩, hend⟩
        cases hemail : nonempty? user.email with
        | none =>
            rw [hemail] at hend
            nomatch congrArg Prod.fst hend
        | some found =>
            rw [hemail] at hend
            cases hend
            refine ⟨[request], .user hstated hendpoint hrequest hbrings hemail, ?_⟩
            rw [State.asked_eq_afterRequests, hkept]
            rfl
      · rintro ⟨more, h | ⟨-, hendpoint, hrequest, hbrings, hemail⟩, rfl⟩
        · exact nomatch hstated.symm.trans h
        · refine ⟨_, _, ⟨_, _, hendpoint, hrequest, hbrings, rfl⟩, ?_⟩
          rw [hemail, State.asked_eq_afterRequests, hkept]
          rfl

theorem statesEmail_afterRequests_iff {asked more : List Http.Request} {kept : Option Metadata}
    {claims : IdentityClaims} {accessToken email : Text} :
    StatesEmail document claims accessToken (state.afterRequests asked kept).outlook 0 email more ↔
      StatesEmail document claims accessToken state.outlook asked.length email more := by
  have houtcome := state.outcome_afterRequests asked kept 0
  constructor
  · rintro (h | ⟨hnone, hendpoint, hrequest, hbrings, hemail⟩)
    · exact .token h
    · exact .user hnone hendpoint hrequest (houtcome ▸ hbrings) hemail
  · rintro (h | ⟨hnone, hendpoint, hrequest, hbrings, hemail⟩)
    · exact .token h
    · exact .user hnone hendpoint hrequest (houtcome.symm ▸ hbrings) hemail

theorem run_identify_eq_ok_iff {identity : Identity} :
    (identify client code).run state = (.ok identity, next) ↔
      ∃ document asked, Identifies client code state.outlook identity document asked ∧
        next = state.afterRequests asked (some document) := by
  rw [identify, Flow.run_bind_eq_ok_iff]
  constructor
  · rintro ⟨tokens, _, htokens, hrest⟩
    obtain ⟨document, asked, htrades, rfl⟩ := Client.run_exchangeCode_eq_ok_iff.mp htokens
    cases htoken : nonempty? tokens.idToken with
    | none =>
        rw [htoken] at hrest
        nomatch congrArg Prod.fst hrest
    | some token =>
        simp only [htoken, Flow.run_bind_eq_ok_iff, run_checkToken_eq_ok_iff] at hrest
        obtain ⟨claims, _, ⟨hparse, rfl⟩, email, _, hrun, ⟨⟩⟩ := hrest
        obtain ⟨more, hemail, rfl⟩ := (run_emailOf_eq_ok_iff rfl).mp hrun
        exact ⟨document, asked ++ more,
          .mk ⟨htrades, token, htoken, hparse⟩ (statesEmail_afterRequests_iff.mp hemail),
          State.afterRequests_append ..⟩
  · rintro ⟨document, _, ⟨⟨htrades, token, htoken, hparse⟩, hemail⟩, rfl⟩
    refine ⟨_, _, Client.run_exchangeCode_eq_ok_iff.mpr ⟨document, _, htrades, rfl⟩, ?_⟩
    simp only [htoken, Flow.run_bind_eq_ok_iff, run_checkToken_eq_ok_iff]
    refine ⟨_, _, ⟨hparse, rfl⟩, _, _, (run_emailOf_eq_ok_iff rfl).mpr
      ⟨_, statesEmail_afterRequests_iff.mpr hemail, rfl⟩, ?_⟩
    rw [State.afterRequests_append]
    rfl

/-! ## What is asked -/

theorem snd_run_emailOf (hkept : state.document = some document) (claims : IdentityClaims)
    (accessToken : Text) :
    ((emailOf client claims accessToken).run state).2 =
      match nonempty? claims.email with
      | some _ => state
      | none => state.asked ((Client.Call.userInfo accessToken).request? client document) := by
  unfold emailOf
  cases nonempty? claims.email with
  | some stated => rfl
  | none =>
      have hasked : ((client.userInfo accessToken).run state).2 = _ :=
        Client.snd_run_userInfo_of_some hkept accessToken
      simp only [Flow.run_bind]
      rcases hrun : (client.userInfo accessToken).run state with ⟨failure | user, next⟩
      · rwa [hrun] at hasked
      · rw [hrun] at hasked
        rw [← hasked]
        cases hemail : nonempty? user.email <;> simp only [hemail] <;> rfl

def OnlyAsks {α : Type} (client : Client) (code : Text) (before : State)
    (ending : Except Failure α × State) : Prop :=
  ∃ asked kept, MayAsk client code before.outlook asked ∧
    ending.2 = before.afterRequests asked kept

theorem onlyAsks_discover (client : Client) (code : Text) (state : State) :
    OnlyAsks client code state (client.discover.run state) := by
  cases hkept : state.document with
  | some document =>
      refine ⟨[], state.document, .nothing, ?_⟩
      rw [Client.run_discover_of_some hkept, State.afterRequests_nil]
  | none =>
      have hmay : MayAsk client code state.outlook client.discoveryRequest.toOption.toList := by
        cases hrequest : client.discoveryRequest with
        | error fault => exact .nothing
        | ok request => exact mayAsk_document hkept hrequest
      rcases client.run_discover_of_none hkept with
        ⟨failure, -, hrun⟩ | ⟨document, -, hrun⟩
      · exact ⟨_, state.document, hmay, by rw [hrun]; rfl⟩
      · exact ⟨_, some document, hmay, by rw [hrun]; rfl⟩

theorem onlyAsks_exchangeCode (client : Client) (code : Text) (state : State) :
    OnlyAsks client code state ((client.exchangeCode code).run state) := by
  rcases hdiscover : client.discover.run state with ⟨failure | document, next⟩
  · have hasks := onlyAsks_discover client code state
    rw [hdiscover] at hasks
    rw [Client.exchangeCode, Flow.run_bind_of_error hdiscover]
    exact hasks
  · obtain ⟨asked, hfinds, rfl⟩ := Client.run_discover_eq_ok_iff.mp hdiscover
    have hsame : (client.exchangeCode code).run state =
        (client.exchangeCode code).run (state.afterRequests asked (some document)) :=
      Client.run_discover_bind_of_finds hfinds _
    refine ⟨asked ++ (client.tokenRequest document code).toOption.toList, some document, ?_, ?_⟩
    · cases hrequest : client.tokenRequest document code with
      | error fault =>
          rw [show (Except.error fault : Except Http.Fault Http.Request).toOption.toList = []
            from rfl, List.append_nil]
          exact mayAsk_of_finds hfinds
      | ok request => exact mayAsk_tokens hfinds hrequest
    · rw [hsame, Client.snd_run_exchangeCode_of_some rfl, State.asked_eq_afterRequests,
        State.afterRequests_append]
      rfl

theorem mayAsk_request? {outlook : Outlook} {tokens : TokenAnswer} {claims : IdentityClaims}
    {asked : List Http.Request}
    (hcertifies : Certifies client code outlook document tokens claims asked)
    (hnone : nonempty? claims.email = none) :
    MayAsk client code outlook
      (asked ++ ((Client.Call.userInfo tokens.accessToken).request? client document).toList) := by
  have hasked : MayAsk client code outlook (asked ++ (none : Option Http.Request).toList) := by
    rw [Option.toList_none, List.append_nil]
    exact mayAsk_of_trades hcertifies.trades
  unfold Client.Call.request?
  rcases hendpoint : document.userinfoEndpoint with _ | (_ | ⟨c, rest⟩)
  · exact hasked
  · exact hasked
  · simp only
    cases hrequest : Client.userInfoRequest (c :: rest) tokens.accessToken with
    | error fault => exact hasked
    | ok request => exact mayAsk_user hcertifies hnone (by rw [hendpoint]; rfl) hrequest

theorem onlyAsks_identify (client : Client) (code : Text) (state : State) :
    OnlyAsks client code state ((identify client code).run state) := by
  refine Flow.run_bind_of (fun tokens next hrun => ?_) fun failure next hrun => ?_
  · obtain ⟨document, asked, htrades, rfl⟩ := Client.run_exchangeCode_eq_ok_iff.mp hrun
    cases htoken : nonempty? tokens.idToken with
    | none => exact ⟨asked, some document, mayAsk_of_trades htrades, rfl⟩
    | some token =>
        refine Flow.run_bind_of (fun claims next hrun => ?_) fun failure next hrun => ?_
        · obtain ⟨hparse, rfl⟩ := run_checkToken_eq_ok_iff.mp hrun
          rw [Flow.run_map, OnlyAsks, snd_run_emailOf rfl]
          cases hstated : nonempty? claims.email with
          | some stated => exact ⟨asked, some document, mayAsk_of_trades htrades, rfl⟩
          | none =>
              refine ⟨_, some document,
                mayAsk_request? ⟨htrades, token, htoken, hparse⟩ hstated, ?_⟩
              rw [State.asked_eq_afterRequests, State.afterRequests_append]
              rfl
        · rw [run_checkToken] at hrun
          exact ⟨asked, some document, mayAsk_of_trades htrades, (congrArg Prod.snd hrun).symm⟩
  · have hasks := onlyAsks_exchangeCode client code state
    rwa [hrun] at hasks

/-! ## The whole exchange -/

inductive Exchanges (client : Client) (code : Text) (state : State) :
    Except Failure Text × State → Prop
  | redeemed (hphase : state.phase code = .redeemed) :
      Exchanges client code state (.error (.refused .codeRedeemed), state)
  | found {entry : Cache.Entry Identity} (hphase : state.phase code = .exchanged)
      (hentry : state.timed.identity? code = some entry) :
      Exchanges client code state (.ok entry.value.email, (state.lookUp code).2)
  | unidentified {failure : Failure} {asked : List Http.Request} {kept : Option Metadata}
      (hphase : state.phase code = .initiated) (hmay : MayAsk client code state.outlook asked)
      (hnone : ∀ identity document requests,
        ¬Identifies client code state.outlook identity document requests) :
      Exchanges client code state
        (.error failure, (state.lookUp code).2.afterRequests asked kept)
  | identified {identity : Identity} {document : Metadata} {asked : List Http.Request}
      (hphase : state.phase code = .initiated)
      (hidentifies : Identifies client code state.outlook identity document asked)
      (hroom : state.cache.identities.capacity ≠ 0) :
      Exchanges client code state
        (.ok identity.email,
          ((state.lookUp code).2.afterRequests asked (some document)).put code identity)
  | full {identity : Identity} {document : Metadata} {asked : List Http.Request}
      (hphase : state.phase code = .initiated)
      (hidentifies : Identifies client code state.outlook identity document asked)
      (hfull : state.cache.identities.capacity = 0) :
      Exchanges client code state
        (.error (.interrupted .cacheFull),
          ((state.lookUp code).2.afterRequests asked (some document)).put code identity)

theorem isSome_identity?_iff :
    (state.timed.identity? code).isSome ↔ state.phase code = .exchanged :=
  Cache.Timed.phase_eq_exchanged_iff.symm

theorem identity?_of_phase_ne (h : state.phase code ≠ .exchanged) :
    state.timed.identity? code = none := by
  by_contra hsome
  exact h (isSome_identity?_iff.mp (Option.isSome_iff_ne_none.mpr hsome))

theorem run_exchange_redeemed (h : state.phase code = .redeemed) :
    (exchange client code).run state = (.error (.refused .codeRedeemed), state) := by
  change ((exchangeLocked client code).ensuring (.leave code)).run state = _
  rw [Flow.run_ensuring, exchangeLocked, Flow.run_bind, Flow.run_phase]
  simp only [h, if_true]
  rfl

/-- A code that is not redeemed is looked up; the provider is asked if that gives nothing. -/
theorem run_exchange_unredeemed (h : state.phase code ≠ .redeemed) :
    (exchange client code).run state =
      (match (state.timed.identity? code).map (·.value) with
        | some identity => pure identity.email
        | none => do
            let identity ← identify client code
            if ← Flow.store code identity then return identity.email
            else Flow.interrupt .cacheFull : Flow Text).run (state.lookUp code).2 := by
  change ((exchangeLocked client code).ensuring (.leave code)).run state = _
  rw [Flow.run_ensuring, exchangeLocked, Flow.run_bind, Flow.run_phase, ← State.fst_lookUp]
  simp only [if_neg h]
  rfl

theorem fst_put_asked (state : State) (code : Text) (asked : List Http.Request)
    (kept : Option Metadata) (identity : Identity) :
    let later := (state.lookUp code).2.afterRequests asked kept
    (later.cache.put later.clock code identity).1 =
      decide (state.cache.identities.capacity ≠ 0) := by
  change (Cache.Shelf.write _ _ _ _).1 = _
  rw [Cache.Shelf.write_fst]
  exact congrArg (fun capacity => decide (capacity ≠ 0)) (Cache.Shelf.capacity_read ..)

theorem exchanges_initiated (hphase : state.phase code = .initiated) :
    Exchanges client code state
      ((identify client code >>= fun identity => do
        if ← Flow.store code identity then return identity.email
        else Flow.interrupt .cacheFull).run (state.lookUp code).2) := by
  refine Flow.run_bind_of (fun identity next hrun => ?_) fun failure next hrun => ?_
  · obtain ⟨document, asked, hidentifies, rfl⟩ := run_identify_eq_ok_iff.mp hrun
    rw [Flow.run_bind, Flow.run_store, fst_put_asked]
    by_cases hfull : state.cache.identities.capacity = 0
    · rw [decide_eq_false (not_not.mpr hfull)]
      exact .full hphase hidentifies hfull
    · rw [decide_eq_true hfull]
      exact .identified hphase hidentifies hfull
  · have hasks := onlyAsks_identify client code (state.lookUp code).2
    rw [hrun] at hasks
    obtain ⟨asked, kept, hmay, rfl⟩ := hasks
    refine .unidentified hphase hmay fun identity document requests hidentifies => ?_
    -- Answers that make an identity let the run succeed.
    have hok : (identify client code).run (state.lookUp code).2 = (.ok identity, _) :=
      run_identify_eq_ok_iff.mpr ⟨document, requests, hidentifies, rfl⟩
    nomatch congrArg Prod.fst (hrun.symm.trans hok)

theorem exchanges (client : Client) (code : Text) (state : State) :
    Exchanges client code state ((exchange client code).run state) := by
  cases hphase : state.phase code with
  | redeemed =>
      rw [run_exchange_redeemed hphase]
      exact .redeemed hphase
  | exchanged =>
      obtain ⟨entry, hentry⟩ := Option.isSome_iff_exists.mp (isSome_identity?_iff.mpr hphase)
      rw [run_exchange_unredeemed (by simp [hphase]), hentry]
      exact .found hphase hentry
  | initiated =>
      rw [run_exchange_unredeemed (by simp [hphase]), identity?_of_phase_ne (by simp [hphase])]
      exact exchanges_initiated hphase

theorem fst_run_exchange_of_parse (hphase : state.phase code = .initiated) {tokens : TokenAnswer}
    {asked : List Http.Request} (htrades : client.Trades code state.outlook document tokens asked)
    {token : Text} (htoken : nonempty? tokens.idToken = some token) {failure : Token.Failure}
    (hparse : Token.parse leeway state.wall token = .error failure) :
    ((exchange client code).run state).1 = .error (Failure.ofToken failure) := by
  have htokens : (client.exchangeCode code).run (state.lookUp code).2 =
      (.ok tokens, (state.lookUp code).2.afterRequests asked (some document)) :=
    Client.run_exchangeCode_eq_ok_iff.mpr ⟨document, asked, htrades, rfl⟩
  have hcheck : (checkToken token).run ((state.lookUp code).2.afterRequests asked (some document)) =
      (.error (Failure.ofToken failure),
        (state.lookUp code).2.afterRequests asked (some document)) := by
    have hlater : Token.parse leeway ((state.lookUp code).2.afterRequests asked
        (some document)).wall token = .error failure := hparse
    rw [run_checkToken, hlater]
    rfl
  have hidentify : (identify client code).run (state.lookUp code).2 =
      (.error (Failure.ofToken failure),
        (state.lookUp code).2.afterRequests asked (some document)) := by
    rw [identify, Flow.run_bind_of_ok htokens]
    simp only [htoken]
    rw [Flow.run_bind_of_error hcheck]
  rw [run_exchange_unredeemed (by simp [hphase]), identity?_of_phase_ne (by simp [hphase])]
  exact congrArg Prod.fst (Flow.run_bind_of_error hidentify)

end Service

end SignOn

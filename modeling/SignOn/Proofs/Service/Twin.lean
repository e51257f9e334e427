import SignOn.Proofs.Provider.Twin
import SignOn.Proofs.Service.Release
import SignOn.Proofs.Service.Sample

/-!
# Refresh tokens do not matter before they are released

Two services get the same answers from the provider, save that some differ in the refresh token
they state.  Whatever is done to both, they ask the provider for the same, save and spend the same
nonces, and fail at the same steps in the same way.  Only what a redemption releases, or a look into
the cache shows, can tell them apart.
-/

namespace SignOn.Service

variable (client : Client) (code : Text)

/-! ## Calls -/

theorem twin_saveNonce (nonce : Text) :
    Flow.Twin Eq (saveNonce nonce) (saveNonce nonce) := by
  refine .perform_bind fun answer _ heq => ?_
  obtain rfl := heq
  exact .bind (Flow.twin_ofChecked_self _ _) fun _ _ _ => .pure rfl

theorem twin_authorize : Flow.Twin Eq (authorize client) (authorize client) := by
  refine .bind client.twin_authorize ?_
  rintro authorization _ rfl
  exact .bind (twin_saveNonce _) fun _ _ _ => .pure rfl

theorem twin_emailOf (claims : IdentityClaims) (accessToken : Text) :
    Flow.Twin Eq (emailOf client claims accessToken) (emailOf client claims accessToken) := by
  unfold emailOf
  cases nonempty? claims.email with
  | some email => exact .pure rfl
  | none =>
      refine .bind (client.twin_userInfo accessToken) fun user other hemail => ?_
      rw [hemail]
      cases nonempty? other.email with
      | some email => exact .pure rfl
      | none => exact .fail _

theorem twin_checkToken (token : Text) : Flow.Twin Eq (checkToken token) (checkToken token) := by
  refine .perform_bind fun now _ heq => ?_
  obtain rfl := heq
  exact Flow.twin_ofChecked_self _ _

def IdentitiesAlike (identity other : Identity) : Prop :=
  identity.withoutToken = other.withoutToken

theorem IdentitiesAlike.nonce {identity other : Identity} (h : IdentitiesAlike identity other) :
    identity.nonce = other.nonce := (congrArg Identity.nonce h :)

theorem IdentitiesAlike.email {identity other : Identity} (h : IdentitiesAlike identity other) :
    identity.email = other.email := (congrArg Identity.email h :)

theorem twin_identify :
    Flow.Twin IdentitiesAlike (identify client code) (identify client code) := by
  refine .bind (client.twin_exchangeCode code) ?_
  rintro tokens others ⟨haccess, hidentity⟩
  rw [haccess, hidentity]
  cases nonempty? others.idToken with
  | none => exact .fail _
  | some token =>
      refine .bind (twin_checkToken token) ?_
      rintro claims _ rfl
      refine .bind (twin_emailOf client claims others.accessToken) ?_
      rintro email _ rfl
      exact .pure rfl

theorem twin_store {identity other : Identity} (h : IdentitiesAlike identity other) :
    Flow.Twin Eq (Flow.store code identity) (Flow.store code other) :=
  .perform_bind fun _ _ _ => .store code h fun _ _ heq => .pure heq

theorem twin_phase : Flow.Twin Eq (Flow.phase code) (Flow.phase code) := by
  refine .perform_bind fun isExchanged _ heq => ?_
  obtain rfl := heq
  cases isExchanged with
  | true => exact .pure rfl
  | false =>
      refine .perform_bind fun isMarked _ heq => ?_
      obtain rfl := heq
      cases isMarked <;> exact .pure rfl

theorem twin_exchangeUnredeemed :
    Flow.Twin Eq (exchangeUnredeemed client code) (exchangeUnredeemed client code) := by
  refine .perform_bind fun found other halike => ?_
  cases found with
  | none =>
      obtain rfl : other = none := Option.map_eq_none_iff.mp halike.symm
      refine .bind (twin_identify client code) fun identity other hidentity => ?_
      refine .bind (twin_store code hidentity) ?_
      rintro taken _ rfl
      cases taken with
      | true => exact .pure hidentity.email
      | false => exact .fail _
  | some identity =>
      obtain ⟨cached, rfl, hcached⟩ := Option.map_eq_some_iff.mp halike.symm
      exact .pure (IdentitiesAlike.email hcached.symm)

theorem twin_exchange : Flow.Twin Eq (exchange client code) (exchange client code) := by
  refine .perform_bind fun _ _ _ => .ensuring ?_ _
  refine .bind (twin_phase code) ?_
  rintro phase _ rfl
  by_cases hphase : phase = .redeemed
  · rw [if_pos hphase]
    exact .fail _
  · rw [if_neg hphase]
    exact twin_exchangeUnredeemed client code

theorem twin_take :
    Flow.Twin (ResultsAlike Eq IdentitiesAlike) (Flow.take code) (Flow.take code) := by
  refine .bind (twin_phase code) ?_
  rintro phase _ rfl
  cases phase with
  | redeemed => exact .pure (.error rfl)
  | initiated => exact .pure (.error rfl)
  | exchanged =>
      refine .perform_bind fun found other halike => ?_
      cases found with
      | none =>
          obtain rfl : other = none := Option.map_eq_none_iff.mp halike.symm
          exact .pure (.error rfl)
      | some identity =>
          obtain ⟨cached, rfl, hcached⟩ := Option.map_eq_some_iff.mp halike.symm
          exact .perform_bind fun _ _ _ => .pure (.ok hcached.symm)

theorem twin_redeem : Flow.Twin (fun _ _ => True) (redeem code) (redeem code) := by
  refine .bind (twin_take code) fun taken other htaken => ?_
  refine .bind (Flow.twin_ofChecked (htaken.mapError fun fault _ heq => heq ▸ .refl _)) ?_
  intro identity other hidentity
  rw [hidentity.nonce]
  refine .perform_bind fun found _ heq => ?_
  obtain rfl := heq
  refine .bind (Flow.twin_ofChecked_self _ _) ?_
  rintro row _ rfl
  cases row with
  | none => exact .fail _
  | some row =>
      refine .perform_bind fun deleted _ heq => ?_
      obtain rfl := heq
      cases deleted with
      | true => exact .pure trivial
      | false => exact .fail _

/-! ## Steps -/

inductive Step.Alike : Step → Step → Prop
  | same (s : Step) : Step.Alike s s
  | supply {outcomes others : List Http.Outcome}
      (h : List.Forall₂ Http.Outcome.Alike outcomes others) :
      Step.Alike (.supply outcomes) (.supply others)

/-- What two services answer to a step: the same, but for what a redemption releases, for the token
in an identity that is looked at, and for what a failure echoes. -/
inductive AnsweredAlike : Step → Result → Result → Prop
  | same (s : Step) (result : Result) : AnsweredAlike s result result
  | released (code token other : Text) : AnsweredAlike (.redeem code) (.text token) (.text other)
  | seen (code : Text) {found other : Option Identity}
      (h : found.map Identity.withoutToken = other.map Identity.withoutToken) :
      AnsweredAlike (.peek code) (.identity found) (.identity other)
  | failed (s : Step) {failure other : Failure} (h : failure.Alike other) :
      AnsweredAlike s (.failed failure) (.failed other)

/-- Nobody can tell two transitions apart who does not see refresh tokens. -/
structure Transition.Alike (t u : Transition) : Prop where
  result : AnsweredAlike t.step t.result u.result
  sent : t.after.sent = u.after.sent
  table : t.after.table = u.after.table
  phase : ∀ code, t.after.phase code = u.after.phase code

theorem alike_call {flow other : Flow Text} {like : Text → Text → Prop} {s : Step}
    {state state' : State} (htwin : flow.Twin like other)
    (hlike : ∀ value value', like value value' → AnsweredAlike s (.text value) (.text value'))
    (h : state.Alike state') :
    AnsweredAlike s (runCall flow state).1 (runCall other state').1 ∧
      (runCall flow state).2.Alike (runCall other state').2 := by
  obtain ⟨hend, hafter⟩ := htwin.run h
  refine ⟨?_, hafter⟩
  have hresult : ∀ result other, Flow.EndAlike like result other →
      AnsweredAlike s (.ofRun result) (.ofRun other) := by
    intro result other hend
    cases hend with
    | ok hvalue => exact hlike _ _ hvalue
    | error hfailure => exact .failed s hfailure
  exact hresult _ _ hend

theorem alike_invalidate {state other : State} (h : state.Alike other) :
    (step client state (.invalidate code)).2.Alike (step client other (.invalidate code)).2 := by
  obtain ⟨outcomes, cache, rfl⟩ := h.exists_eq
  obtain ⟨-, hidentities⟩ := Cache.Shelf.remove_of_map h.identities
  exact h.setIdentities hidentities

theorem alike_step {s move : Step} (hmove : s.Alike move) {state other : State}
    (h : state.Alike other) :
    AnsweredAlike s (step client state s).1 (step client other move).1 ∧
      (step client state s).2.Alike (step client other move).2 := by
  have hsame : ∀ (call : Step) (value value' : Text), value = value' →
      AnsweredAlike call (.text value) (.text value') := by
    rintro call value _ rfl
    exact .same call _
  cases hmove with
  | supply houtcomes => exact ⟨.same _ _, { h with outcomes := houtcomes }⟩
  | same =>
      cases s with
      | authorize =>
          have hcall := alike_call (twin_authorize client) (hsame .authorize) h
          exact hcall
      | exchange code =>
          have hcall := alike_call (twin_exchange client code) (hsame (.exchange code)) h
          exact hcall
      | redeem code =>
          have hcall := alike_call (twin_redeem code) (fun _ _ _ => .released code _ _) h
          exact hcall
      | saveNonce nonce =>
          have hcall := alike_call (twin_saveNonce nonce) (hsame (.saveNonce nonce)) h
          exact hcall
      | peek code =>
          obtain ⟨hfound, hafter⟩ := h.perform (.lookUp code)
          exact ⟨.seen code hfound, hafter⟩
      | invalidate code => exact ⟨.same _ _, alike_invalidate client code h⟩
      | advance ticks =>
          exact ⟨.same _ _, { h with clock := congrArg (· + ticks) h.clock }⟩
      | setWall seconds => exact ⟨.same _ _, { h with wall := rfl }⟩
      | change change => exact ⟨.same _ _, { h with table := congrArg (·.apply change) h.table }⟩
      | supply outcomes =>
          exact ⟨.same _ _, { h with
            outcomes := List.forall₂_same.mpr fun outcome _ => .refl outcome }⟩

/-! ## Histories -/

theorem alike_history {steps moves : List Step} (hsteps : List.Forall₂ Step.Alike steps moves)
    {state other : State} (h : state.Alike other) :
    List.Forall₂ Transition.Alike (history client state steps) (history client other moves) := by
  induction hsteps generalizing state other with
  | nil => exact .nil
  | cons hmove hrest ih =>
      obtain ⟨hresult, hafter⟩ := alike_step client hmove h
      exact .cons ⟨hresult, hafter.sent, hafter.table, hafter.phase⟩ (ih hafter)

/-- Two services get outcomes that are alike, at the start and whenever new ones are supplied.  All
they do from then on is alike. -/
theorem tokens_do_not_matter (cache : Cache) (tokens : TokenSource) (wall : Int)
    {outcomes others : List Http.Outcome}
    (houtcomes : List.Forall₂ Http.Outcome.Alike outcomes others)
    {steps moves : List Step} (hsteps : List.Forall₂ Step.Alike steps moves) :
    List.Forall₂ Transition.Alike
      (history client (State.start cache outcomes tokens wall) steps)
      (history client (State.start cache others tokens wall) moves) :=
  alike_history client hsteps ⟨houtcomes, rfl, rfl, rfl, rfl, rfl, rfl, rfl⟩

/-! ## A sample -/

def sampleTokensAgain : Text := textsDocument (sampleTexts "s")

theorem alike_sampleTokens :
    Http.Answer.Alike ⟨200, [], Utf8.encode sampleTokens⟩
      ⟨200, [], Utf8.encode sampleTokensAgain⟩ := by
  have hfields : readTexts? (Utf8.encode sampleTokens) = some (sampleTexts "r") := by
    decide +kernel
  have hagain : readTexts? (Utf8.encode sampleTokensAgain) = some (sampleTexts "s") := by
    decide +kernel
  refine ⟨⟨rfl, rfl, ?_⟩, .inl rfl⟩
  rw [readBytes_of_texts hfields, readBytes_of_texts hagain]
  exact .ok (.object (Json.Fields.alike_set ⟨"r", by decide, rfl⟩ (by decide)))

theorem tokens_do_not_matter_in_sample :
    let answers (tokens : Text) : List Http.Outcome :=
      [sampleMetadata, tokens].map fun body => .answered ⟨200, [], Utf8.encode body⟩
    let past (tokens : Text) := history sampleClient
      (State.start (.empty 1 5) (answers tokens) (.ofList []) 0)
      [.saveNonce "n", .exchange sampleCode, .redeem sampleCode]
    List.Forall₂ Transition.Alike (past sampleTokens) (past sampleTokensAgain) ∧
      (past sampleTokens).filterMap (·.result.text?) = ["n", "e", "r"] ∧
      (past sampleTokensAgain).filterMap (·.result.text?) = ["n", "e", "s"] := by
  refine ⟨tokens_do_not_matter sampleClient _ _ _ ?_ ?_, by decide +kernel, by decide +kernel⟩
  · exact .cons (.refl _) (.cons (.answered alike_sampleTokens) .nil)
  · exact List.forall₂_same.mpr fun s _ => .same s

theorem readAlike_loggedAnswer : (loggedAnswer "refresh_token" "r").ReadAlike
    (loggedAnswer "refresh_token" "\u00e9") := by
  have hfields : ∀ token ∈ (["r", "\u00e9"] : List Text),
      readTexts? (loggedAnswer "refresh_token" token).body =
        some [(Text.ofString "refresh_token", token)] := by decide +kernel
  refine ⟨rfl, rfl, ?_⟩
  rw [readBytes_of_texts (hfields "r" (by decide)),
    readBytes_of_texts (hfields "\u00e9" (by decide))]
  exact .ok (.object ⟨⟨_, by decide, rfl⟩, ⟨_, by decide, rfl⟩, fun name hname => by
    simp [ofTexts, Json.Fields.get?, Ne.symm hname]⟩)

theorem AnsweredAlike.status? {s : Step} {result other : Result}
    (h : AnsweredAlike s result other) : result.status? = other.status? := by
  cases h with
  | failed _ hfailure =>
      rw [Result.status?_failed, Result.status?_failed, hfailure.kind]
  | _ => rfl

/-- Answers that are read alike only are not enough: one of them is refused, and the other is not
taken by the log. -/
theorem tokens_matter_to_log :
    let past (token : Text) := history sampleClient
      (State.start (.empty 1 5) [.answered ⟨200, [], Utf8.encode sampleMetadata⟩,
        .answered (loggedAnswer "refresh_token" token)] (.ofList []) 0) [.exchange sampleCode]
    (loggedAnswer "refresh_token" "r").ReadAlike (loggedAnswer "refresh_token" "\u00e9") ∧
      ¬List.Forall₂ Transition.Alike (past "r") (past "\u00e9") := by
  refine ⟨readAlike_loggedAnswer, fun halike => ?_⟩
  have hstatus : ∀ {moves others : List Transition}, List.Forall₂ Transition.Alike moves others →
      moves.map (·.result.status?) = others.map (·.result.status?) := by
    intro moves others h
    induction h with
    | nil => rfl
    | cons hfirst _ ih => rw [List.map_cons, List.map_cons, hfirst.result.status?, ih]
  exact absurd (hstatus halike) (by decide +kernel)

end SignOn.Service

import SignOn.Proofs.Service.Reach
import SignOn.Proofs.Service.Sample

/-!
# What calls come to

What an exchange and a redemption do in a state that a service has come to, for each phase that the
code can be in: the result, what is asked of the provider, and what becomes of the table and of all
codes.
-/

namespace SignOn.Service

open Cache.Timed (IsCrowded)

variable {client : Client} {code : Text} {state before after : State}

/-! ## What becomes of the codes -/

/-- No code passes to another phase or comes to stand for another identity. -/
def KeepsCodes (before after : State) : Prop :=
  ∀ code, after.phase code = before.phase code ∧
    after.timed.identity? code = before.timed.identity? code

/-- A code has come to stand for an identity.  Another code can lose its own identity by that, if
the cache was full and it was the one least recently used. -/
structure Caches (lifetime : Ticks) (code : Text) (identity : Identity) (before after : State) :
    Prop where
  held : after.cache.identities.find? code = some ⟨code, identity, before.clock + lifetime⟩
  exchanged : 0 < lifetime → after.phase code = .exchanged
  others : ∀ other ≠ code, after.timed.marker? other = before.timed.marker? other ∧
    (after.timed.identity? other = before.timed.identity? other ∨
      after.timed.identity? other = none ∧
        IsCrowded before.cache.identities before.clock other)

theorem keepsCodes_of_get (h : after.timed = (state.timed.step (.get code)).2) :
    KeepsCodes state after := by
  intro other
  have hidentity : after.timed.identity? other = state.timed.identity? other := by
    rw [h, Cache.Timed.identity?_get]
  have hmarker : after.timed.marker? other = state.timed.marker? other := by
    rw [h, Cache.Timed.marker?_get]
  refine ⟨?_, hidentity⟩
  change after.timed.phase other = state.timed.phase other
  rw [Cache.Timed.phase_eq, Cache.Timed.phase_eq, hidentity, hmarker]

theorem find?_write (shelf : Cache.Shelf Identity) (clock : Ticks) (identity : Identity)
    (h : shelf.capacity ≠ 0) :
    (shelf.write clock code identity).2.find? code =
      some ⟨code, identity, clock + shelf.lifetime⟩ := by
  change Cache.Eager.find? code (shelf.write clock code identity).2.entries = _
  rw [Cache.Shelf.entries_write shelf clock code identity h]
  exact Cache.find?_insert_self shelf.capacity ⟨code, identity, _⟩ _

theorem isCrowded_read {shelf : Cache.Shelf Identity} {clock : Ticks} {other : Text}
    (hnone : shelf.live? clock code = none)
    (h : IsCrowded (shelf.read clock code).2 clock other) : IsCrowded shelf clock other := by
  rw [Cache.Shelf.live?_eq_find?] at hnone
  rwa [IsCrowded, Cache.Shelf.visible_read, hnone, Cache.Shelf.capacity_read] at h

theorem caches_put {lifetime : Ticks} (hnone : state.timed.identity? code = none)
    (hroom : state.cache.identities.capacity ≠ 0)
    (hlifetime : state.cache.identities.lifetime = lifetime) {identity : Identity}
    (h : after.timed = ((state.timed.step (.get code)).2.step (.put code identity)).2) :
    Caches lifetime code identity state after := by
  subst hlifetime
  have hcapacity : (state.timed.step (.get code)).2.cache.identities.capacity ≠ 0 :=
    (Cache.Shelf.capacity_read ..).symm ▸ hroom
  have hsame : (state.timed.step (.get code)).2.cache.identities.lifetime =
      state.cache.identities.lifetime := Cache.Shelf.lifetime_read ..
  have hinstant : (Cache.Step.put code identity).ticks = 0 := rfl
  have hne : ∀ other, other ≠ code → (Cache.Step.put code identity).code? ≠ some other :=
    fun other hother hcode => hother (Option.some.inj hcode).symm
  -- The look-up that comes before takes nothing away, since it finds nothing for the code.
  refine ⟨?_, fun hpositive => ?_, fun other hother => ⟨?_, ?_⟩⟩
  · change after.timed.cache.identities.find? code = _
    rw [h, ← hsame]
    exact find?_write _ _ identity hcapacity
  · change after.timed.phase code = .exchanged
    rw [h, Cache.Timed.phase_eq_exchanged_iff, Cache.Timed.identity?_put _ code identity hcapacity,
      hsame, if_pos hpositive]
    rfl
  · rcases Cache.Timed.marker?_step_of_ne (hne other hother) with
      hmarker | ⟨-, _, _, _, _, htake, -⟩
    · rw [h, hmarker, hinstant, Cache.Timed.pass_zero, Cache.Timed.marker?_get]
    · contradiction
  · rcases Cache.Timed.identity?_step_of_ne (hne other hother) with
      hidentity | ⟨hgone, _, _, _, _, _, hcrowded⟩
    · left
      rw [h, hidentity, hinstant, Cache.Timed.pass_zero, Cache.Timed.identity?_get]
    · right
      rw [h]
      exact ⟨hgone, isCrowded_read hnone hcrowded⟩

/-! ## An exchange -/

theorem Identifies.unique {identity other : Identity} {document otherDocument : Metadata}
    {asked otherAsked : List Http.Request}
    (h : Identifies client code state.outlook identity document asked)
    (hother : Identifies client code state.outlook other otherDocument otherAsked) :
    identity = other ∧ asked = otherAsked := by
  have hrun := run_identify_eq_ok_iff.mpr ⟨document, asked, h, rfl⟩
  have hotherRun := run_identify_eq_ok_iff.mpr ⟨otherDocument, otherAsked, hother, rfl⟩
  obtain ⟨hresult, hafter⟩ := Prod.mk.inj (hrun.symm.trans hotherRun)
  exact ⟨Except.ok.inj hresult, List.append_cancel_left (congrArg State.sent hafter)⟩

/-- What comes of asking the provider for the identity of a code: the email of the identity that
the answers make, which is then in the cache, or a failure that leaves all codes as they are. -/
structure AsksProvider (client : Client) (lifetime : Ticks) (code : Text) (before : State)
    (ending : Except Failure Text × State) (asked : List Http.Request) : Prop where
  sent : ending.2.sent = before.sent ++ asked
  within : MayAsk client code before.outlook asked
  email : ∀ email, ending.1 = .ok email ↔ ∃ identity document,
    Identifies client code before.outlook identity document asked ∧ identity.email = email
  cached : ∀ identity document requests,
    Identifies client code before.outlook identity document requests →
      requests = asked ∧ Caches lifetime code identity before ending.2
  kept : ∀ failure, ending.1 = .error failure → KeepsCodes before ending.2

theorem asksProvider_of_exchanges {ending : Except Failure Text × State}
    (h : Exchanges client code state ending) (hphase : state.phase code = .initiated)
    (hroom : state.cache.identities.capacity ≠ 0) :
    ∃ asked, AsksProvider client state.cache.identities.lifetime code state ending asked := by
  cases h with
  | redeemed hother | found hother => exact nomatch hphase.symm.trans hother
  | full _ _ hfull => exact absurd hfull hroom
  | @unidentified failure asked kept _ hmay hnone =>
      refine ⟨asked, rfl, hmay, fun email => ⟨nofun, ?_⟩, fun identity document requests h => ?_,
        fun _ _ => keepsCodes_of_get rfl⟩
      · rintro ⟨identity, document, hidentifies, -⟩
        exact absurd hidentifies (hnone identity document asked)
      · exact absurd h (hnone identity document requests)
  | @identified identity document asked _ hidentifies _ =>
      have hnone := identity?_of_phase_ne (by rw [hphase]; decide)
      refine ⟨asked, rfl, hidentifies.mayAsk, fun email => ⟨?_, ?_⟩,
        fun other otherDocument requests h => ?_, nofun⟩
      · rintro ⟨⟩
        exact ⟨identity, document, hidentifies, rfl⟩
      · rintro ⟨other, otherDocument, h, rfl⟩
        rw [(hidentifies.unique h).1]
      · obtain ⟨rfl, rfl⟩ := hidentifies.unique h
        exact ⟨rfl, caches_put hnone hroom rfl rfl⟩

/-- An exchange in a state that a service has come to, for each phase of its code. -/
theorem exchange_ends (client : Client) (capacity : Nat) (hcapacity : 1 ≤ capacity)
    (lifetime : Ticks) (outcomes : List Http.Outcome) (tokens : TokenSource) (wall : Int)
    (steps : List Step) (code : Text) :
    let state := final client (.start (.empty capacity lifetime) outcomes tokens wall) steps
    let ending := (exchange client code).run state
    ending.2.table = state.table ∧
    (state.phase code = .redeemed → ending = (.error (.refused .codeRedeemed), state)) ∧
    (state.phase code = .exchanged → ∃ identity, (state.lookUp code).1 = some identity ∧
      ending.1 = .ok identity.email ∧ ending.2.sent = state.sent ∧ KeepsCodes state ending.2) ∧
    (state.phase code = .initiated → ∃ asked, AsksProvider client lifetime code state ending asked)
    := by
  intro state ending
  have hreached : IsReached capacity lifetime state :=
    isReached_final client capacity lifetime outcomes tokens wall steps
  have hroom : state.cache.identities.capacity ≠ 0 := by
    rw [show state.cache.identities.capacity = capacity from congrArg (·.1.1) hreached.shape]
    exact Nat.one_le_iff_ne_zero.mp hcapacity
  have hlifetime : state.cache.identities.lifetime = lifetime :=
    congrArg (·.1.2) hreached.shape
  have hends : Exchanges client code state ending := exchanges client code state
  refine ⟨table_run_exchange client code state, ?_, ?_, fun hphase => ?_⟩
  · intro hphase
    clear_value ending
    cases hends with
    | redeemed => rfl
    | found hother | unidentified hother | identified hother | full hother =>
        exact nomatch hphase.symm.trans hother
  · intro hphase
    clear_value ending
    cases hends with
    | @found entry _ hentry =>
        refine ⟨entry.value, ?_, rfl, rfl, keepsCodes_of_get rfl⟩
        rw [State.fst_lookUp, hentry]
        rfl
    | redeemed hother | unidentified hother | identified hother | full hother =>
        exact nomatch hphase.symm.trans hother
  · exact hlifetime ▸ asksProvider_of_exchanges hends hphase hroom

def credentialedMetadata : Text :=
  textsDocument
    (sampleMetadataTexts ++ ([("userinfo_endpoint", "https://u:p@i/u")] : List (Text × Text)))

/-- Tokens with the identity token of `{"alg":"a"}` and `{"exp":99,"nonce":"n"}`. -/
def emaillessTokens : Text :=
  textsDocument [
    ("access_token", "a"),
    ("id_token", "eyJhbGciOiJhIn0.eyJleHAiOjk5LCJub25jZSI6Im4ifQ.c2ln")]

def emailClaims : Text := textsDocument [("email", "e")]

def answered (bodies : List Text) : List Http.Outcome :=
  bodies.map fun body => .answered ⟨200, [], Utf8.encode body⟩

def credentialedOutcomes : List Http.Outcome :=
  answered [credentialedMetadata, emaillessTokens, emailClaims]

def credentialedState : State :=
  final sampleClient (.start (.empty 1 10) credentialedOutcomes (.ofList []) 0) [.advance 3]

theorem run_credentialed :
    (((exchange sampleClient sampleCode).run credentialedState).1.toOption,
      ((exchange sampleClient sampleCode).run credentialedState).2.sent.map (·.authorization)) =
    (some (Text.ofString "e"), [none, some (Http.basic "c" "s"), some (Http.basic "u" "p")]) := by
  decide +kernel

/-- The email comes from the third answer, and stays in a cache of one code. -/
theorem exchange_ends_in_sample :
    1 ≤ 1 ∧ ((exchange sampleClient sampleCode).run credentialedState).1.toOption =
        some (Text.ofString "e") ∧
      ∃ asked, asked.length = 3 ∧ AsksProvider sampleClient 10 sampleCode credentialedState
        ((exchange sampleClient sampleCode).run credentialedState) asked := by
  have hphase : credentialedState.phase sampleCode = .initiated := by decide +kernel
  have hnone : credentialedState.sent.length = 0 := rfl
  obtain ⟨hemail, hshown⟩ := Prod.mk.inj run_credentialed
  have hlength := congrArg List.length hshown
  rw [List.length_map] at hlength
  unfold credentialedState at hphase hemail hlength hnone ⊢
  obtain ⟨-, -, -, hinitiated⟩ := exchange_ends sampleClient 1 (Nat.le_refl 1) 10
    credentialedOutcomes (.ofList []) 0 [.advance 3] sampleCode
  obtain ⟨asked, hasks⟩ := hinitiated hphase
  rw [hasks.sent, List.length_append, hnone, Nat.zero_add] at hlength
  exact ⟨Nat.le_refl 1, hemail, asked, hlength, hasks⟩

theorem not_always_bearer :
    ¬ ∀ (client : Client) (capacity : Nat) (lifetime : Ticks) (outcomes : List Http.Outcome)
      (tokens : TokenSource) (wall : Int) (steps : List Step) (code : Text)
      (discovery trade user : Http.Request), 1 ≤ capacity →
      let state := final client (.start (.empty capacity lifetime) outcomes tokens wall) steps
      ((exchange client code).run state).2.sent = state.sent ++ [discovery, trade, user] →
        ∃ accessToken, user.authorization = some (Http.bearer accessToken) := by
  intro hclaim
  have hnone : credentialedState.sent = [] := rfl
  have hshown := (Prod.mk.inj run_credentialed).2
  have hlength := congrArg List.length hshown
  rw [List.length_map] at hlength
  obtain ⟨discovery, trade, user, hsent⟩ := List.length_eq_three.mp hlength
  rw [hsent, List.map_cons, List.map_cons, List.map_cons, List.map_nil] at hshown
  unfold credentialedState at hsent hnone
  have hbearer := hclaim sampleClient 1 10 credentialedOutcomes (.ofList []) 0 [.advance 3]
    sampleCode discovery trade user (Nat.le_refl 1)
  simp only [hsent, hnone, List.nil_append, true_imp_iff] at hbearer
  obtain ⟨accessToken, hbearer⟩ := hbearer
  have hbasic : user.authorization = some (Http.basic "u" "p") :=
    Option.some.inj (congrArg (·[2]?) hshown)
  have hsame : Http.basic "u" "p" = Http.bearer accessToken :=
    Option.some.inj (hbasic.symm.trans hbearer)
  -- The second letters differ.
  have hne : CodePoint.ofChar 'a' ≠ CodePoint.ofChar 'e' := by decide
  exact hne (Option.some.inj (congrArg (·[1]?) hsame))

/-! ## A redemption -/

/-- A code has given up its identity and is redeemed.  Another code can lose its own marker by
that, if there were as many as there can be and it was the one least recently used. -/
structure Ends (code : Text) (before after : State) : Prop where
  redeemed : after.phase code = .redeemed
  gone : Lacks code after
  others : ∀ other ≠ code, after.timed.identity? other = before.timed.identity? other ∧
    (after.timed.marker? other = before.timed.marker? other ∨
      after.timed.marker? other = none ∧
        IsCrowded before.cache.markers before.clock other)

theorem ends_withdrawn (h : state.timed.IsSound) {entry : Cache.Entry Identity}
    (hentry : state.timed.identity? code = some entry) (table : Nonce.Table) :
    Ends code state { withdrawn state code with table } where
  redeemed := h.phase_taken hentry
  gone := by
    have hremoved : (state.cache.identities.remove state.clock code).1 = some entry.value := by
      rw [Cache.Shelf.remove, show state.cache.identities.live? state.clock code = _ from hentry]
    exact (Cache.Shelf.of_remove_eq_some hremoved).2
  others other hother := by
    refine ⟨(state.cache.identities.live?_remove state.clock code other).trans (if_neg hother), ?_⟩
    exact (state.cache.markers.live?_write_of_ne state.clock () hother).imp id fun hlost =>
      ⟨hlost.1, hlost.2.2⟩

theorem capacity_of_identity? {entry : Cache.Entry Identity}
    (h : state.timed.identity? code = some entry) : 1 ≤ state.cache.identities.capacity := by
  have hmem := Cache.Shelf.mem_of_find? (Option.filter_eq_some_iff.mp h).1
  exact Nat.le_trans (List.length_pos_of_mem hmem) state.cache.identities.bounded

/-- A redemption in a state that a service has come to, for each phase of its code. -/
theorem redemption_ends (client : Client) (capacity : Nat) (lifetime : Ticks)
    (outcomes : List Http.Outcome) (tokens : TokenSource) (wall : Int) (steps : List Step)
    (hsteps : ∀ s ∈ steps, s.IsForward) (code : Text) :
    let state := final client (.start (.empty capacity lifetime) outcomes tokens wall) steps
    let ending := (redeem code).run state
    ending.2.sent = state.sent ∧
    (state.phase code = .initiated → ending = (.error (.refused .codeNotExchanged), state)) ∧
    (state.phase code = .redeemed → ending = (.error (.refused .codeRedeemed), state)) ∧
    (state.phase code = .exchanged → ∃ identity, (state.lookUp code).1 = some identity ∧
      Settles state.table identity ending.1 ending.2.table ∧ Ends code state ending.2 ∧
      ∀ (later : List Step) (i : Nat) (t : Transition) (token : Text),
        (history client ending.2 later)[i]? = some t → t.Releases code token →
          ∃ j < i, ∃ earlier : Transition,
            (history client ending.2 later)[j]? = some earlier ∧ earlier.Exchanges code) := by
  intro state ending
  have hreached : IsReached capacity lifetime state :=
    isReached_final client capacity lifetime outcomes tokens wall steps
  have hends : Redeems code state ending := redeems hreached.encodable code
  clear_value ending
  cases hends with
  | initiated hphase =>
      refine ⟨rfl, fun _ => rfl, fun hother => ?_, fun hother => ?_⟩ <;>
        exact nomatch hphase.symm.trans hother
  | redeemed hphase =>
      refine ⟨rfl, fun hother => ?_, fun _ => rfl, fun hother => ?_⟩ <;>
        exact nomatch hphase.symm.trans hother
  | @settled entry result table hentry hsettles =>
      have hphase : state.phase code = .exchanged :=
        isSome_identity?_iff.mp (Option.isSome_iff_exists.mpr ⟨entry, hentry⟩)
      have hcapacity : 1 ≤ capacity := by
        rw [show capacity = state.cache.identities.capacity from
          (congrArg (·.1.1) hreached.shape).symm]
        exact capacity_of_identity? hentry
      have hsound : IsSound state :=
        isSound_final client capacity lifetime outcomes tokens wall hcapacity hsteps
      have hended := ends_withdrawn hsound.timed hentry table
      refine ⟨rfl, fun hother => ?_, fun hother => ?_, fun _ =>
        ⟨entry.value, ?_, hsettles, hended, ?_⟩⟩
      · exact nomatch hphase.symm.trans hother
      · exact nomatch hphase.symm.trans hother
      · rw [State.fst_lookUp, hentry]
        rfl
      · intro later i t token ht hreleases
        exact hended.gone.exchanged_before later ht hreleases

def stepsToExchanged (nonces : List Text) : List Step :=
  nonces.map .saveNonce ++ [.exchange sampleCode, .advance 3]

theorem isForward_stepsToExchanged (nonces : List Text) :
    ∀ s ∈ stepsToExchanged nonces, s.IsForward := by
  intro s hs
  rcases List.mem_append.mp hs with hsave | hlast
  · obtain ⟨nonce, -, rfl⟩ := List.mem_map.mp hsave
    trivial
  · rcases List.mem_pair.mp hlast with rfl | rfl
    · trivial
    · exact (by decide : (0 : Ticks) ≤ 3)

def exchangedState (bodies nonces : List Text) : State :=
  final sampleClient (.start (.empty 1 10) (answered bodies) (.ofList []) 0)
    (stepsToExchanged nonces)

def twoNoncesState : State := exchangedState [sampleMetadata, sampleTokens] ["m", "n"]

/-- Of two nonces that are stored, one is used up. -/
theorem redemption_ends_in_sample :
    (∀ s ∈ stepsToExchanged ["m", "n"], s.IsForward) ∧
    Ends sampleCode twoNoncesState ((redeem sampleCode).run twoNoncesState).2 ∧
    ((redeem sampleCode).run twoNoncesState).1.toOption = some (Text.ofString "r") ∧
    ((redeem sampleCode).run twoNoncesState).2.table.rows = [⟨"m", 0⟩] := by
  have hrun : (twoNoncesState.phase sampleCode,
      ((redeem sampleCode).run twoNoncesState).1.toOption,
      ((redeem sampleCode).run twoNoncesState).2.table.rows) =
    (.exchanged, some (Text.ofString "r"), [⟨"m", 0⟩]) := by decide +kernel
  obtain ⟨hphase, hrest⟩ := Prod.mk.inj hrun
  obtain ⟨htoken, hrows⟩ := Prod.mk.inj hrest
  have hforward := isForward_stepsToExchanged ["m", "n"]
  refine ⟨hforward, ?_, htoken, hrows⟩
  unfold twoNoncesState exchangedState at hphase ⊢
  obtain ⟨-, -, -, hexchanged⟩ := redemption_ends sampleClient 1 10
    (answered [sampleMetadata, sampleTokens]) (.ofList []) 0 _ hforward sampleCode
  obtain ⟨identity, -, -, hended, -⟩ := hexchanged hphase
  exact hended

/-- Tokens with the identity token of `{"alg":"a"}` and
`{"exp":99,"nonce":"\ud800","email":"e"}`. -/
def formlessTokens : Text :=
  textsDocument [
    ("access_token", "a"),
    ("id_token", "eyJhbGciOiJhIn0.eyJleHAiOjk5LCJub25jZSI6Ilx1ZDgwMCIsImVtYWlsIjoiZSJ9.c2ln")]

theorem not_always_unknown :
    ¬ ∀ (client : Client) (capacity : Nat) (lifetime : Ticks) (outcomes : List Http.Outcome)
      (tokens : TokenSource) (wall : Int) (steps : List Step) (code : Text) (identity : Identity),
      (∀ s ∈ steps, s.IsForward) →
      let state := final client (.start (.empty capacity lifetime) outcomes tokens wall) steps
      (state.lookUp code).1 = some identity → state.table.hidden = false →
        state.table.row? identity.nonce = none →
          ((redeem code).run state).1 = .error (.refused .nonceUnknown) := by
  intro hclaim
  have hstate :
      (((exchangedState [sampleMetadata, formlessTokens] []).lookUp sampleCode).1.isSome,
        (exchangedState [sampleMetadata, formlessTokens] []).table,
        (Result.ofRun ((redeem sampleCode).run
          (exchangedState [sampleMetadata, formlessTokens] [])).1).status?) =
      (true, .empty, none) := by decide +kernel
  obtain ⟨hsome, hrest⟩ := Prod.mk.inj hstate
  obtain ⟨htable, hstatus⟩ := Prod.mk.inj hrest
  unfold exchangedState at hsome htable hstatus
  obtain ⟨identity, hidentity⟩ := Option.isSome_iff_exists.mp hsome
  have hunknown := hclaim sampleClient 1 10 (answered [sampleMetadata, formlessTokens])
    (.ofList []) 0 (stepsToExchanged []) sampleCode identity (isForward_stepsToExchanged [])
    hidentity
  rw [htable] at hunknown
  rw [hunknown rfl rfl] at hstatus
  exact nomatch hstatus

end SignOn.Service

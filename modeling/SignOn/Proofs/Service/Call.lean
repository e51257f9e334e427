import SignOn.Proofs.Provider.Requests
import SignOn.Proofs.Provider.TokenAnswer
import SignOn.Service.Basic

/-!
# How calls go

An exchange and a redemption of a code each pass through a few points.  `Progress` lists the steps
between them, with what an answer settles, and both calls follow it.  Whatever holds of all points,
alone or with other calls in between, is read off that list and not off the calls.
-/

namespace SignOn

/-- An identity is what the answer to a request for tokens states, at a wall clock: its identity
token is accepted, and the refresh token is the one the answer names, or empty. -/
def Identity.IsGrantedBy (identity : Identity) (now : Int) (outcome : Http.Outcome) : Prop :=
  ∃ answer fields token claims, outcome = .answered answer ∧ answer.status = 200 ∧
    Json.readBytes answer.body = .ok (.obj fields) ∧
    Json.Fields.text? fields "id_token" = some token ∧
    Token.parse Service.leeway now token = .ok claims ∧ identity.nonce = claims.nonce ∧
    identity.refreshToken = (Json.Fields.text? fields "refresh_token").getD []

namespace Service

inductive Point where
  | arriving
  | checking
  | unexchanged
  | unmarked
  | asking
  | asked (request : Http.Request) (outcome : Http.Outcome)
  | checked (request : Http.Request) (outcome : Http.Outcome) (now : Int)
  | storing (request : Http.Request) (outcome : Http.Outcome) (now : Int)
  | stored (identity : Identity)
  | full
  | found (identity : Identity)
  | refused
  | left (asked : Bool) (email : Option Text)
  | taking
  | untaken
  | withdrawing
  | withdrawn (identity : Identity)
  | spent (identity : Identity)
  | failed

namespace Point

def isOpen : Point → Bool
  | asking | checked .. => true
  | _ => false

def leaving? : Point → Option (Bool × Option Text)
  | asking | refused => some (false, none)
  | asked .. | checked .. | full => some (true, none)
  | stored identity => some (true, some identity.email)
  | found identity => some (false, some identity.email)
  | _ => none

def Accepts : Point → Except Failure Text → Prop
  | left _ (some email), .ok value => value = email
  | left _ none, .error _ => True
  | spent identity, .ok value => value = identity.refreshToken
  | spent _, .error _ => True
  | failed, .error _ => True
  | _, _ => False

end Point

inductive Progress (code : Text) : Protocol Point where
  | enter : Progress code .arriving (.enter code) () .checking
  | hasIdentity : Progress code .checking (.isExchanged code) true .unmarked
  | hasNone : Progress code .checking (.isExchanged code) false .unexchanged
  | hasMarker : Progress code .unexchanged (.isMarked code) true .refused
  | hasNeither : Progress code .unexchanged (.isMarked code) false .unmarked
  | find (identity : Identity) :
      Progress code .unmarked (.lookUp code) (some identity) (.found identity)
  | findNone : Progress code .unmarked (.lookUp code) none .asking
  | document {point : Point} (h : point.isOpen) (kept : Option Metadata) :
      Progress code point .document kept point
  | keep {point : Point} (h : point.isOpen) (document : Metadata) :
      Progress code point (.keep document) () point
  | fetch {point : Point} (h : point.isOpen) {request : Http.Request} (hcode : request.code? = none)
      (outcome : Http.Outcome) : Progress code point (.send request) outcome point
  | ask {request : Http.Request} (hcode : request.code? = some code) (outcome : Http.Outcome) :
      Progress code .asking (.send request) outcome (.asked request outcome)
  | check {request : Http.Request} {outcome : Http.Outcome} (now : Int) :
      Progress code (.asked request outcome) .wallClock now (.checked request outcome now)
  | unmark {request : Http.Request} {outcome : Http.Outcome} {now : Int} :
      Progress code (.checked request outcome now) (.unmark code) ()
        (.storing request outcome now)
  | store {request : Http.Request} {outcome : Http.Outcome} {now : Int} {identity : Identity}
      (h : identity.IsGrantedBy now outcome) :
      Progress code (.storing request outcome now) (.store code identity) true (.stored identity)
  | storeNot {request : Http.Request} {outcome : Http.Outcome} {now : Int} {identity : Identity} :
      Progress code (.storing request outcome now) (.store code identity) false .full
  | leave {point : Point} {asked : Bool} {email : Option Text}
      (h : point.leaving? = some (asked, email)) :
      Progress code point (.leave code) () (.left asked email)
  | takeIdentity : Progress code .taking (.isExchanged code) true .withdrawing
  | takeNone : Progress code .taking (.isExchanged code) false .untaken
  | untaken (marked : Bool) : Progress code .untaken (.isMarked code) marked .failed
  | withdraw (identity : Identity) :
      Progress code .withdrawing (.withdraw code) (some identity) (.withdrawn identity)
  | withdrawNone : Progress code .withdrawing (.withdraw code) none .failed
  | mark {identity : Identity} :
      Progress code (.withdrawn identity) (.mark code) () (.spent identity)
  | findNonce {identity : Identity} (nonce : Text) (found : Except Nonce.Fault (Option Nonce.Row)) :
      Progress code (.spent identity) (.findNonce nonce) found (.spent identity)
  | deleteNonce {identity : Identity} (row : Nonce.Row) (deleted : Bool) :
      Progress code (.spent identity) (.deleteNonce row) deleted (.spent identity)

variable {code : Text} {client : Client}

theorem admits_of_isOpen {point : Point} (h : point.isOpen) :
    Protocol.Admits (Progress code) point where
  document := .document h
  keep document _ := .keep h document
  send _ outcome hcode := .fetch h hcode outcome

theorem eq_some_of_nonempty? {t : Option Text} {s : Text} (h : nonempty? t = some s) :
    t = some s := by
  match t, h with
  | some (c :: rest), h => simpa [nonempty?] using h

theorem follows_emailOf {point : Point} (h : point.isOpen) (claims : IdentityClaims)
    (accessToken : Text) :
    (emailOf client claims accessToken).Follows (Progress code) point fun _ q => q = point := by
  unfold emailOf
  split
  · exact rfl
  · refine Flow.Follows.bind (Client.follows_userInfo (admits_of_isOpen h) client accessToken) ?_
      fun _ _ hq => hq
    rintro user q rfl
    split <;> exact rfl

theorem follows_checkToken {request : Http.Request} {outcome : Http.Outcome} (token : Text) :
    (checkToken token).Follows (Progress code) (.asked request outcome) fun result q =>
      ∃ now, q = .checked request outcome now ∧
        ∀ claims, result = .ok claims → Token.parse leeway now token = .ok claims := by
  refine Flow.Follows.perform_bind fun now => ⟨_, .check now, ?_⟩
  refine Flow.follows_ofChecked (fun claims hclaims => ⟨now, rfl, ?_⟩) fun fault _ =>
    ⟨now, rfl, nofun⟩
  rintro _ ⟨⟩
  exact hclaims

theorem follows_identify :
    (identify client code).Follows (Progress code) .asking fun result q =>
      match result with
      | .ok identity => ∃ request outcome now, q = .checked request outcome now ∧
          identity.IsGrantedBy now outcome
      | .error _ => ∃ asked, q.leaving? = some (asked, none) := by
  refine Flow.Follows.bind
    (Client.follows_exchangeCode (admits_of_isOpen rfl) client fun _ outcome h => .ask h outcome)
    ?_ ?_
  · rintro tokens q (⟨-, failure, heq⟩ | ⟨request, outcome, -, rfl, htokens⟩)
    · contradiction
    obtain ⟨answer, fields, houtcome, hstatus, hbody, hrefresh, hid⟩ :=
      Client.of_tokensOf htokens.symm
    split
    next hnone => exact ⟨true, rfl⟩
    next token htoken =>
      refine Flow.Follows.bind (follows_checkToken token) ?_ ?_
      · rintro claims q ⟨now, rfl, hparse⟩
        refine Flow.Follows.bind (follows_emailOf rfl claims tokens.accessToken) ?_ ?_
        · rintro email q rfl
          refine ⟨request, outcome, now, rfl, answer, fields, token, claims, houtcome, hstatus,
            hbody, ?_, hparse claims rfl, rfl, by rw [hrefresh]⟩
          rw [← hid, eq_some_of_nonempty? htoken]
        · rintro failure q rfl
          exact ⟨true, rfl⟩
      · rintro failure q ⟨now, rfl, -⟩
        exact ⟨true, rfl⟩
  · rintro failure q (⟨rfl, -⟩ | ⟨request, outcome, -, rfl, -⟩)
    · exact ⟨false, rfl⟩
    · exact ⟨true, rfl⟩

theorem follows_exchangeUnredeemed :
    (exchangeUnredeemed client code).Follows (Progress code) .unmarked fun result q =>
      ∃ asked email, q.leaving? = some (asked, email) ∧
        (Point.left asked email).Accepts result := by
  refine Flow.Follows.perform_bind fun found => ?_
  cases found with
  | some identity => exact ⟨_, .find identity, false, _, rfl, rfl⟩
  | none =>
      refine ⟨_, .findNone, Flow.Follows.bind follows_identify ?_ ?_⟩
      · rintro identity q ⟨request, outcome, now, rfl, hgranted⟩
        refine Flow.Follows.perform_bind fun _ => ⟨_, .unmark, ?_⟩
        refine Flow.Follows.perform_bind fun taken => ?_
        cases taken with
        | true => exact ⟨_, .store hgranted, true, _, rfl, rfl⟩
        | false => exact ⟨_, .storeNot, true, none, rfl, trivial⟩
      · rintro failure q ⟨asked, hleaving⟩
        exact ⟨asked, none, hleaving, trivial⟩

theorem follows_exchangeLocked :
    (exchangeLocked client code).Follows (Progress code) .checking fun result q =>
      ∃ asked email, q.leaving? = some (asked, email) ∧
        (Point.left asked email).Accepts result := by
  refine Flow.Follows.perform_bind fun exchanged => ?_
  cases exchanged with
  | true => exact ⟨_, .hasIdentity, follows_exchangeUnredeemed⟩
  | false =>
      refine ⟨_, .hasNone, Flow.Follows.perform_bind fun marked => ?_⟩
      cases marked with
      | true => exact ⟨_, .hasMarker, false, none, rfl, trivial⟩
      | false => exact ⟨_, .hasNeither, follows_exchangeUnredeemed⟩

theorem follows_exchange :
    (exchange client code).Follows (Progress code) .arriving fun result q => q.Accepts result := by
  refine Flow.Follows.perform_bind fun _ => ⟨_, .enter, Flow.Follows.ensuring ?_⟩
  refine follows_exchangeLocked.mono fun result q hq _ => ?_
  obtain ⟨asked, email, hleaving, haccepts⟩ := hq
  exact ⟨_, .leave hleaving, haccepts⟩

theorem follows_take :
    (Flow.take code).Follows (Progress code) .taking fun result q =>
      match result with
      | .ok (.ok identity) => q = .spent identity
      | .ok (.error _) => q = .failed
      | .error _ => False := by
  refine Flow.Follows.perform_bind fun exchanged => ?_
  cases exchanged with
  | true =>
      refine ⟨_, .takeIdentity, Flow.Follows.perform_bind fun withdrawn => ?_⟩
      cases withdrawn with
      | none => exact ⟨_, .withdrawNone, rfl⟩
      | some identity =>
          exact ⟨_, .withdraw identity, Flow.Follows.perform_bind fun _ => ⟨_, .mark, rfl⟩⟩
  | false =>
      refine ⟨_, .takeNone, Flow.Follows.perform_bind fun marked => ⟨_, .untaken marked, ?_⟩⟩
      cases marked <;> exact rfl

theorem follows_redeem :
    (redeem code).Follows (Progress code) .taking fun result q => q.Accepts result := by
  refine Flow.Follows.bind follows_take ?_ fun _ _ hfalse => hfalse.elim
  rintro (fault | identity) q rfl
  · exact trivial
  refine Flow.Follows.perform_bind fun found => ⟨_, .findNonce _ found, ?_⟩
  match found with
  | .error fault => exact trivial
  | .ok none => exact trivial
  | .ok (some row) =>
      refine Flow.Follows.perform_bind fun deleted => ⟨_, .deleteNonce row deleted, ?_⟩
      cases deleted with
      | true => exact rfl
      | false => exact trivial

end Service

end SignOn

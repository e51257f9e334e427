import SignOn.Proofs.Flow.Dialogue
import SignOn.Proofs.Ledger
import SignOn.Proofs.Service.Call
import SignOn.Service.Step

/-!
# What a redemption releases

A history is what a service did, step by step.  Every refresh token that a redemption releases is
one that an earlier exchange of the same code got from the provider, and no exchange accounts for
two releases.
-/

namespace SignOn

def State.start (cache : Cache) (outcomes : List Http.Outcome) (tokens : TokenSource)
    (wall : Int) : State where
  outcomes := outcomes
  sent := []
  tokens := tokens
  wall := wall
  clock := 0
  document := none
  cache := cache
  table := Nonce.Table.empty

namespace Service

structure Transition where
  before : State
  step : Step
  result : Result
  after : State

def Transition.make (client : Client) (state : State) (s : Step) : Transition :=
  ⟨state, s, (Service.step client state s).1, (Service.step client state s).2⟩

def history (client : Client) (state : State) : List Step → List Transition
  | [] => []
  | s :: rest =>
      let t := Transition.make client state s
      t :: history client t.after rest

def final (client : Client) (state : State) : List Step → State
  | [] => state
  | s :: rest => final client (step client state s).2 rest

namespace Transition

def Releases (t : Transition) (code token : Text) : Prop :=
  t.step = .redeem code ∧ t.result = .text token

/-- An exchange of a code that gets a refresh token: it sends a request for tokens that names the
code, and the answer, of status 200, holds a JSON object that states an identity token which is
accepted.  The refresh token is the one stated there, or else empty. -/
def Obtains (t : Transition) (code refreshToken : Text) : Prop :=
  t.step = .exchange code ∧ ∃ request answer fields identityToken claims,
    (request, .answered answer) ∈ t.before.dialogue t.after ∧ request.code? = some code ∧
    answer.status = 200 ∧ Json.readBytes answer.body = .ok (.obj fields) ∧
    Json.Fields.text? fields "id_token" = some identityToken ∧
    Token.parse leeway t.before.wall identityToken = .ok claims ∧
    refreshToken = (Json.Fields.text? fields "refresh_token").getD []

end Transition

def IsRelease (past : List Transition) (i : Nat) : Prop :=
  ∃ (t : Transition) (code token : Text), past[i]? = some t ∧ t.Releases code token

/-! ## What an exchange leaves in the cache -/

section Calls

variable {code : Text} {before state : State} {point : Point}

/-- A request for the tokens of a code was sent since an earlier state, and its outcome grants an
identity. -/
def IsGranted (code : Text) (before state : State) (identity : Identity) : Prop :=
  ∃ request outcome, (request, outcome) ∈ before.dialogue state ∧ request.code? = some code ∧
    identity.IsGrantedBy before.wall outcome

def IsAsked (code : Text) (before state : State) (request : Http.Request)
    (outcome : Http.Outcome) : Prop :=
  request.code? = some code ∧
    (outcome = State.noOutcome ∨ (request, outcome) ∈ before.dialogue state)

def Knows (code : Text) (before : State) : Point → State → Prop
  | .asked request outcome, state => IsAsked code before state request outcome
  | .checked request outcome now, state | .storing request outcome now, state =>
      IsAsked code before state request outcome ∧ now = before.wall
  | _, _ => True

structure Holds (code : Text) (before : State) (point : Point) (state : State) : Prop where
  follows : before.IsFollowedBy state
  entries : ∀ entry ∈ state.cache.identities.entries,
    entry ∈ before.cache.identities.entries ∨
      entry.key = code ∧ IsGranted code before state entry.value
  knows : Knows code before point state

theorem isGranted_perform {identity : Identity} (h : before.IsFollowedBy state)
    (hgranted : IsGranted code before state identity) (action : Action) :
    IsGranted code before (state.perform action).2 identity := by
  obtain ⟨request, outcome, hpair, hrest⟩ := hgranted
  exact ⟨request, outcome, State.dialogue_perform h action hpair, hrest⟩

theorem isAsked_perform {request : Http.Request} {outcome : Http.Outcome}
    (h : before.IsFollowedBy state) (hasked : IsAsked code before state request outcome)
    (action : Action) : IsAsked code before (state.perform action).2 request outcome :=
  ⟨hasked.1, hasked.2.imp id (State.dialogue_perform h action)⟩

theorem knows_perform (h : before.IsFollowedBy state) (hknows : Knows code before point state)
    (action : Action) : Knows code before point (state.perform action).2 := by
  cases point with
  | asked request outcome => exact isAsked_perform h hknows action
  | checked request outcome now => exact ⟨isAsked_perform h hknows.1 action, hknows.2⟩
  | storing request outcome now => exact ⟨isAsked_perform h hknows.1 action, hknows.2⟩
  | _ => trivial

theorem IsAsked.isGranted {request : Http.Request} {outcome : Http.Outcome} {identity : Identity}
    (h : IsAsked code before state request outcome)
    (hgranted : identity.IsGrantedBy before.wall outcome) :
    IsGranted code before state identity := by
  obtain ⟨hcode, rfl | hpair⟩ := h
  · obtain ⟨answer, fields, token, claims, hnone, -⟩ := hgranted
    contradiction
  · exact ⟨request, outcome, hpair, hcode, hgranted⟩

theorem entries_perform (h : Holds code before point state) (action : Action)
    (hstore : ∀ key identity, action = .store key identity →
      (state.store key identity).1 = true → key = code ∧ IsGranted code before state identity) :
    ∀ entry ∈ (state.perform action).2.cache.identities.entries,
      entry ∈ before.cache.identities.entries ∨
        entry.key = code ∧ IsGranted code before (state.perform action).2 entry.value := by
  intro entry hentry
  rcases State.mem_identities_perform hentry with hmem | ⟨rfl, htaken⟩
  · exact (h.entries entry hmem).imp id fun ⟨hkey, hgranted⟩ =>
      ⟨hkey, isGranted_perform h.follows hgranted action⟩
  · obtain ⟨hkey, hgranted⟩ := hstore _ _ rfl htaken
    exact .inr ⟨hkey, isGranted_perform h.follows hgranted _⟩

theorem holds_step {action : Action} {q : Point}
    (hstep : Progress code point action (state.perform action).1 q)
    (h : Holds code before point state) : Holds code before q (state.perform action).2 := by
  have hkept := knows_perform h.follows h.knows action
  generalize hanswer : (state.perform action).1 = answer at hstep
  refine ⟨State.perform_isFollowedBy h.follows action, entries_perform h action ?_, ?_⟩
  · rintro key identity rfl htaken
    cases hstep with
    | store hgranted =>
        obtain ⟨hasked, rfl⟩ := h.knows
        exact ⟨rfl, hasked.isGranted hgranted⟩
    | storeNot => exact absurd (htaken.symm.trans hanswer) (by decide)
  · cases hstep with
    | ask hcode outcome =>
        obtain ⟨-, hpair⟩ := State.send_isFollowedBy h.follows _
        exact ⟨hcode, hanswer ▸ hpair⟩
    | check now =>
        obtain ⟨requests, -, -, hwall⟩ := h.follows
        exact ⟨hkept, hanswer ▸ hwall⟩
    | unmark => exact hkept
    | document => exact hkept
    | keep => exact hkept
    | fetch => exact hkept
    | _ => trivial

theorem holds_self (code : Text) (state : State) : Holds code state .arriving state :=
  ⟨state.isFollowedBy_self, fun _ hentry => .inl hentry, trivial⟩

/-! ## What a redemption takes from the cache -/

def IsTaken (code : Text) (before state : State) (identity : Identity) : Prop :=
  (∃ entry ∈ before.cache.identities.entries, entry.key = code ∧ entry.value = identity) ∧
    ∀ entry ∈ state.cache.identities.entries, entry.key ≠ code

def Spends (code : Text) (before : State) : Point → State → Prop
  | .taking, _ | .untaken, _ | .withdrawing, _ | .failed, _ => True
  | .withdrawn identity, state | .spent identity, state => IsTaken code before state identity
  | _, _ => False

theorem elsewhere_of_spends (h : Spends code before point state) :
    point.isOpen = false ∧ point.leaving? = none := by
  cases point with
  | taking => exact ⟨rfl, rfl⟩
  | untaken => exact ⟨rfl, rfl⟩
  | withdrawing => exact ⟨rfl, rfl⟩
  | withdrawn identity => exact ⟨rfl, rfl⟩
  | spent identity => exact ⟨rfl, rfl⟩
  | failed => exact ⟨rfl, rfl⟩
  | _ => exact h.elim

structure Leaves (code : Text) (before : State) (point : Point) (state : State) : Prop where
  entries : ∀ entry ∈ state.cache.identities.entries, entry ∈ before.cache.identities.entries
  spends : Spends code before point state

theorem leaves_step {action : Action} {q : Point}
    (hstep : Progress code point action (state.perform action).1 q)
    (h : Leaves code before point state) : Leaves code before q (state.perform action).2 := by
  obtain ⟨hentries, hspends⟩ := h
  generalize hanswer : (state.perform action).1 = answer at hstep
  have hstays : ∀ entry ∈ (state.perform action).2.cache.identities.entries,
      entry ∈ state.cache.identities.entries := by
    intro entry hentry
    rcases State.mem_identities_perform hentry with hmem | ⟨rfl, -⟩
    · exact hmem
    · cases hstep <;> exact hspends.elim
  obtain ⟨hclosed, hstaying⟩ := elsewhere_of_spends hspends
  have hkept : ∀ identity, IsTaken code before state identity →
      IsTaken code before (state.perform action).2 identity :=
    fun identity htaken => ⟨htaken.1, fun entry hentry => htaken.2 entry (hstays entry hentry)⟩
  refine ⟨fun entry hentry => hentries entry (hstays entry hentry), ?_⟩
  cases hstep with
  | withdraw identity =>
      obtain ⟨⟨entry, hentry, hkey, hvalue⟩, hgone⟩ := Cache.Shelf.of_remove_eq_some hanswer
      exact ⟨⟨entry, hentries entry hentry, hkey, hvalue⟩, hgone⟩
  | mark => exact hkept _ hspends
  | findNonce nonce found => exact hkept _ hspends
  | deleteNonce row deleted => exact hkept _ hspends
  | takeIdentity => trivial
  | takeNone => trivial
  | untaken => trivial
  | withdrawNone => trivial
  | document hopen => exact absurd (hclosed.symm.trans hopen) (by decide)
  | keep hopen => exact absurd (hclosed.symm.trans hopen) (by decide)
  | fetch hopen => exact absurd (hclosed.symm.trans hopen) (by decide)
  | leave hleaving => exact nomatch hstaying.symm.trans hleaving
  | _ => exact hspends.elim

theorem leaves_self (code : Text) (state : State) : Leaves code state .taking state :=
  ⟨fun _ hentry => hentry, trivial⟩

/-! ## Calls that store nothing -/

def storeless : Protocol Unit := fun _ action _ _ =>
  ∀ code identity, action ≠ .store code identity

theorem admits_storeless : storeless.Admits () where
  document _ := nofun
  keep _ _ := nofun
  send _ _ _ := nofun

theorem follows_saveNonce (nonce : Text) :
    (saveNonce nonce).Follows storeless () fun _ _ => True := by
  refine Flow.Follows.perform_bind fun answer => ⟨(), nofun, ?_⟩
  cases answer <;> trivial

theorem follows_authorize (client : Client) :
    (authorize client).Follows storeless () fun _ _ => True := by
  have hauthorize : client.authorize.Follows storeless () fun _ _ => True := by
    refine Flow.Follows.bind (Client.follows_discover admits_storeless client)
      (fun document _ _ => ?_) fun _ _ _ => trivial
    refine Flow.Follows.perform_bind fun drawn => ⟨(), nofun, ?_⟩
    refine Flow.Follows.perform_bind fun nonce => ⟨(), nofun, ?_⟩
    cases Http.checkForm (client.authorizationForm drawn nonce) <;> trivial
  refine hauthorize.bind (fun authorization _ _ => ?_) fun _ _ _ => trivial
  exact (follows_saveNonce authorization.nonce).bind (fun _ _ _ => trivial) fun _ _ _ => trivial

def Keeps (before : State) (_ : Unit) (state : State) : Prop :=
  ∀ entry ∈ state.cache.identities.entries, entry ∈ before.cache.identities.entries

theorem keeps_of_storeless {α : Type} {flow : Flow α}
    (h : flow.Follows storeless () fun _ _ => True) (state : State) :
    Keeps state () (flow.run state).2 := by
  have hstep : ∀ point action later q, storeless point action (later.perform action).1 q →
      Keeps state point later → Keeps state q (later.perform action).2 := by
    intro point action later q hspares hkeeps entry hentry
    rcases State.mem_identities_perform hentry with hmem | ⟨hstore, -⟩
    · exact hkeeps entry hmem
    · exact absurd hstore (hspares _ _)
  have hself : Keeps state () state := fun _ hentry => hentry
  obtain ⟨⟨⟩, -, hkeeps⟩ := h.run hstep hself
  exact hkeeps

end Calls

/-! ## One transition -/

theorem eq_ok_of_ofRun {result : Except Failure Text} {value : Text}
    (h : Result.ofRun result = .text value) : result = .ok value := by
  cases result with
  | ok given => simpa [Result.ofRun] using h
  | error failure => simp [Result.ofRun] at h

section Transitions

variable {client : Client} {state : State} {code : Text}

theorem entries_make (s : Step) :
    ∀ entry ∈ (Transition.make client state s).after.cache.identities.entries,
      entry ∈ state.cache.identities.entries ∨
        (Transition.make client state s).Obtains entry.key entry.value.refreshToken := by
  intro entry hentry
  cases s with
  | exchange code =>
      have hfollows : (exchange client code).Follows _ _ _ := follows_exchange
      obtain ⟨q, -, hholds⟩ := hfollows.run (fun _ _ _ _ => holds_step) (holds_self code state)
      rcases hholds.entries entry hentry with
        hmem | ⟨hkey, request, outcome, hpair, hcode, hgranted⟩
      · exact .inl hmem
      · obtain ⟨answer, fields, token, claims, rfl, hstatus, hbody, hid, hparse, -, hrefresh⟩ :=
          hgranted
        rw [hkey]
        exact .inr ⟨rfl, request, answer, fields, token, claims, hpair, hcode, hstatus, hbody, hid,
          hparse, hrefresh⟩
  | redeem code =>
      obtain ⟨q, -, hleaves⟩ := follows_redeem.run (fun _ _ _ _ => leaves_step)
        (leaves_self code state)
      exact .inl (hleaves.entries entry hentry)
  | authorize => exact .inl (keeps_of_storeless (follows_authorize client) state entry hentry)
  | saveNonce nonce => exact .inl (keeps_of_storeless (follows_saveNonce nonce) state entry hentry)
  | peek code => exact .inl (Cache.Shelf.mem_read hentry)
  | invalidate code => exact .inl (Cache.Shelf.mem_remove hentry)
  | _ => exact .inl hentry

/-- A redemption releases the refresh token of the identity that stood in the cache, and the code
has none any more. -/
theorem of_make_releases {s : Step} {token : Text}
    (h : (Transition.make client state s).Releases code token) :
    (∃ entry ∈ state.cache.identities.entries,
      entry.key = code ∧ entry.value.refreshToken = token) ∧
      ∀ entry ∈ (Transition.make client state s).after.cache.identities.entries,
        entry.key ≠ code := by
  obtain ⟨rfl, hresult⟩ := h
  obtain ⟨q, haccepts, hleaves⟩ := follows_redeem.run (fun _ _ _ _ => leaves_step)
    (leaves_self code state)
  have hvalue : ((redeem code).run state).1 = .ok token := eq_ok_of_ofRun hresult
  rw [hvalue] at haccepts
  have hspends := hleaves.spends
  cases q with
  | spent identity =>
      obtain ⟨⟨entry, hentry, hkey, rfl⟩, hgone⟩ := hspends
      exact ⟨⟨entry, hentry, hkey, haccepts.symm⟩, hgone⟩
  | left asked email => exact hspends.elim
  | _ => exact haccepts.elim

end Transitions

/-! ## Histories -/

def tokenLedger : Ledger Transition Text := ⟨Transition.Obtains, Transition.Releases⟩

theorem isSimple_tokenLedger : tokenLedger.IsSimple where
  gives := by
    rintro t code token other otherToken ⟨hstep, -⟩ ⟨hstep', -⟩
    rw [hstep, Step.exchange.injEq] at hstep'
    exact hstep'
  takes := by
    rintro t code token other otherToken ⟨hstep, hresult⟩ ⟨hstep', hresult'⟩
    rw [hstep, Step.redeem.injEq] at hstep'
    rw [hresult, Result.text.injEq] at hresult'
    exact ⟨hstep', hresult'⟩

def Stands (state : State) (code token : Text) : Prop :=
  ∃ entry ∈ state.cache.identities.entries, entry.key = code ∧ entry.value.refreshToken = token

theorem turns_make (client : Client) (state : State) (s : Step) :
    tokenLedger.Turns (.make client state s) (Stands state)
      (Stands (Transition.make client state s).after) where
  kept := by
    rintro code token ⟨entry, hentry, rfl, rfl⟩
    exact (entries_make s entry hentry).imp (fun hmem => ⟨entry, hmem, rfl, rfl⟩) id
  taken := by
    intro code token hreleases
    obtain ⟨hstood, hgone⟩ := of_make_releases hreleases
    refine ⟨hstood, ?_⟩
    rintro other ⟨entry, hentry, hkey, -⟩
    exact hgone entry hentry hkey

theorem isBalanced_history (client : Client) {past : List Transition} {state : State}
    (h : tokenLedger.IsBalanced past (Stands state)) (steps : List Step) :
    ∃ last, tokenLedger.IsBalanced (past ++ history client state steps) (Stands last) := by
  induction steps generalizing past state with
  | nil => exact ⟨state, by simpa [history] using h⟩
  | cons s rest ih =>
      obtain ⟨last, hlast⟩ := ih (h.append (turns_make client state s))
      exact ⟨last, by simpa [history] using hlast⟩

/-- Each release of a history has an exchange of its own, earlier and of the same code, that
obtained the refresh token which is released. -/
theorem releases_have_origins (client : Client) (capacity : Nat) (lifetime : Ticks)
    (outcomes : List Http.Outcome) (tokens : TokenSource) (wall : Int) (steps : List Step) :
    let past := history client (.start (.empty capacity lifetime) outcomes tokens wall) steps
    ∃ origin : Nat → Nat,
      (∀ (i : Nat) (t : Transition) code token, past[i]? = some t → t.Releases code token →
        origin i < i ∧ ∃ earlier : Transition, past[origin i]? = some earlier ∧
          earlier.Obtains code token) ∧
      ∀ i j, IsRelease past i → IsRelease past j → origin i = origin j → i = j := by
  have hstart : tokenLedger.IsBalanced [] (Stands
      (.start (.empty capacity lifetime) outcomes tokens wall)) := by
    refine Ledger.isBalanced_nil ?_
    rintro code token ⟨entry, hentry, -⟩
    exact List.not_mem_nil hentry
  obtain ⟨last, hbalanced⟩ := isBalanced_history client hstart steps
  exact hbalanced.hasOrigins isSimple_tokenLedger

end Service

end SignOn

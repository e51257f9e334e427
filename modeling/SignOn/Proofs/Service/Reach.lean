import SignOn.Proofs.Cache.Passage
import SignOn.Proofs.Service.Authorization
import SignOn.Proofs.Service.Conservation
import SignOn.Proofs.Service.Redemption

/-!
# What a service comes to

To the cache, a step of the service is a few steps of the cache.  So what holds of every cache that
is reached holds of the cache of every service, as long as its clock is not set back.  The table
holds only nonces that have a form to be stored in.
-/

namespace SignOn.Service

variable {client : Client} {state : State}

def Step.IsForward : Step → Prop
  | .advance ticks => 0 ≤ ticks
  | _ => True

theorem holds_final (holds : State → Prop) {allowed : Step → Prop}
    (hstep : ∀ state s, holds state → allowed s → holds (step client state s).2)
    (hstart : holds state) {steps : List Step} (hsteps : ∀ s ∈ steps, allowed s) :
    holds (final client state steps) := by
  induction steps generalizing state with
  | nil => exact hstart
  | cons s rest ih =>
      obtain ⟨hs, hrest⟩ := List.forall_mem_cons.mp hsteps
      exact ih (hstep state s hstart hs) hrest

theorem isEncodable_step (s : Step) (h : state.table.IsEncodable) :
    (step client state s).2.table.IsEncodable := by
  cases accounts_make client state s with
  | saves nonce row _ _ htable => exact h.save htable
  | spends nonce row _ _ _ htable =>
      have hrows := Nonce.Table.of_delete? htable
      refine h.of_rows fun row hrow => ?_
      rw [show (step client state s).2.table = _ from hrows] at hrow
      exact (List.mem_filter.mp hrow).1
  | keeps _ _ hrows => exact h.of_rows fun row hrow => hrows ▸ hrow

/-- To the cache, an exchange looks a code up at most, and may then put it. -/
theorem timed_exchange (client : Client) (code : Text) (state : State) :
    ∃ steps : List Cache.Step, (∀ s ∈ steps, s.IsForward) ∧
      ((exchange client code).run state).2.timed = (state.timed.run steps).2 := by
  have hends := exchanges client code state
  generalize (exchange client code).run state = ending at hends ⊢
  cases hends with
  | redeemed => exact ⟨[], nofun, rfl⟩
  | found => exact ⟨[.get code], by simp [Cache.Step.IsForward], rfl⟩
  | unidentified => exact ⟨[.get code], by simp [Cache.Step.IsForward], rfl⟩
  | @identified identity =>
      exact ⟨[.get code, .put code identity], by simp [Cache.Step.IsForward], rfl⟩
  | @full identity =>
      exact ⟨[.get code, .put code identity], by simp [Cache.Step.IsForward], rfl⟩

theorem timed_authorize (client : Client) (state : State) :
    ((authorize client).run state).2.timed = state.timed := by
  have hends := authorizes client state
  generalize (authorize client).run state = ending at hends ⊢
  cases hends <;> rfl

theorem timed_redeem (h : state.table.IsEncodable) (code : Text) :
    ∃ steps : List Cache.Step, (∀ s ∈ steps, s.IsForward) ∧
      ((redeem code).run state).2.timed = (state.timed.run steps).2 := by
  have hends := redeems h code
  generalize (redeem code).run state = ending at hends ⊢
  cases hends with
  | initiated => exact ⟨[], nofun, rfl⟩
  | redeemed => exact ⟨[], nofun, rfl⟩
  | @settled entry result table hentry =>
      have hphase : state.timed.phase code = .exchanged :=
        isSome_identity?_iff.mp (Option.isSome_iff_exists.mpr ⟨entry, hentry⟩)
      have htake : state.timed.step (.take code 0) =
          (.identity (some entry.value), state.timed.taken code) := by
        rw [Cache.Timed.take_eq, Cache.Timed.pass_zero, hphase, hentry]
      refine ⟨[.take code 0], by simp [Cache.Step.IsForward], ?_⟩
      exact (congrArg Prod.snd htake).symm

theorem timed_step (client : Client) (h : state.table.IsEncodable) (s : Step) :
    ∃ steps : List Cache.Step, (s.IsForward → ∀ x ∈ steps, x.IsForward) ∧
      (step client state s).2.timed = (state.timed.run steps).2 := by
  cases s with
  | authorize => exact ⟨[], nofun, timed_authorize client state⟩
  | exchange code =>
      obtain ⟨steps, hforward, htimed⟩ := timed_exchange client code state
      exact ⟨steps, fun _ => hforward, htimed⟩
  | redeem code =>
      obtain ⟨steps, hforward, htimed⟩ := timed_redeem h code
      exact ⟨steps, fun _ => hforward, htimed⟩
  | saveNonce nonce =>
      refine ⟨[], nofun, ?_⟩
      change ((saveNonce nonce).run state).2.timed = state.timed
      rw [run_saveNonce]
      split <;> rfl
  | peek code => exact ⟨[.get code], by simp [Cache.Step.IsForward], rfl⟩
  | invalidate code => exact ⟨[.invalidate code], by simp [Cache.Step.IsForward], rfl⟩
  | advance ticks => exact ⟨[.advance ticks], by simp [Cache.Step.IsForward, Step.IsForward], rfl⟩
  | _ => exact ⟨[], nofun, rfl⟩

/-- The cache has its capacity and lifetime still, and what is stored has a form. -/
structure IsReached (capacity : Nat) (lifetime : Ticks) (state : State) : Prop where
  shape : state.cache.shape = (Cache.empty capacity lifetime).shape
  encodable : state.table.IsEncodable

theorem IsReached.step {capacity : Nat} {lifetime : Ticks} (h : IsReached capacity lifetime state)
    (s : Step) : IsReached capacity lifetime (step client state s).2 := by
  refine ⟨?_, isEncodable_step s h.encodable⟩
  obtain ⟨steps, -, htimed⟩ := timed_step client h.encodable s
  have hrun : ∀ timed : Cache.Timed, (timed.run steps).2.cache.shape = timed.cache.shape := by
    clear htimed
    induction steps with
    | nil => exact fun _ => rfl
    | cons x rest ih => exact fun timed => (ih (timed.step x).2).trans (timed.shape_step x)
  rw [← h.shape]
  exact (congrArg (·.cache.shape) htimed).trans (hrun state.timed)

structure IsSound (state : State) : Prop where
  timed : state.timed.IsSound
  encodable : state.table.IsEncodable

theorem IsSound.step (h : IsSound state) {s : Step} (hs : s.IsForward) :
    IsSound (Service.step client state s).2 := by
  obtain ⟨steps, hforward, htimed⟩ := timed_step client h.encodable s
  exact ⟨htimed ▸ h.timed.run (hforward hs), isEncodable_step s h.encodable⟩

section Reach

variable (client : Client) (capacity : Nat) (lifetime : Ticks) (outcomes : List Http.Outcome)
  (tokens : TokenSource) (wall : Int)

theorem isReached_final (steps : List Step) :
    IsReached capacity lifetime
      (final client (.start (.empty capacity lifetime) outcomes tokens wall) steps) :=
  holds_final (IsReached capacity lifetime) (fun _ s h _ => h.step s)
    ⟨rfl, Nonce.Table.isEncodable_empty⟩ fun s (_ : s ∈ steps) => trivial

theorem isSound_final (hcapacity : 1 ≤ capacity) {steps : List Step}
    (hsteps : ∀ s ∈ steps, s.IsForward) :
    IsSound (final client (.start (.empty capacity lifetime) outcomes tokens wall) steps) := by
  have hstart : IsSound (.start (.empty capacity lifetime) outcomes tokens wall) :=
    ⟨Cache.Timed.isSound_start hcapacity lifetime, Nonce.Table.isEncodable_empty⟩
  exact holds_final IsSound (fun _ _ h hs => h.step hs) hstart hsteps

end Reach

/-- A code has no identity in the cache, live or not. -/
def Lacks (code : Text) (state : State) : Prop :=
  ∀ entry ∈ state.cache.identities.entries, entry.key ≠ code

def Transition.Exchanges (t : Transition) (code : Text) : Prop :=
  t.step = .exchange code ∧ ∃ email, t.result = .text email

theorem entries_exchange {code : Text} {entry : Cache.Entry Identity}
    (h : entry ∈ ((exchange client code).run state).2.cache.identities.entries) :
    entry ∈ state.cache.identities.entries ∨
      entry.key = code ∧ ∃ email, ((exchange client code).run state).1 = .ok email := by
  have hends := exchanges client code state
  generalize (exchange client code).run state = ending at hends h ⊢
  cases hends with
  | redeemed => exact .inl h
  | found => exact .inl (Cache.Shelf.mem_read h)
  | unidentified => exact .inl (Cache.Shelf.mem_read h)
  | identified =>
      rcases Cache.Shelf.mem_write h with hold | ⟨-, hkey, -⟩
      · exact .inl (Cache.Shelf.mem_read hold)
      · exact .inr ⟨hkey, _, rfl⟩
  | full _ _ hfull =>
      rcases Cache.Shelf.mem_write h with hold | ⟨htaken, -⟩
      · exact .inl (Cache.Shelf.mem_read hold)
      · have htook := htaken.symm.trans (fst_put_asked state code _ _ _)
        simp [hfull] at htook

theorem Lacks.step {code : Text} (h : Lacks code state) (client : Client) (s : Step) :
    Lacks code (Transition.make client state s).after ∨
      (Transition.make client state s).Exchanges code := by
  by_cases hexchanges : (Transition.make client state s).Exchanges code
  · exact .inr hexchanges
  · refine .inl fun entry hentry hkey => ?_
    cases s with
    | exchange other =>
        rcases entries_exchange hentry with hold | ⟨hother, email, hok⟩
        · exact h entry hold hkey
        · refine hexchanges ⟨?_, email, ?_⟩
          · rw [← hkey, hother]
            rfl
          · change Result.ofRun ((exchange client other).run state).1 = _
            rw [hok]
            rfl
    | _ =>
        rcases entries_make _ entry hentry with hold | ⟨hstep, -⟩
        · exact h entry hold hkey
        · contradiction

/-- A code without an identity releases nothing until it is exchanged anew. -/
theorem Lacks.exchanged_before {code : Text} (h : Lacks code state) (steps : List Step) {i : Nat}
    {t : Transition} {token : Text} (ht : (history client state steps)[i]? = some t)
    (hreleases : t.Releases code token) :
    ∃ j < i, ∃ earlier : Transition,
      (history client state steps)[j]? = some earlier ∧ earlier.Exchanges code := by
  -- The code goes on lacking an identity up to the first exchange of it that succeeds.
  induction steps generalizing state i with
  | nil => simp [history] at ht
  | cons s rest ih =>
      cases i with
      | zero =>
          obtain rfl : Transition.make client state s = t := by simpa [history] using ht
          obtain ⟨⟨entry, hentry, hkey, -⟩, -⟩ := of_make_releases hreleases
          exact absurd hkey (h entry hentry)
      | succ i =>
          rcases h.step client s with hlacks | hexchanges
          · obtain ⟨j, hj, earlier, hearlier, hexchanges⟩ :=
              ih hlacks (by simpa [history] using ht)
            exact ⟨j + 1, Nat.succ_lt_succ hj, earlier, by simpa [history] using hearlier,
              hexchanges⟩
          · exact ⟨0, Nat.succ_pos i, _, rfl, hexchanges⟩

end SignOn.Service

import SignOn.Proofs.Flow.Dialogue
import SignOn.Proofs.Interleaved.Reopening
import SignOn.Proofs.Ledger
import SignOn.Proofs.Service.Sample

/-!
# What is stored is withdrawn once

Whatever the schedule, each redemption that gets past its check takes an identity away that one
exchange of the code has stored, and no two take the same.
-/

namespace SignOn.Service

open ExchangeLock (Visit)

namespace Moment

def Stores (moment : Moment) (code : Text) (identity : Identity) : Prop :=
  ∃ n, moment.event? = some ⟨n, .store code identity, true⟩

/-- A redemption gets past its check of a code, and takes the identity away. -/
def Withdraws (moment : Moment) (n : Nat) (code : Text) (identity : Identity) : Prop :=
  moment.event? = some ⟨n, .withdraw code, some identity⟩

end Moment

variable {client : Client} {run after : Interleaved} {seats later : Nat → Seat}
  {visits : List Visit} {move : Move} {past : List Moment}

theorem event?_call {n : Nat} {action : Action} {next : action.Answer → Flow Text}
    (h : run.tasks[n]? = some (.ready (.act action next))) :
    Moment.event? ⟨run, .proceed n⟩ = some ⟨n, action, (run.state.perform action).1⟩ := by
  simp only [Moment.event?, h]

theorem event?_resume {n : Nat} {action : Action} {answer : action.Answer}
    {next : action.Answer → Flow Text}
    (h : run.tasks[n]? = some (.called action answer next)) :
    Moment.event? ⟨run, .proceed n⟩ = none := by
  simp only [Moment.event?, h]

def identityLedger : Ledger Moment Identity where
  gives := Moment.Stores
  takes moment code identity := ∃ n, moment.Withdraws n code identity

theorem isSimple_identityLedger : identityLedger.IsSimple where
  gives := by
    rintro moment code identity other otherIdentity ⟨n, h⟩ ⟨m, h'⟩
    cases h.symm.trans h'
    rfl
  takes := by
    rintro moment code identity other otherIdentity ⟨n, h⟩ ⟨m, h'⟩
    cases Eq.trans (Eq.symm h) h'
    exact ⟨rfl, rfl⟩

/-- An identity stands in the cache for a code, live or not. -/
def IsKept (state : State) (code : Text) (identity : Identity) : Prop :=
  ∃ entry ∈ state.cache.identities.entries, entry.key = code ∧ entry.value = identity

theorem turns_moved (h : Moved client run seats move after later) :
    identityLedger.Turns ⟨run, move⟩ (IsKept run.state) (IsKept after.state) := by
  cases h with
  | begin call => exact ⟨fun _ _ hkept => .inl hkept, nofun⟩
  | advance ticks => exact ⟨fun _ _ hkept => .inl hkept, nofun⟩
  | resume htask hstate htasks =>
      refine ⟨fun _ _ hkept => .inl (hstate ▸ hkept), ?_⟩
      rintro code identity ⟨n, hevent⟩
      exact nomatch (event?_resume htask).symm.trans hevent
  | @call n action next q after htask hturn hprogress hstate htasks =>
      have hevent := event?_call htask
      constructor
      · rintro code identity ⟨entry, hentry, rfl, rfl⟩
        rw [hstate] at hentry
        rcases State.mem_identities_perform hentry with hold | ⟨rfl, htaken⟩
        · exact .inl ⟨entry, hold, rfl, rfl⟩
        · refine .inr ⟨n, hevent.trans ?_⟩
          rw [← htaken]
          rfl
      · rintro code identity ⟨m, hwithdraws⟩
        have heq := Option.some.inj (hevent.symm.trans hwithdraws)
        obtain ⟨rfl, haction, hanswer⟩ := Event.mk.inj heq
        subst haction
        obtain ⟨hkept, hgone⟩ := Cache.Shelf.of_remove_eq_some (eq_of_heq hanswer)
        refine ⟨hkept, ?_⟩
        rintro other ⟨entry, hentry, hkey, -⟩
        rw [hstate] at hentry
        exact hgone entry hentry hkey

def Point.taken? : Point → Option Identity
  | withdrawn identity | spent identity => some identity
  | _ => none

theorem Progress.taken? {code : Text} {p q : Point} {action : Action} {answer : action.Answer}
    {identity : Identity} (h : Progress code p action answer q) (hq : q.taken? = some identity)
    (n : Nat) :
    p.taken? = some identity ∨
      (⟨n, action, answer⟩ : Event) = ⟨n, .withdraw code, some identity⟩ := by
  cases h with
  | withdraw other =>
      obtain rfl := Option.some.inj hq
      exact .inr rfl
  | leave hleaving => contradiction
  | _ => exact .inl hq

/-- Each redemption that has got past its check has withdrawn what it took. -/
def HaveWithdrawn (past : List Moment) (run : Interleaved) (seats : Nat → Seat) : Prop :=
  ∀ (n : Nat) task identity, run.tasks[n]? = some task → (seats n).point.taken? = some identity →
    ∃ moment ∈ past, moment.Withdraws n (seats n).code identity

theorem HaveWithdrawn.moved (h : HaveWithdrawn past run seats)
    (hmoved : Moved client run seats move after later) :
    HaveWithdrawn (past ++ [⟨run, move⟩]) after later := by
  intro m task identity hm htaken
  have hkept : later m = seats m → (∃ old, run.tasks[m]? = some old) →
      ∃ moment ∈ past ++ [⟨run, move⟩], moment.Withdraws m (later m).code identity := by
    rintro hseat ⟨old, hold⟩
    rw [hseat] at htaken ⊢
    obtain ⟨moment, hmoment, hwithdraws⟩ := h m old identity hold htaken
    exact ⟨moment, List.mem_append_left _ hmoment, hwithdraws⟩
  rcases hmoved.task_cases hm with ⟨call, hseat⟩ | ⟨hseat, hold⟩ |
    ⟨action, next, q, rfl, htask, hprogress, hseat, -⟩ | ⟨action, answer, next, -, hold, hseat, -⟩
  · rw [hseat] at htaken
    cases call <;> contradiction
  · exact hkept hseat ⟨task, hold⟩
  · rw [hseat] at htaken ⊢
    rcases hprogress.taken? htaken m with hbefore | hevent
    · obtain ⟨moment, hmoment, hwithdraws⟩ := h m _ identity htask hbefore
      exact ⟨moment, List.mem_append_left _ hmoment, hwithdraws⟩
    · exact ⟨_, List.mem_append_right _ (List.mem_singleton_self _),
        (event?_call htask).trans (congrArg some hevent)⟩
  · exact hkept hseat ⟨_, hold⟩

theorem HaveWithdrawn.of_released (h : HaveWithdrawn past run seats) (hcast : Cast past run seats)
    (hseated : Seated run seats visits) {n : Nat} {code token : Text}
    (hcall : (begun past)[n]? = some (.redeem code))
    (htask : run.tasks[n]? = some (.ready (.done (.ok token)))) :
    ∃ moment ∈ past, ∃ identity, moment.Withdraws n code identity ∧
      identity.refreshToken = token := by
  obtain ⟨hcode, hkind⟩ := hcast.calls n _ hcall
  have haccepts : (seats n).point.Accepts (.ok token) := hseated.holds n _ htask
  have htaken : ∃ identity, (seats n).point.taken? = some identity ∧
      identity.refreshToken = token := by
    generalize (seats n).point = p at haccepts hkind
    cases p with
    | spent identity => exact ⟨identity, rfl, haccepts.symm⟩
    | left asked email => contradiction
    | _ => exact haccepts.elim
  obtain ⟨identity, htaken, htoken⟩ := htaken
  obtain ⟨moment, hmoment, hwithdraws⟩ := h n _ identity htask htaken
  rw [hcode] at hwithdraws
  exact ⟨moment, hmoment, identity, hwithdraws, htoken⟩

def IsWithdrawal (past : List Moment) (i : Nat) : Prop :=
  ∃ (moment : Moment) (n : Nat) (code : Text) (identity : Identity),
    past[i]? = some moment ∧ moment.Withdraws n code identity

structure IsOrderly (past : List Moment) (run : Interleaved) (seats : Nat → Seat) : Prop where
  vouches : Vouches run seats
  cast : Cast past run seats
  withdrawn : HaveWithdrawn past run seats
  balanced : identityLedger.IsBalanced past (IsKept run.state)

theorem isOrderly_start {initial : State} {capacity : Nat} {lifetime : Ticks}
    (hcache : initial.cache = .empty capacity lifetime) (seats : Nat → Seat) :
    IsOrderly [] (.start initial) seats where
  vouches := by
    refine vouches_start initial seats fun code hidentity => ?_
    rw [State.hasIdentity, hcache] at hidentity
    contradiction
  cast := cast_start initial seats
  withdrawn n task identity hn := by simp [Interleaved.start] at hn
  balanced := by
    refine Ledger.isBalanced_nil ?_
    rintro code identity ⟨entry, hentry, -⟩
    rw [Interleaved.start, hcache] at hentry
    exact List.not_mem_nil hentry

theorem IsOrderly.moved (h : IsOrderly past run seats) (hseated : Seated run seats visits)
    (hmoved : Moved client run seats move after later) :
    IsOrderly (past ++ [⟨run, move⟩]) after later where
  vouches := h.vouches.moved hseated hmoved
  cast := h.cast.moved hmoved
  withdrawn := h.withdrawn.moved hmoved
  balanced := h.balanced.append (turns_moved hmoved)

/-- Exchanges and redemptions side by side, on a cache that is empty at first, never reopen a code
that is redeemed.  Whoever is about to store an identity for a code finds the code without identity
and marker; a code that is redeemed stops being so only as its marker ends or is evicted; and to
each redemption that gets past its check belongs a storing of its own. -/
theorem exchanges_never_reopen {initial : State} {capacity : Nat} {lifetime : Ticks}
    (hcache : initial.cache = .empty capacity lifetime) (h : Reaches client initial past run) :
    (∀ (n : Nat) action next code, run.tasks[n]? = some (.ready (.act action next)) →
      isPut code action → run.state.phase code = .initiated) ∧
    (∀ (move : Move) after code, run.step? (move.step client) = some after →
      run.state.phase code = .redeemed → after.state.phase code ≠ .redeemed →
      Expires run move code ∨ IsEvicted run move code) ∧
    (∀ (n : Nat) code token, (begun past)[n]? = some (.redeem code) →
      run.tasks[n]? = some (.ready (.done (.ok token))) →
      ∃ moment ∈ past, ∃ identity, moment.Withdraws n code identity ∧
        identity.refreshToken = token) ∧
    ∃ origin : Nat → Nat,
      (∀ (i : Nat) moment code identity, past[i]? = some moment →
        (∃ n, moment.Withdraws n code identity) →
        origin i < i ∧ ∃ earlier : Moment, past[origin i]? = some earlier ∧
          earlier.Stores code identity) ∧
      ∀ i j, IsWithdrawal past i → IsWithdrawal past j → origin i = origin j → i = j := by
  obtain ⟨seats, visits, hseated, horderly⟩ := h.exists_seats (isOrderly_start hcache)
    fun _ _ _ _ _ _ _ _ hseated _ hmoved hbefore => hbefore.moved hseated hmoved
  refine ⟨fun n action next code htask hput => ?_, fun move after code hstep hphase hleft => ?_,
    fun n code token hcall htask => ?_, ?_⟩
  · exact horderly.vouches.initiated_of_isPut hseated htask hput
  · obtain ⟨later, visits', hmoved, -⟩ := hseated.step hstep
    exact horderly.vouches.leaves_redeemed hseated hmoved hphase hleft
  · exact horderly.withdrawn.of_released horderly.cast hseated hcall htask
  · obtain ⟨origin, horigin, hinjective⟩ := horderly.balanced.hasOrigins isSimple_identityLedger
    refine ⟨origin, horigin, fun i j hi hj => hinjective i j ?_ ?_⟩
    · obtain ⟨moment, n, code, identity, hmoment, hwithdraws⟩ := hi
      exact ⟨moment, code, identity, hmoment, n, hwithdraws⟩
    · obtain ⟨moment, n, code, identity, hmoment, hwithdraws⟩ := hj
      exact ⟨moment, code, identity, hmoment, n, hwithdraws⟩

def sampleState : State where
  outcomes := [.answered ⟨200, [], Utf8.encode sampleTokens⟩]
  sent := []
  tokens := ⟨[], 0⟩
  wall := 0
  clock := 0
  document := some ⟨"https://i", "https://i/a", "https://i/t", none, none, none⟩
  cache := .empty 1 5
  table := { rows := [⟨"n", 0⟩] }

def sampleMoves : List Move :=
  .begin (.exchange sampleCode) :: .begin (.redeem sampleCode) ::
    (List.replicate 12 (.proceed 0) ++ List.replicate 7 (.proceed 1))

theorem withdraws_in_sample :
    let past := moments sampleClient (.start sampleState) sampleMoves
    ∃ run, Reaches sampleClient sampleState past run ∧
      run.state.phase sampleCode = .redeemed ∧
      ∃ moment ∈ past, ∃ identity, moment.Withdraws 1 sampleCode identity ∧
        identity.refreshToken = "r" := by
  have hruns : ∃ run ∈ (Interleaved.start sampleState).run?
      (sampleMoves.map (Move.step sampleClient)),
      run.state.phase sampleCode = .redeemed ∧ value? run 1 = some "r" := by decide +kernel
  obtain ⟨run, hrun, hredeemed, hvalue⟩ := hruns
  have h : Reaches sampleClient sampleState _ run := reaches_moments hrun
  have hcall : (begun (moments sampleClient (.start sampleState) sampleMoves))[1]? =
      some (.redeem sampleCode) := by decide +kernel
  exact ⟨run, h, hredeemed,
    (exchanges_never_reopen rfl h).2.2.1 1 _ _ hcall (value?_eq_some.mp hvalue)⟩

end SignOn.Service

import SignOn.Proofs.Flow.Dialogue
import SignOn.Proofs.Interleaved.Reopening

/-!
# Who asks for tokens

Only an exchange that has entered asks the provider for tokens, and it does so once.  An exchange
that has not yet entered is outside: it neither asks nor stores, and stays outside until it is let
in.
-/

namespace SignOn.Service

open ExchangeLock (Visit)

def asks (code : Text) (requests : List Http.Request) : Nat :=
  requests.countP fun request => request.code? = some code

/-- A task has asked for tokens for a code, and waits for the answer. -/
def IsOutstanding (run : Interleaved) (code : Text) (n : Nat) : Prop :=
  ∃ request answer next, run.tasks[n]? = some (.called (.send request) answer next) ∧
    request.code? = some code

def Moment.entrance? (code : Text) (moment : Moment) : Option Nat :=
  match moment.move with
  | .proceed n =>
      match moment.run.tasks[n]? with
      | some (.called (.enter other) _ _) => if other = code then some n else none
      | _ => none
  | _ => none

def firstEntrance? (code : Text) (past : List Moment) : Option Nat :=
  past.findSome? (Moment.entrance? code)

variable {client : Client} {initial : State} {run after : Interleaved} {seats later : Nat → Seat}
  {visits : List Visit} {move : Move} {past : List Moment} {code : Text} {n first : Nat}

theorem Seated.eq_of_isOutstanding (h : Seated run seats visits) {m : Nat}
    (hm : IsOutstanding run code m) (hn : IsOutstanding run code n) : m = n := by
  have hseat : ∀ k, IsOutstanding run code k → ∃ task, run.tasks[k]? = some task ∧
      (seats k).code = code ∧ (seats k).point.isVisiting ∧ task.isEntering = false := by
    rintro k ⟨request, answer, next, htask, hcode⟩
    obtain ⟨-, ⟨p, hprogress⟩, -⟩ := h.holds k _ htask
    refine ⟨_, htask, ?_⟩
    generalize (seats k).point = q at hprogress ⊢
    cases hprogress with
    | fetch hopen hnone => exact nomatch hnone.symm.trans hcode
    | ask hsome => exact ⟨Option.some.inj (hsome.symm.trans hcode), rfl, rfl⟩
  obtain ⟨task, htask, hcode, hvisiting, hentered⟩ := hseat m hm
  obtain ⟨other, hother, hcode', hvisiting', hentered'⟩ := hseat n hn
  exact h.eq_of_entered htask hother (hcode.trans hcode'.symm) hvisiting hvisiting' hentered
    hentered'

def Point.asks : Point → Nat
  | asked .. | checked .. | storing .. | stored _ | full | left true _ => 1
  | _ => 0

theorem Point.asks_of_leaving? {p : Point} {asked : Bool} {email : Option Text}
    (h : p.leaving? = some (asked, email)) : p.asks = (left asked email).asks := by
  cases p <;> cases h <;> rfl

theorem Progress.asks {other : Text} {p q : Point} {action : Action} {answer : action.Answer}
    (h : Progress other p action answer q) (code : Text) :
    Service.asks code action.requests + (if other = code then p.asks else 0) =
      if other = code then q.asks else 0 := by
  cases h with
  | fetch hopen hnone => simp [Service.asks, Action.requests, hnone]
  | ask hsome => simp [Service.asks, Action.requests, hsome, Point.asks]
  | leave hleaving => simp [Service.asks, Action.requests, Point.asks_of_leaving? hleaving]
  | _ => simp [Service.asks, Action.requests, Point.asks]

theorem asks_perform {other : Text} {p q : Point} {action : Action} {state : State}
    (h : Progress other p action (state.perform action).1 q) (code : Text) :
    asks code (state.perform action).2.sent + (if other = code then p.asks else 0) =
      asks code state.sent + if other = code then q.asks else 0 := by
  have hprogress := h.asks code
  rw [State.sent_perform, asks, List.countP_append]
  simp only [asks] at hprogress ⊢
  omega

/-- A task is an exchange that has not yet entered, or a redemption. -/
def IsOutside (task : Task) (seat : Seat) : Prop :=
  seat.point.isExchanging = false ∨ seat.point = .arriving ∨ task.isEntering

theorem IsOutside.call {p q : Point} {action : Action} {answer : action.Answer}
    {next : action.Answer → Flow Text} {other : Text}
    (h : IsOutside (.ready (.act action next)) ⟨other, p⟩)
    (hprogress : Progress other p action answer q) :
    IsOutside (afterCall action answer next) ⟨other, q⟩ ∧ p.asks = q.asks ∧
      ∀ key identity, action ≠ .store key identity := by
  rcases h with hkind | harriving | hentering
  · have hq := hprogress.isExchanging.trans hkind
    refine ⟨.inl hq, ?_, ?_⟩
    · have hasks : ∀ point : Point, point.isExchanging = false → point.asks = 0 := by
        intro point hpoint
        cases point <;> first | rfl | contradiction
      rw [hasks p hkind, hasks q hq]
    · rintro key identity rfl
      cases hprogress <;> contradiction
  · obtain rfl : p = .arriving := harriving
    cases hprogress with
    | enter => exact ⟨.inr (.inr rfl), rfl, nofun⟩
    | document hopen => contradiction
    | keep hopen => contradiction
    | fetch hopen => contradiction
    | leave hleaving => contradiction
  · contradiction

theorem Moved.quiet (h : Moved client run seats move after later)
    (hcall : ∀ n action next q, move = .proceed n →
      run.tasks[n]? = some (.ready (.act action next)) → (seats n).code = code →
      Progress (seats n).code (seats n).point action (run.state.perform action).1 q →
      (seats n).point.asks = q.asks ∧ ∀ key identity, action ≠ .store key identity) :
    (after.state.hasIdentity code → run.state.hasIdentity code) ∧
      asks code after.state.sent = asks code run.state.sent ∧
      ∀ entry ∈ after.state.cache.identities.entries, entry.key = code →
        entry ∈ run.state.cache.identities.entries := by
  cases h with
  | begin call => exact ⟨id, rfl, fun _ hentry _ => hentry⟩
  | resume htask hstate htasks =>
      rw [hstate]
      exact ⟨id, rfl, fun _ hentry _ => hentry⟩
  | advance ticks =>
      have hle : run.state.clock ≤ run.state.clock + ticks :=
        Int.le_add_of_nonneg_right (Int.natCast_nonneg ticks)
      exact ⟨Cache.Shelf.contains_of_le _ hle, rfl, fun _ hentry _ => hentry⟩
  | @call n action next q after htask hturn hprogress hstate htasks =>
      have hstore : ∀ identity, action ≠ .store code identity := by
        intro identity haction
        obtain ⟨hcode, -⟩ := of_store hprogress haction
        exact (hcall n action next q rfl htask hcode.symm hprogress).2 code identity haction
      have hasks := asks_perform hprogress code
      rw [hstate]
      refine ⟨fun hidentity => ?_, ?_, fun entry hentry hkey => ?_⟩
      · rcases State.hasIdentity_perform hidentity with hold | ⟨identity, haction⟩
        · exact hold
        · exact absurd haction (hstore identity)
      · by_cases hcode : (seats n).code = code
        · obtain ⟨hsame, -⟩ := hcall n action next q rfl htask hcode hprogress
          simp only [hcode, if_true] at hasks
          omega
        · simpa [hcode] using hasks
      · rcases State.mem_identities_perform hentry with hold | ⟨haction, -⟩
        · exact hold
        · rw [hkey] at haction
          exact absurd haction (hstore _)

theorem entrance?_resume {action : Action} {answer : action.Answer}
    {next : action.Answer → Flow Text} (hseated : Seated run seats visits)
    (htask : run.tasks[n]? = some (.called action answer next))
    (hentering : (Task.called action answer next).isEntering) :
    Moment.entrance? (seats n).code ⟨run, .proceed n⟩ = some n := by
  obtain ⟨-, ⟨p, hprogress⟩, -⟩ := hseated.holds n _ htask
  cases action with
  | enter other =>
      obtain ⟨rfl, -, -⟩ := hprogress.isVisiting
      simp [Moment.entrance?, htask]
  | _ => contradiction

theorem of_entrance? (h : Moment.entrance? code ⟨run, move⟩ = some n) :
    move = .proceed n ∧
      ∃ answer next, run.tasks[n]? = some (.called (.enter code) answer next) := by
  unfold Moment.entrance? at h
  split at h
  next m hmove =>
    split at h
    next other answer next htask =>
      split at h
      next hcode =>
        subst hcode
        obtain rfl := Option.some.inj h
        exact ⟨hmove, answer, next, htask⟩
      next => contradiction
    next => contradiction
  next => contradiction

theorem isOutside_moved (hseated : Seated run seats visits)
    (h : Moved client run seats move after later) {m : Nat} {task : Task}
    (hm : after.tasks[m]? = some task) (hcode : (later m).code = code)
    (houtside : ∀ task, run.tasks[m]? = some task → (seats m).code = code →
      IsOutside task (seats m))
    (hentrance : Moment.entrance? code ⟨run, move⟩ ≠ some m) : IsOutside task (later m) := by
  rcases h.task_cases hm with ⟨call, hseat⟩ | ⟨hseat, hold⟩ |
    ⟨action, next, q, -, htask, hprogress, hseat, rfl⟩ |
    ⟨action, answer, next, rfl, htask, hseat, rfl⟩
  · rw [hseat]
    cases call with
    | exchange code => exact .inr (.inl rfl)
    | redeem code => exact .inl rfl
  · rw [hseat] at hcode ⊢
    exact houtside task hold hcode
  · rw [hseat] at hcode ⊢
    exact (IsOutside.call (houtside _ htask hcode) hprogress).1
  · rw [hseat] at hcode ⊢
    rcases houtside _ htask hcode with hkind | harriving | hentering
    · exact .inl hkind
    · exact .inr (.inl harriving)
    · exact absurd (hcode ▸ entrance?_resume hseated htask hentering) hentrance

end SignOn.Service

import SignOn.Proofs.Interleaved.Asking
import SignOn.Proofs.Interleaved.Withdrawals

/-!
# How far the exchanges of a code have come

Until the first exchange of a code enters, all exchanges of the code are outside; while it is at
work, all others are; and if it has stored an identity, all others find that, as long as the code
stays exchanged.
-/

namespace SignOn.Service

open ExchangeLock (Visit)

def Moment.isStoring (code : Text) (moment : Moment) : Bool :=
  match moment.event? with
  | some ⟨_, .store other _, true⟩ => other = code
  | _ => false

def StaysExchanged (code : Text) (past : List Moment) : Prop :=
  past.Pairwise fun earlier moment =>
    earlier.isStoring code → moment.run.state.phase code = .exchanged

instance (code : Text) (past : List Moment) : Decidable (StaysExchanged code past) :=
  inferInstanceAs (Decidable (past.Pairwise _))

variable {client : Client} {initial : State} {run after : Interleaved} {seats later : Nat → Seat}
  {visits : List Visit} {move : Move} {past : List Moment} {code : Text} {n first : Nat}

def Point.isWorking : Point → Bool
  | checking | unexchanged | unmarked | asking | asked .. | checked .. | storing .. => true
  | _ => false

def Point.isFailed : Point → Bool
  | refused | full | left _ none => true
  | _ => false

def Point.IsFinding (identity : Identity) : Point → Prop
  | checking | unmarked => True
  | found other => other = identity
  | left false (some email) => email = identity.email
  | _ => False

structure IsUntouched (code : Text) (initial : State) (run : Interleaved) (seats : Nat → Seat) :
    Prop where
  outside : ∀ (n : Nat) task, run.tasks[n]? = some task → (seats n).code = code →
    IsOutside task (seats n)
  identity : ¬ run.state.hasIdentity code
  asks : asks code run.state.sent = asks code initial.sent

structure IsWorking (code : Text) (initial : State) (first : Nat) (run : Interleaved)
    (seats : Nat → Seat) : Prop where
  task : ∃ task, run.tasks[first]? = some task ∧ task.isEntering = false
  own : (seats first).code = code
  point : (seats first).point.isWorking
  outside : ∀ (n : Nat) task, n ≠ first → run.tasks[n]? = some task → (seats n).code = code →
    IsOutside task (seats n)
  identity : ¬ run.state.hasIdentity code
  asks : asks code run.state.sent = asks code initial.sent + (seats first).point.asks

structure IsSettled (code : Text) (initial : State) (first : Nat) (identity : Identity)
    (past : List Moment) (run : Interleaved) (seats : Nat → Seat) : Prop where
  stored : ∃ moment ∈ past, moment.isStoring code
  task : ∃ task, run.tasks[first]? = some task
  own : (seats first).code = code
  point : (seats first).point = .stored identity ∨
    (seats first).point = .left true (some identity.email)
  finding : ∀ (n : Nat) task, n ≠ first → run.tasks[n]? = some task → (seats n).code = code →
    IsOutside task (seats n) ∨ (seats n).point.IsFinding identity
  kept : ∀ entry ∈ run.state.cache.identities.entries, entry.key = code → entry.value = identity
  asks : asks code run.state.sent = asks code initial.sent + 1

structure IsFailed (first : Nat) (run : Interleaved) (seats : Nat → Seat) : Prop where
  task : ∃ task, run.tasks[first]? = some task
  point : (seats first).point.isFailed

def Stage (code : Text) (initial : State) (past : List Moment) (run : Interleaved)
    (seats : Nat → Seat) : Prop :=
  match firstEntrance? code past with
  | none => IsUntouched code initial run seats
  | some first =>
      IsWorking code initial first run seats ∨
        (∃ identity, IsSettled code initial first identity past run seats) ∨
        IsFailed first run seats

/-! ## Until the first exchange enters -/

theorem IsUntouched.moved (h : IsUntouched code initial run seats)
    (hseated : Seated run seats visits) (hmoved : Moved client run seats move after later)
    (hnone : Moment.entrance? code ⟨run, move⟩ = none) :
    IsUntouched code initial after later := by
  obtain ⟨hidentity, hasks, -⟩ := hmoved.quiet fun n action next q _ htask hcode hprogress =>
    (IsOutside.call (h.outside n _ htask hcode) hprogress).2
  constructor
  case outside =>
    intro m task hm hcode
    refine isOutside_moved hseated hmoved hm hcode (fun old => h.outside m old) ?_
    rw [hnone]
    nofun
  case identity => exact fun hafter => h.identity (hidentity hafter)
  case asks => rw [hasks, h.asks]

theorem IsUntouched.entered (h : IsUntouched code initial run seats)
    (hseated : Seated run seats visits) (hmoved : Moved client run seats move after later)
    (hsome : Moment.entrance? code ⟨run, move⟩ = some first) :
    IsWorking code initial first after later := by
  obtain ⟨rfl, answer, next, htask⟩ := of_entrance? hsome
  obtain ⟨-, ⟨p, hprogress⟩, -⟩ := hseated.holds first _ htask
  obtain ⟨hown, -, hpoint⟩ := hprogress.isVisiting
  cases hmoved with
  | call htask' => exact nomatch htask.symm.trans htask'
  | @resume n action answer' next' after htask' hstate htasks =>
      cases htask.symm.trans htask'
      have hlt := (List.getElem?_eq_some_iff.mp htask).1
      constructor
      case task => exact ⟨_, by rw [htasks, List.getElem?_set_self hlt], rfl⟩
      case own => exact hown.symm
      case point =>
        rw [hpoint]
        rfl
      case outside =>
        intro m task hne hm hcode
        rw [htasks, List.getElem?_set_ne (Ne.symm hne)] at hm
        exact h.outside m task hm hcode
      case identity =>
        rw [hstate]
        exact h.identity
      case asks =>
        rw [hstate, hpoint]
        exact h.asks

/-! ## The first exchange at work -/

theorem working_call {p q : Point} {action : Action} {state : State} (hworking : p.isWorking)
    (hprogress : Progress code p action (state.perform action).1 q)
    (hidentity : ¬ state.hasIdentity code) :
    (q.isWorking ∧ (∀ other, action ≠ .enter other) ∧
        ∀ key identity, action ≠ .store key identity) ∨
      q.isFailed ∨ ∃ identity, q = .stored identity ∧ action = .store code identity ∧
        (state.store code identity).1 = true := by
  generalize hanswer : (state.perform action).1 = answer at hprogress
  cases hprogress with
  | hasIdentity => exact absurd hanswer hidentity
  | find identity =>
      exact nomatch (State.lookUp_eq_none.mpr hidentity).symm.trans hanswer
  | hasNone => exact .inl ⟨rfl, nofun, nofun⟩
  | hasNeither => exact .inl ⟨rfl, nofun, nofun⟩
  | findNone => exact .inl ⟨rfl, nofun, nofun⟩
  | document hopen => exact .inl ⟨hworking, nofun, nofun⟩
  | keep hopen => exact .inl ⟨hworking, nofun, nofun⟩
  | fetch hopen => exact .inl ⟨hworking, nofun, nofun⟩
  | ask => exact .inl ⟨rfl, nofun, nofun⟩
  | check => exact .inl ⟨rfl, nofun, nofun⟩
  | unmark => exact .inl ⟨rfl, nofun, nofun⟩
  | hasMarker => exact .inr (.inl rfl)
  | storeNot => exact .inr (.inl rfl)
  | @leave p asked email hleaving =>
      refine .inr (.inl ?_)
      cases p <;> cases hleaving <;> first | rfl | contradiction
  | store hgranted => exact .inr (.inr ⟨_, rfl, rfl, hanswer⟩)
  | _ => contradiction

theorem Point.isVisiting_of_isWorking {p : Point} (h : p.isWorking) : p.isVisiting := by
  cases p <;> first | rfl | contradiction

theorem value_of_store {state : State} {identity : Identity}
    (h : ¬ state.hasIdentity code) (htaken : (state.store code identity).1 = true) :
    ∀ entry ∈ (state.store code identity).2.cache.identities.entries, entry.key = code →
      entry.value = identity := by
  intro entry hentry hkey
  have hcapacity : state.cache.identities.capacity ≠ 0 := by
    simpa [State.store, Cache.Shelf.write_fst] using htaken
  have hentries := Cache.Shelf.entries_write state.cache.identities state.clock code identity
    hcapacity
  rcases Cache.Shelf.mem_insert (hentries ▸ hentry) with rfl | hold
  · rfl
  · exact absurd ((Cache.Shelf.contains_iff _ _ _).mpr ⟨entry, hold, hkey⟩) h

theorem IsWorking.others (h : IsWorking code initial first run seats)
    (hseated : Seated run seats visits) {visits' : List Visit}
    (hafter : Seated after later visits') (hmoved : Moved client run seats move after later) :
    ∀ (n : Nat) task, n ≠ first → after.tasks[n]? = some task → (later n).code = code →
      IsOutside task (later n) := by
  intro m task hne hm hcode
  refine isOutside_moved hseated hmoved hm hcode (fun old => h.outside m old hne)
    fun hentrance => ?_
  obtain ⟨rfl, answer, next, htask⟩ := of_entrance? hentrance
  obtain ⟨-, ⟨p, hprogress⟩, -⟩ := hseated.holds m _ htask
  obtain ⟨-, -, hpoint⟩ := hprogress.isVisiting
  obtain ⟨old, hold, hentered⟩ := h.task
  cases hmoved with
  | call htask' => exact nomatch htask.symm.trans htask'
  | @resume n action answer' next' after htask' hstate htasks =>
      have hmlt := (List.getElem?_eq_some_iff.mp htask).1
      rw [htasks, List.getElem?_set_self hmlt] at hm
      obtain rfl := Option.some.inj hm
      have hfirst : after.tasks[first]? = some old := by
        rw [htasks, List.getElem?_set_ne hne, hold]
      have hself : after.tasks[m]? = some (.ready (next' answer')) := by
        rw [htasks, List.getElem?_set_self hmlt]
      -- After the move both would be between entering and leaving.
      refine hne (hafter.eq_of_entered hself hfirst (hcode.trans h.own.symm) ?_
        (Point.isVisiting_of_isWorking h.point) rfl hentered)
      rw [hpoint]
      rfl

theorem IsWorking.called (h : IsWorking code initial first run seats) {action : Action}
    {next : action.Answer → Flow Text} {q : Point}
    (hothers : ∀ (n : Nat) task, n ≠ first → after.tasks[n]? = some task →
      (later n).code = code → IsOutside task (later n))
    (htask : run.tasks[first]? = some (.ready (.act action next)))
    (hprogress : Progress (seats first).code (seats first).point action
      (run.state.perform action).1 q)
    (hseat : later first = ⟨(seats first).code, q⟩)
    (htask' : after.tasks[first]? = some (afterCall action (run.state.perform action).1 next))
    (hstate : after.state = (run.state.perform action).2) :
    IsWorking code initial first after later ∨
      (∃ identity,
        IsSettled code initial first identity (past ++ [⟨run, .proceed first⟩]) after later) ∨
      IsFailed first after later := by
  have hasks := asks_perform hprogress code
  rw [h.own] at hprogress hseat hasks
  simp only [if_true] at hasks
  have hbefore := h.asks
  rcases working_call h.point hprogress h.identity with
    ⟨hworking, henter, hstore⟩ | hfailed | ⟨identity, rfl, rfl, htaken⟩
  · left
    constructor
    case task => exact ⟨_, htask', isEntering_afterCall henter⟩
    case own => rw [hseat]
    case point => rwa [hseat]
    case outside => exact hothers
    case identity =>
      rw [hstate]
      intro hidentity
      rcases State.hasIdentity_perform hidentity with hold | ⟨identity, haction⟩
      · exact h.identity hold
      · exact hstore code identity haction
    case asks =>
      rw [hstate, hseat]
      simp only
      omega
  · exact .inr (.inr ⟨⟨_, htask'⟩, by rwa [hseat]⟩)
  · refine .inr (.inl ⟨identity, ?_⟩)
    constructor
    case stored =>
      refine ⟨_, List.mem_append_right _ (List.mem_singleton_self _), ?_⟩
      have hevent := event?_call htask
      rw [show (run.state.perform (.store code identity)).1 = true from htaken] at hevent
      simp [Moment.isStoring, hevent]
    case task => exact ⟨_, htask'⟩
    case own => rw [hseat]
    case point => exact .inl (by rw [hseat])
    case finding => exact fun m other hne hm hcode => .inl (hothers m other hne hm hcode)
    case kept =>
      rw [hstate]
      exact value_of_store h.identity htaken
    case asks =>
      have hone : (Point.stored identity).asks = 1 := rfl
      rw [hstate]
      omega

theorem IsWorking.moved (h : IsWorking code initial first run seats)
    (hseated : Seated run seats visits) {visits' : List Visit}
    (hafter : Seated after later visits') (hmoved : Moved client run seats move after later) :
    IsWorking code initial first after later ∨
      (∃ identity, IsSettled code initial first identity (past ++ [⟨run, move⟩]) after later) ∨
      IsFailed first after later := by
  have hothers := h.others hseated hafter hmoved
  obtain ⟨task, htask, hentered⟩ := h.task
  rcases hmoved.of_task htask with
    ⟨action, next, q, rfl, rfl, hprogress, hseat, htask', hstate⟩ |
    ⟨hseat, ⟨task', htask', hentered'⟩, hcaller⟩
  · exact h.called hothers htask hprogress hseat htask' hstate
  · left
    have houtside : ∀ n action next q, move = .proceed n →
        run.tasks[n]? = some (.ready (.act action next)) → (seats n).code = code →
        Progress (seats n).code (seats n).point action (run.state.perform action).1 q →
        (seats n).point.asks = q.asks ∧ ∀ key identity, action ≠ .store key identity := by
      intro n action next q hmove hready hcode hprogress
      have hne : n ≠ first := by
        intro heq
        rw [heq] at hmove hready
        exact hcaller action next hmove (Option.some.inj (htask.symm.trans hready))
      exact (IsOutside.call (h.outside n _ hne hready hcode) hprogress).2
    obtain ⟨hidentity, hasks, -⟩ := hmoved.quiet houtside
    constructor
    case task => exact ⟨task', htask', hentered' hentered⟩
    case own => rw [hseat, h.own]
    case point =>
      rw [hseat]
      exact h.point
    case outside => exact hothers
    case identity => exact fun hnow => h.identity (hidentity hnow)
    case asks => rw [hasks, h.asks, hseat]

/-! ## An identity that is there to be found -/

theorem exists_of_lookUp {state : State} {identity : Identity}
    (h : (state.lookUp code).1 = some identity) :
    ∃ entry ∈ state.cache.identities.entries, entry.key = code ∧ entry.value = identity := by
  have hread : (state.cache.identities.read state.clock code).1 = some identity := h
  rw [Cache.Shelf.read_fst, Option.map_eq_some_iff] at hread
  obtain ⟨entry, hfind, hvalue⟩ := hread
  have hkey : entry.key = code := by simpa using List.find?_some hfind
  exact ⟨entry, (List.mem_filter.mp (List.mem_of_find?_eq_some hfind)).1, hkey, hvalue⟩

theorem Point.not_isOpen_of_isFinding {p : Point} {identity : Identity}
    (h : p.IsFinding identity) : p.isOpen = false := by
  cases p <;> first | rfl | exact h.elim

theorem finding_call {p q : Point} {action : Action} {state : State} {identity : Identity}
    (hfinding : p.IsFinding identity)
    (hprogress : Progress code p action (state.perform action).1 q)
    (hexchanged : state.hasIdentity code)
    (hkept : ∀ entry ∈ state.cache.identities.entries, entry.key = code →
      entry.value = identity) :
    q.IsFinding identity ∧ p.asks = q.asks ∧ ∀ key other, action ≠ .store key other := by
  generalize hanswer : (state.perform action).1 = answer at hprogress
  cases hprogress with
  | hasIdentity => exact ⟨trivial, rfl, nofun⟩
  | hasNone => exact absurd (hexchanged.symm.trans hanswer) (by decide)
  | find other =>
      obtain ⟨entry, hentry, hkey, rfl⟩ := exists_of_lookUp hanswer
      exact ⟨hkept entry hentry hkey, rfl, nofun⟩
  | findNone => exact absurd hexchanged (State.lookUp_eq_none.mp hanswer)
  | @leave p asked email hleaving =>
      cases p with
      | found other =>
          obtain rfl : other = identity := hfinding
          cases hleaving
          exact ⟨rfl, rfl, nofun⟩
      | checking => contradiction
      | unmarked => contradiction
      | left asked email => contradiction
      | _ => exact hfinding.elim
  | document hopen => exact absurd (Point.not_isOpen_of_isFinding hfinding) (by simp [hopen])
  | keep hopen => exact absurd (Point.not_isOpen_of_isFinding hfinding) (by simp [hopen])
  | fetch hopen => exact absurd (Point.not_isOpen_of_isFinding hfinding) (by simp [hopen])
  | _ => exact hfinding.elim

theorem settled_call {p q : Point} {action : Action} {answer : action.Answer}
    {identity : Identity}
    (hp : p = .stored identity ∨ p = .left true (some identity.email))
    (hprogress : Progress code p action answer q) :
    q = .left true (some identity.email) ∧ p.asks = q.asks ∧
      ∀ key other, action ≠ .store key other := by
  rcases hp with rfl | rfl
  · cases hprogress with
    | leave hleaving =>
        cases hleaving
        exact ⟨rfl, rfl, nofun⟩
    | document hopen => contradiction
    | keep hopen => contradiction
    | fetch hopen => contradiction
  · cases hprogress <;> contradiction

theorem IsSettled.finding_moved {identity : Identity}
    (h : IsSettled code initial first identity past run seats)
    (hseated : Seated run seats visits) (hexchanged : run.state.hasIdentity code)
    (hmoved : Moved client run seats move after later) {m : Nat} {other : Task} (hne : m ≠ first)
    (hm : after.tasks[m]? = some other) (hcode : (later m).code = code) :
    IsOutside other (later m) ∨ (later m).point.IsFinding identity := by
  rcases hmoved.task_cases hm with ⟨call, hseat⟩ | ⟨hseat, hold⟩ |
    ⟨action, next, q, -, hready, hprogress, hseat, rfl⟩ |
    ⟨action, answer, next, -, hcalled, hseat, rfl⟩
  · rw [hseat]
    cases call with
    | exchange code => exact .inl (.inr (.inl rfl))
    | redeem code => exact .inl (.inl rfl)
  · rw [hseat] at hcode ⊢
    exact h.finding m other hne hold hcode
  · rw [hseat] at hcode ⊢
    rcases h.finding m _ hne hready hcode with houtside | hfinding
    · exact .inl (IsOutside.call houtside hprogress).1
    · simp only at hcode
      rw [hcode] at hprogress
      exact .inr (finding_call hfinding hprogress hexchanged h.kept).1
  · rw [hseat] at hcode ⊢
    rcases h.finding m _ hne hcalled hcode with (hkind | harriving | hentering) | hfinding
    · exact .inl (.inl hkind)
    · exact .inl (.inr (.inl harriving))
    · -- The lock is given to this task, which checks the code next.
      right
      rw [Seat.point_of_isEntering (hseated.holds m _ hcalled) hentering]
      trivial
    · exact .inr hfinding

theorem IsSettled.moved {identity : Identity}
    (h : IsSettled code initial first identity past run seats)
    (hseated : Seated run seats visits) (hexchanged : run.state.phase code = .exchanged)
    (hmoved : Moved client run seats move after later) :
    IsSettled code initial first identity (past ++ [⟨run, move⟩]) after later := by
  have hidentity := State.phase_eq_exchanged.mp hexchanged
  obtain ⟨task, htask⟩ := h.task
  obtain ⟨-, hasks, hentries⟩ := hmoved.quiet fun n action next q _ hready hcode hprogress => by
    by_cases hne : n = first
    · rw [hne] at hprogress ⊢
      exact (settled_call h.point hprogress).2
    · rcases h.finding n _ hne hready hcode with houtside | hfinding
      · exact (IsOutside.call houtside hprogress).2
      · rw [hcode] at hprogress
        exact (finding_call hfinding hprogress hidentity h.kept).2
  have hfirst : (∃ task, after.tasks[first]? = some task) ∧ (later first).code = code ∧
      ((later first).point = .stored identity ∨
        (later first).point = .left true (some identity.email)) := by
    rcases hmoved.of_task htask with ⟨action, next, q, -, -, hprogress, hseat, hafter, -⟩ |
      ⟨hseat, ⟨task', hafter, -⟩, -⟩
    · rw [hseat]
      exact ⟨⟨_, hafter⟩, h.own, .inr (settled_call h.point hprogress).1⟩
    · rw [hseat]
      exact ⟨⟨task', hafter⟩, h.own, h.point⟩
  constructor
  case stored =>
    obtain ⟨moment, hmoment, hstores⟩ := h.stored
    exact ⟨moment, List.mem_append_left _ hmoment, hstores⟩
  case task => exact hfirst.1
  case own => exact hfirst.2.1
  case point => exact hfirst.2.2
  case finding =>
    exact fun m other hne hm hcode => h.finding_moved hseated hidentity hmoved hne hm hcode
  case kept => exact fun entry hentry hkey => h.kept entry (hentries entry hentry hkey) hkey
  case asks => rw [hasks, h.asks]

theorem failed_call {p q : Point} {action : Action} {answer : action.Answer} {other : Text}
    (hfailed : p.isFailed) (hprogress : Progress other p action answer q) : q.isFailed := by
  cases hprogress with
  | @leave p asked email hleaving =>
      cases p <;> cases hleaving <;> first | rfl | contradiction
  | document hopen => exact hfailed
  | keep hopen => exact hfailed
  | fetch hopen => exact hfailed
  | _ => contradiction

theorem IsFailed.moved (h : IsFailed first run seats)
    (hmoved : Moved client run seats move after later) : IsFailed first after later := by
  obtain ⟨task, htask⟩ := h.task
  rcases hmoved.of_task htask with ⟨action, next, q, -, -, hprogress, hseat, hafter, -⟩ |
    ⟨hseat, ⟨task', hafter, -⟩, -⟩
  · refine ⟨⟨_, hafter⟩, ?_⟩
    rw [hseat]
    exact failed_call h.point hprogress
  · refine ⟨⟨task', hafter⟩, ?_⟩
    rw [hseat]
    exact h.point

end SignOn.Service

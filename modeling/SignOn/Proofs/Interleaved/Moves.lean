import SignOn.Proofs.Interleaved.Seats

/-!
# What a move does

`Moved` lists all that a move can do to a run whose tasks have seats: what becomes of its state, its
tasks and their seats.  Tasks keep having seats, so what else holds of all runs needs to be shown of
these four cases only.
-/

namespace SignOn.Service

open ExchangeLock (Visit)

def Call.seat : Call → Seat
  | exchange code => ⟨code, .arriving⟩
  | redeem code => ⟨code, .taking⟩

theorem Call.fits (client : Client) (call : Call) : call.seat.Fits (call.flow client) := by
  cases call with
  | exchange code => exact follows_exchange
  | redeem code => exact follows_redeem

variable {client : Client} {run after : Interleaved} {seats later : Nat → Seat}
  {visits : List Visit} {move : Move}

inductive Moved (client : Client) (run : Interleaved) (seats : Nat → Seat) :
    Move → Interleaved → (Nat → Seat) → Prop where
  | begin (call : Call) :
      Moved client run seats (.begin call)
        { run with tasks := run.tasks ++ [.ready (call.flow client)] }
        (Function.update seats run.tasks.length call.seat)
  | call {n : Nat} {action : Action} {next : action.Answer → Flow Text} {q : Point}
      {after : Interleaved} (htask : run.tasks[n]? = some (.ready (.act action next)))
      (hturn : run.turn = none ∨ run.turn = some n)
      (hprogress : Progress (seats n).code (seats n).point action (run.state.perform action).1 q)
      (hstate : after.state = (run.state.perform action).2)
      (htasks : after.tasks =
        run.tasks.set n (afterCall action (run.state.perform action).1 next)) :
      Moved client run seats (.proceed n) after (Function.update seats n ⟨(seats n).code, q⟩)
  | resume {n : Nat} {action : Action} {answer : action.Answer} {next : action.Answer → Flow Text}
      {after : Interleaved} (htask : run.tasks[n]? = some (.called action answer next))
      (hstate : after.state = run.state)
      (htasks : after.tasks = run.tasks.set n (.ready (next answer))) :
      Moved client run seats (.proceed n) after seats
  | advance (ticks : Nat) :
      Moved client run seats (.advance ticks)
        { run with state := { run.state with clock := run.state.clock + ticks } } seats

theorem seated_start (state : State) (seats : Nat → Seat) :
    Seated (.start state) seats [] where
  holds n task htask := by simp [Interleaved.start] at htask
  reflects := .nil
  visits visit := by simp [Interleaved.start]
  turn n task htask := by simp [Interleaved.start] at htask

theorem Seated.proceed (h : Seated run seats visits) {n : Nat}
    (hstep : run.proceed? n = some after) :
    ∃ seats' later, Moved client run seats (.proceed n) after seats' ∧
      Seated after seats' later := by
  obtain ⟨task, htask, hrest⟩ := Option.bind_eq_some_iff.mp hstep
  split at hrest
  · contradiction
  next hfree =>
    have hturn : run.turn = none ∨ run.turn = some n := by
      cases hturn : run.turn with
      | none => exact .inl rfl
      | some m =>
          refine .inr ?_
          simpa [hturn] using hfree
    split at hrest
    next => contradiction
    next action next =>
      obtain ⟨q, later, hprogress, hseated⟩ := h.call htask hturn hrest
      obtain ⟨-, hstate, htasks, -⟩ := of_call? hrest
      exact ⟨_, later, .call htask hturn hprogress hstate htasks, hseated⟩
    next action answer next =>
      obtain ⟨later, hseated⟩ := h.resume htask hturn hrest
      obtain ⟨-, hstate, htasks, -⟩ := of_return? hrest
      exact ⟨seats, later, .resume htask hstate htasks, hseated⟩

theorem Seated.step (h : Seated run seats visits)
    (hstep : run.step? (move.step client) = some after) :
    ∃ seats' later, Moved client run seats move after seats' ∧ Seated after seats' later := by
  cases move with
  | begin call =>
      obtain rfl := Option.some.inj hstep
      refine ⟨_, visits, .begin call, h.begin (call.fits client) ?_ ?_⟩ <;> cases call <;> rfl
  | proceed n => exact h.proceed hstep
  | advance ticks =>
      obtain rfl := Option.some.inj hstep
      exact ⟨seats, visits, .advance ticks, h.holds, h.reflects, h.visits, h.turn⟩

theorem Moved.task_cases (h : Moved client run seats move after later) {m : Nat} {task : Task}
    (hm : after.tasks[m]? = some task) :
    (∃ call : Call, later m = call.seat) ∨
      (later m = seats m ∧ run.tasks[m]? = some task) ∨
      (∃ action next q, move = .proceed m ∧ run.tasks[m]? = some (.ready (.act action next)) ∧
        Progress (seats m).code (seats m).point action (run.state.perform action).1 q ∧
        later m = ⟨(seats m).code, q⟩ ∧
        task = afterCall action (run.state.perform action).1 next) ∨
      ∃ action answer next, move = .proceed m ∧
        run.tasks[m]? = some (.called action answer next) ∧ later m = seats m ∧
        task = .ready (next answer) := by
  cases h with
  | begin call =>
      rcases getElem?_snoc_eq_some.mp hm with ⟨rfl, -⟩ | ⟨hne, hm⟩
      · exact .inl ⟨call, Function.update_self _ _ _⟩
      · exact .inr (.inl ⟨Function.update_of_ne hne _ _, hm⟩)
  | @call n action next q after htask hturn hprogress hstate htasks =>
      rw [htasks] at hm
      by_cases hne : m = n
      · subst hne
        rw [List.getElem?_set_self (List.getElem?_eq_some_iff.mp htask).1] at hm
        exact .inr (.inr (.inl ⟨action, next, q, rfl, htask, hprogress,
          Function.update_self _ _ _, (Option.some.inj hm).symm⟩))
      · rw [List.getElem?_set_ne (Ne.symm hne)] at hm
        exact .inr (.inl ⟨Function.update_of_ne hne _ _, hm⟩)
  | @resume n action answer next after htask hstate htasks =>
      rw [htasks] at hm
      by_cases hne : m = n
      · subst hne
        rw [List.getElem?_set_self (List.getElem?_eq_some_iff.mp htask).1] at hm
        exact .inr (.inr (.inr ⟨action, answer, next, rfl, htask, rfl, (Option.some.inj hm).symm⟩))
      · rw [List.getElem?_set_ne (Ne.symm hne)] at hm
        exact .inr (.inl ⟨rfl, hm⟩)
  | advance ticks => exact .inr (.inl ⟨rfl, hm⟩)

theorem Moved.of_task (h : Moved client run seats move after later) {m : Nat} {task : Task}
    (hm : run.tasks[m]? = some task) :
    (∃ action next q, move = .proceed m ∧ task = .ready (.act action next) ∧
      Progress (seats m).code (seats m).point action (run.state.perform action).1 q ∧
      later m = ⟨(seats m).code, q⟩ ∧
      after.tasks[m]? = some (afterCall action (run.state.perform action).1 next) ∧
      after.state = (run.state.perform action).2) ∨
    (later m = seats m ∧
      (∃ next, after.tasks[m]? = some next ∧ (task.isEntering = false → next.isEntering = false)) ∧
      ∀ action next, move = .proceed m → task ≠ .ready (.act action next)) := by
  have hlt := (List.getElem?_eq_some_iff.mp hm).1
  cases h with
  | begin call =>
      refine .inr ⟨Function.update_of_ne (Nat.ne_of_lt hlt) _ _, ⟨task, ?_, id⟩, nofun⟩
      rw [← hm]
      exact List.getElem?_append_left hlt
  | @call n action next q after htask hturn hprogress hstate htasks =>
      by_cases hne : m = n
      · subst hne
        obtain rfl := Option.some.inj (hm.symm.trans htask)
        exact .inl ⟨action, next, q, rfl, rfl, hprogress, Function.update_self _ _ _,
          by rw [htasks, List.getElem?_set_self hlt], hstate⟩
      · refine .inr ⟨Function.update_of_ne hne _ _, ⟨task, ?_, id⟩, ?_⟩
        · rw [htasks, List.getElem?_set_ne (Ne.symm hne), hm]
        · rintro action next ⟨⟩
          contradiction
  | @resume n action answer next after htask hstate htasks =>
      refine .inr ⟨rfl, ?_, ?_⟩
      · by_cases hne : m = n
        · subst hne
          exact ⟨_, by rw [htasks, List.getElem?_set_self hlt], fun _ => rfl⟩
        · exact ⟨task, by rw [htasks, List.getElem?_set_ne (Ne.symm hne), hm], id⟩
      · rintro other next ⟨⟩ rfl
        exact nomatch hm.symm.trans htask
  | advance ticks => exact .inr ⟨rfl, ⟨task, hm, id⟩, nofun⟩

/-- What holds where no call is under way, and is kept by whatever a move does, holds of some seats
wherever moves lead. -/
theorem Reaches.exists_seats {initial : State} {past : List Moment}
    {P : List Moment → Interleaved → (Nat → Seat) → Prop}
    (hstart : ∀ seats, P [] (.start initial) seats)
    (hmoved : ∀ past run seats visits move after later visits', Seated run seats visits →
      Seated after later visits' → Moved client run seats move after later →
      P past run seats → P (past ++ [⟨run, move⟩]) after later)
    (h : Reaches client initial past run) :
    ∃ seats visits, Seated run seats visits ∧ P past run seats := by
  induction h with
  | start =>
      let seats : Nat → Seat := fun _ => ⟨[], .failed⟩
      exact ⟨seats, [], seated_start initial seats, hstart seats⟩
  | move h move hstep ih =>
      obtain ⟨seats, visits, hseated, hbefore⟩ := ih
      obtain ⟨seats', later, hmove, hafter⟩ := hseated.step hstep
      exact ⟨seats', later, hafter, hmoved _ _ _ _ _ _ _ _ hseated hafter hmove hbefore⟩

namespace Call

def isExchange : Call → Bool
  | exchange _ => true
  | redeem _ => false

end Call

def Point.isExchanging : Point → Bool
  | taking | untaken | withdrawing | withdrawn _ | spent _ | failed => false
  | _ => true

theorem Progress.isExchanging {code : Text} {p q : Point} {action : Action}
    {answer : action.Answer} (h : Progress code p action answer q) :
    q.isExchanging = p.isExchanging := by
  cases h with
  | leave hleaving => cases p <;> first | rfl | contradiction
  | _ => rfl

def Move.begun : Move → List Call
  | begin call => [call]
  | _ => []

def begun (past : List Moment) : List Call := past.flatMap fun moment => moment.move.begun

structure Cast (past : List Moment) (run : Interleaved) (seats : Nat → Seat) : Prop where
  length : run.tasks.length = (begun past).length
  calls : ∀ (n : Nat) call, (begun past)[n]? = some call →
    (seats n).code = call.code ∧ (seats n).point.isExchanging = call.isExchange

theorem cast_start (initial : State) (seats : Nat → Seat) : Cast [] (.start initial) seats :=
  ⟨rfl, by simp [begun]⟩

theorem begun_snoc (past : List Moment) (moment : Moment) :
    begun (past ++ [moment]) = begun past ++ moment.move.begun := by
  simp [begun]

theorem Cast.moved {past : List Moment} (h : Cast past run seats)
    (hmoved : Moved client run seats move after later) :
    Cast (past ++ [⟨run, move⟩]) after later := by
  obtain ⟨hlength, hcalls⟩ := h
  constructor
  case length =>
    rw [begun_snoc, List.length_append, ← hlength]
    cases hmoved with
    | begin call => simp [Move.begun]
    | call htask hturn hprogress hstate htasks => simp [Move.begun, htasks]
    | resume htask hstate htasks => simp [Move.begun, htasks]
    | advance ticks => rfl
  case calls =>
    intro n other hn
    rw [begun_snoc] at hn
    cases hmoved with
    | begin call =>
        rcases getElem?_snoc_eq_some.mp hn with ⟨rfl, rfl⟩ | ⟨hne, hn⟩
        · rw [← hlength, Function.update_self]
          cases other <;> exact ⟨rfl, rfl⟩
        · rw [Function.update_of_ne (hlength ▸ hne)]
          exact hcalls n other hn
    | @call m action next q after htask hturn hprogress hstate htasks =>
        obtain ⟨hcode, hkind⟩ := hcalls n other (by simpa [Move.begun] using hn)
        by_cases hne : n = m
        · subst hne
          rw [Function.update_self]
          exact ⟨hcode, hprogress.isExchanging.trans hkind⟩
        · rw [Function.update_of_ne hne]
          exact ⟨hcode, hkind⟩
    | resume htask hstate htasks => exact hcalls n other (by simpa [Move.begun] using hn)
    | advance ticks => exact hcalls n other (by simpa [Move.begun] using hn)

theorem Seated.eq_of_entered (h : Seated run seats visits) {m n : Nat} {task other : Task}
    (hm : run.tasks[m]? = some task) (hn : run.tasks[n]? = some other)
    (hcode : (seats m).code = (seats n).code)
    (hmvisits : (seats m).point.isVisiting) (hnvisits : (seats n).point.isVisiting)
    (hmentered : task.isEntering = false) (hnentered : other.isEntering = false) : m = n := by
  have hfirst : ⟨m, (seats m).code, true⟩ ∈ visits := by
    rw [h.mem_visits hm rfl]
    simp [Seat.visit?, hmvisits, hmentered]
  have hsecond : ⟨n, (seats n).code, true⟩ ∈ visits := by
    rw [h.mem_visits hn rfl]
    simp [Seat.visit?, hnvisits, hnentered]
  exact congrArg Visit.task (h.reflects.eq_of_entered hfirst hsecond hcode rfl rfl)

end SignOn.Service

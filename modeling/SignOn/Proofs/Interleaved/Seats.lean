import SignOn.Proofs.ExchangeLock.Discipline
import SignOn.Proofs.Interleaved.Schedule
import SignOn.Proofs.Service.Call
import Mathlib.Logic.Function.Basic

/-!
# Where calls stand

Each task of an interleaved run has a seat: the code of its call and the point at which the call
stands.  A task whose action is answered later stands where the answer takes it.  The exchanges that
stand between arriving and leaving are the visits that the locks reflect.
-/

namespace SignOn

open ExchangeLock (Visit)

def Task.isEntering : Task → Bool
  | called (.enter _) _ _ => true
  | _ => false

namespace Service

namespace Point

def isVisiting : Point → Bool
  | arriving | left .. | taking | untaken | withdrawing | withdrawn _ | spent _ | failed => false
  | _ => true

def isBrief : Point → Bool
  | unexchanged | unmarked | storing .. | withdrawn _ => true
  | _ => false

end Point

variable {code : Text} {p q : Point} {action : Action} {answer : action.Answer}

theorem Progress.isVisiting (h : Progress code p action answer q) :
    match action with
    | .enter other => other = code ∧ p.isVisiting = false ∧ q = .checking
    | .leave _ => p.isVisiting = true ∧ q.isVisiting = false
    | _ => q.isVisiting = p.isVisiting := by
  cases h with
  | enter => exact ⟨rfl, rfl, rfl⟩
  | leave hleaving =>
      refine ⟨?_, rfl⟩
      cases p <;> first | rfl | contradiction
  | _ => rfl

theorem Progress.not_suspends (h : Progress code p action answer q) (hbrief : q.isBrief) :
    action.suspends = false := by
  cases h with
  | document hopen => rfl
  | keep hopen => rfl
  | fetch hopen => cases p <;> contradiction
  | _ => first | rfl | contradiction

theorem Progress.not_suspends_next (h : Progress code p action answer q) (hbrief : p.isBrief) :
    action.suspends = false := by
  cases h with
  | document hopen => rfl
  | keep hopen => rfl
  | fetch hopen => cases p <;> contradiction
  | _ => first | rfl | contradiction

theorem getElem?_snoc_eq_some {α : Type} {xs : List α} {x y : α} {n : Nat} :
    (xs ++ [x])[n]? = some y ↔
      (n = xs.length ∧ y = x) ∨ (n ≠ xs.length ∧ xs[n]? = some y) := by
  rcases Nat.lt_trichotomy n xs.length with hlt | rfl | hgt
  · simp [List.getElem?_append_left hlt, Nat.ne_of_lt hlt]
  · simp [eq_comm]
  · have hout : (xs ++ [x]).length ≤ n := by
      rw [List.length_append, List.length_singleton]
      omega
    simp [List.getElem?_eq_none hout, List.getElem?_eq_none (Nat.le_of_lt hgt), Nat.ne_of_gt hgt]

/-! ## Seats -/

structure Seat where
  code : Text
  point : Point

namespace Seat

def Fits (seat : Seat) (flow : Flow Text) : Prop :=
  flow.Follows (Progress seat.code) seat.point fun result q => q.Accepts result

def Holds (seat : Seat) : Task → Prop
  | .ready flow => seat.Fits flow
  | .called action answer next =>
      action.suspends ∧ (∃ p, Progress seat.code p action answer seat.point) ∧
        seat.Fits (next answer)

def visit? (seat : Seat) (number : Nat) (task : Task) : Option Visit :=
  if seat.point.isVisiting then some ⟨number, seat.code, !task.isEntering⟩ else none

theorem exists_act_of_isBrief (state : State) {seat : Seat} {flow : Flow Text}
    (h : seat.Fits flow) (hbrief : seat.point.isBrief) :
    ∃ action next, flow = .act action next ∧ action.suspends = false := by
  cases flow with
  | done result =>
      obtain ⟨code, point⟩ := seat
      cases point <;> contradiction
  | act action next =>
      obtain ⟨q, hstep, -⟩ := h (state.perform action).1
      exact ⟨action, next, rfl, hstep.not_suspends_next hbrief⟩

theorem keepsTurn_of_isBrief (state : State) {seat : Seat} {task : Task} (h : seat.Holds task)
    (hbrief : seat.point.isBrief) : task.keepsTurn := by
  cases task with
  | ready flow =>
      obtain ⟨action, next, rfl, hsuspends⟩ := exists_act_of_isBrief state h hbrief
      simp [Task.keepsTurn, hsuspends]
  | called action answer next =>
      obtain ⟨hsuspends, ⟨p, hstep⟩, -⟩ := h
      rw [hstep.not_suspends hbrief] at hsuspends
      contradiction

theorem point_of_isEntering {seat : Seat} {task : Task} (h : seat.Holds task)
    (hentering : task.isEntering) : seat.point = .checking := by
  cases task with
  | ready flow => contradiction
  | called action answer next =>
      obtain ⟨-, ⟨p, hprogress⟩, -⟩ := h
      cases action with
      | enter other => exact hprogress.isVisiting.2.2
      | _ => contradiction

end Seat

def afterCall (action : Action) (answer : action.Answer) (next : action.Answer → Flow Text) :
    Task :=
  if action.suspends then .called action answer next else .ready (next answer)

theorem isEntering_afterCall {action : Action} {answer : action.Answer}
    {next : action.Answer → Flow Text} (h : ∀ other, action ≠ .enter other) :
    (afterCall action answer next).isEntering = false := by
  unfold afterCall
  split
  · cases action with
    | enter other => exact absurd rfl (h other)
    | _ => rfl
  · rfl

theorem of_call? {run after : Interleaved} {n : Nat} {action : Action}
    {next : action.Answer → Flow Text} (h : run.call? n action next = some after) :
    let task := afterCall action (run.state.perform action).1 next
    Interleaved.callLocks? run.locks n action = some after.locks ∧
      after.state = (run.state.perform action).2 ∧ after.tasks = run.tasks.set n task ∧
      after.turn = if task.keepsTurn then some n else none := by
  obtain ⟨locks, hlocks, hafter⟩ := Option.bind_eq_some_iff.mp h
  obtain rfl := Option.some.inj hafter
  exact ⟨hlocks, rfl, rfl, rfl⟩

theorem of_return? {run after : Interleaved} {n : Nat} {action : Action}
    {answer : action.Answer} {next : action.Answer → Flow Text}
    (h : run.return? n action answer next = some after) :
    Interleaved.returnLocks? run.locks n action = some after.locks ∧
      after.state = run.state ∧ after.tasks = run.tasks.set n (.ready (next answer)) ∧
      after.turn = if (Task.ready (next answer)).keepsTurn then some n else none := by
  obtain ⟨locks, hlocks, hafter⟩ := Option.bind_eq_some_iff.mp h
  obtain rfl := Option.some.inj hafter
  exact ⟨hlocks, rfl, rfl, rfl⟩

/-- The tasks of a run have seats, the locks reflect their visits, and one at a brief point has the
turn. -/
structure Seated (run : Interleaved) (seats : Nat → Seat) (visits : List Visit) : Prop where
  holds : ∀ (n : Nat) task, run.tasks[n]? = some task → (seats n).Holds task
  reflects : run.locks.Reflects visits
  visits : ∀ visit : Visit, visit ∈ visits ↔
    ∃ task, run.tasks[visit.task]? = some task ∧
      (seats visit.task).visit? visit.task task = some visit
  turn : ∀ (n : Nat) task, run.tasks[n]? = some task → (seats n).point.isBrief →
    run.turn = some n

namespace Seated

variable {run after : Interleaved} {seats : Nat → Seat} {visits later : List Visit} {n : Nat}
  {task next : Task} {seat : Seat}

theorem not_isBrief (h : Seated run seats visits) (hturn : run.turn = none ∨ run.turn = some n)
    {m : Nat} (hne : m ≠ n) (hm : run.tasks[m]? = some task) :
    (seats m).point.isBrief = false := by
  cases hbrief : (seats m).point.isBrief with
  | false => rfl
  | true =>
      have hmturn := h.turn m task hm hbrief
      rcases hturn with hnone | hsome
      · exact nomatch hmturn.symm.trans hnone
      · exact absurd (Option.some.inj (hmturn.symm.trans hsome)) hne

theorem set (h : Seated run seats visits) (htask : run.tasks[n]? = some task)
    (hturn : run.turn = none ∨ run.turn = some n)
    (htasks : after.tasks = run.tasks.set n next)
    (hnext : after.turn = if next.keepsTurn then some n else none) (hholds : seat.Holds next)
    (hreflects : after.locks.Reflects later)
    (hothers : ∀ visit : Visit, visit.task ≠ n → (visit ∈ later ↔ visit ∈ visits))
    (hown : ∀ visit : Visit, visit.task = n → (visit ∈ later ↔ seat.visit? n next = some visit)) :
    Seated after (Function.update seats n seat) later := by
  have hself : after.tasks[n]? = some next := by
    rw [htasks, List.getElem?_set_self (List.getElem?_eq_some_iff.mp htask).1]
  have hrest : ∀ m, m ≠ n → after.tasks[m]? = run.tasks[m]? := by
    intro m hm
    rw [htasks, List.getElem?_set_ne (Ne.symm hm)]
  constructor
  case holds =>
    intro m other hm
    by_cases hmn : m = n
    · subst hmn
      obtain rfl : next = other := Option.some.inj (hself.symm.trans hm)
      rwa [Function.update_self]
    · rw [hrest m hmn] at hm
      rw [Function.update_of_ne hmn]
      exact h.holds m other hm
  case reflects => exact hreflects
  case visits =>
    intro visit
    by_cases hmn : visit.task = n
    · rw [hown visit hmn, hmn, Function.update_self, hself]
      simp
    · rw [hothers visit hmn, h.visits visit, hrest visit.task hmn, Function.update_of_ne hmn]
  case turn =>
    intro m other hm hbrief
    by_cases hmn : m = n
    · subst hmn
      rw [Function.update_self] at hbrief
      rw [hnext, if_pos (Seat.keepsTurn_of_isBrief run.state hholds hbrief)]
    · rw [hrest m hmn] at hm
      rw [Function.update_of_ne hmn] at hbrief
      rw [h.not_isBrief hturn hmn hm] at hbrief
      contradiction

theorem begin (h : Seated run seats visits) {flow : Flow Text} (hfits : seat.Fits flow)
    (hvisiting : seat.point.isVisiting = false) (hbrief : seat.point.isBrief = false) :
    Seated { run with tasks := run.tasks ++ [.ready flow] }
      (Function.update seats run.tasks.length seat) visits := by
  constructor
  case holds =>
    intro m other hm
    rcases getElem?_snoc_eq_some.mp hm with ⟨rfl, rfl⟩ | ⟨hne, hm⟩
    · rwa [Function.update_self]
    · rw [Function.update_of_ne hne]
      exact h.holds m other hm
  case reflects => exact h.reflects
  case visits =>
    intro visit
    rw [h.visits visit]
    constructor
    · rintro ⟨task, htask, hvisit⟩
      have hne := Nat.ne_of_lt (List.getElem?_eq_some_iff.mp htask).1
      exact ⟨task, getElem?_snoc_eq_some.mpr (.inr ⟨hne, htask⟩),
        by rwa [Function.update_of_ne hne]⟩
    · rintro ⟨task, htask, hvisit⟩
      rcases getElem?_snoc_eq_some.mp htask with ⟨heq, rfl⟩ | ⟨hne, htask⟩
      · rw [heq, Function.update_self, Seat.visit?, hvisiting] at hvisit
        contradiction
      · rw [Function.update_of_ne hne] at hvisit
        exact ⟨task, htask, hvisit⟩
  case turn =>
    intro m other hm hmbrief
    rcases getElem?_snoc_eq_some.mp hm with ⟨rfl, rfl⟩ | ⟨hne, hm⟩
    · rw [Function.update_self, hbrief] at hmbrief
      contradiction
    · rw [Function.update_of_ne hne] at hmbrief
      exact h.turn m other hm hmbrief

theorem mem_visits (h : Seated run seats visits) (htask : run.tasks[n]? = some task)
    {visit : Visit} (hn : visit.task = n) :
    visit ∈ visits ↔ (seats n).visit? n task = some visit := by
  rw [h.visits visit, hn, htask]
  simp

theorem visits_call (h : Seated run seats visits) {next : action.Answer → Flow Text}
    (htask : run.tasks[n]? = some (.ready (.act action next)))
    (hprogress : Progress (seats n).code (seats n).point action answer q)
    {locks : ExchangeLock.Registry}
    (hlocks : Interleaved.callLocks? run.locks n action = some locks) :
    ∃ later, locks.Reflects later ∧
      (∀ visit : Visit, visit.task ≠ n → (visit ∈ later ↔ visit ∈ visits)) ∧
      ∀ visit : Visit, visit.task = n →
        (visit ∈ later ↔
          Seat.visit? ⟨(seats n).code, q⟩ n (afterCall action answer next) = some visit) := by
  have hvisiting := hprogress.isVisiting
  have hown : ∀ visit : Visit, visit.task = n →
      (visit ∈ visits ↔ (seats n).visit? n (.ready (.act action next)) = some visit) :=
    fun visit hn => h.mem_visits htask hn
  cases action with
  | enter other =>
      obtain ⟨rfl, hoff, rfl⟩ := hvisiting
      refine ⟨_, h.reflects.arrive hlocks, fun visit hne => ?_, fun visit hn => ?_⟩
      · have hnew : visit ≠ ⟨n, (seats n).code, false⟩ := fun heq => hne (congrArg Visit.task heq)
        simp [Visit.record, hnew]
      · have hnot : visit ∉ visits := by simp [hown visit hn, Seat.visit?, hoff]
        simp [Visit.record, hnot, Seat.visit?, Point.isVisiting, afterCall, Action.suspends,
          Task.isEntering, eq_comm]
  | leave other =>
      obtain ⟨-, hoff⟩ := hvisiting
      refine ⟨_, h.reflects.leave hlocks, fun visit hne => ?_, fun visit hn => ?_⟩
      · simp [Visit.record, hne]
      · simp [Visit.record, hn, Seat.visit?, hoff]
  | _ =>
      obtain rfl := Option.some.inj hlocks
      refine ⟨visits, h.reflects, fun _ _ => .rfl, fun visit hn => ?_⟩
      rw [hown visit hn]
      simp [Seat.visit?, afterCall, Action.suspends, Task.isEntering, hvisiting]

theorem call (h : Seated run seats visits) {next : action.Answer → Flow Text}
    (htask : run.tasks[n]? = some (.ready (.act action next)))
    (hturn : run.turn = none ∨ run.turn = some n) (hstep : run.call? n action next = some after) :
    ∃ q later, Progress (seats n).code (seats n).point action (run.state.perform action).1 q ∧
      Seated after (Function.update seats n ⟨(seats n).code, q⟩) later := by
  obtain ⟨q, hprogress, hfits⟩ := h.holds n _ htask (run.state.perform action).1
  obtain ⟨hlocks, -, htasks, hnext⟩ := of_call? hstep
  have hholds : Seat.Holds ⟨(seats n).code, q⟩
      (afterCall action (run.state.perform action).1 next) := by
    unfold afterCall
    split
    next hsuspends => exact ⟨hsuspends, ⟨_, hprogress⟩, hfits⟩
    next => exact hfits
  obtain ⟨later, hreflects, hothers, hown⟩ := h.visits_call htask hprogress hlocks
  exact ⟨q, later, hprogress, h.set htask hturn htasks hnext hholds hreflects hothers hown⟩

theorem visits_resume (h : Seated run seats visits) {next : action.Answer → Flow Text}
    (htask : run.tasks[n]? = some (.called action answer next))
    {locks : ExchangeLock.Registry}
    (hlocks : Interleaved.returnLocks? run.locks n action = some locks) :
    ∃ later, locks.Reflects later ∧
      (∀ visit : Visit, visit.task ≠ n → (visit ∈ later ↔ visit ∈ visits)) ∧
      ∀ visit : Visit, visit.task = n →
        (visit ∈ later ↔ (seats n).visit? n (.ready (next answer)) = some visit) := by
  have hown : ∀ visit : Visit, visit.task = n →
      (visit ∈ visits ↔ (seats n).visit? n (.called action answer next) = some visit) :=
    fun visit hn => h.mem_visits htask hn
  cases action with
  | enter other =>
      obtain ⟨-, ⟨p, hprogress⟩, -⟩ := h.holds n _ htask
      obtain ⟨rfl, -, hchecking⟩ := hprogress.isVisiting
      refine ⟨_, h.reflects.enter hlocks, fun visit hne => ?_, fun visit hn => ?_⟩
      · constructor
        · intro hvisit
          obtain ⟨old, hold, rfl⟩ := List.mem_map.mp hvisit
          rw [Visit.task_enter] at hne
          rwa [Visit.enter_of_ne hne]
        · exact fun hvisit => List.mem_map.mpr ⟨visit, hvisit, Visit.enter_of_ne hne⟩
      · have hwas : ∀ old : Visit, old.task = n →
            (old ∈ visits ↔ ⟨n, (seats n).code, false⟩ = old) := by
          intro old hold
          rw [hown old hold]
          simp [Seat.visit?, hchecking, Point.isVisiting, Task.isEntering]
        have hnow : (seats n).visit? n (.ready (next answer)) =
            some (Visit.enter n ⟨n, (seats n).code, false⟩) := by
          simp [Seat.visit?, hchecking, Point.isVisiting, Task.isEntering, Visit.enter]
        rw [hnow, Option.some.injEq]
        constructor
        · intro hvisit
          obtain ⟨old, hold, rfl⟩ := List.mem_map.mp hvisit
          rw [Visit.task_enter] at hn
          rw [(hwas old hn).mp hold]
        · rintro rfl
          exact List.mem_map_of_mem ((hwas _ rfl).mpr rfl)
  | _ =>
      obtain rfl := Option.some.inj hlocks
      refine ⟨visits, h.reflects, fun _ _ => .rfl, fun visit hn => ?_⟩
      rw [hown visit hn]
      simp [Seat.visit?, Task.isEntering]

theorem resume (h : Seated run seats visits) {next : action.Answer → Flow Text}
    (htask : run.tasks[n]? = some (.called action answer next))
    (hturn : run.turn = none ∨ run.turn = some n)
    (hstep : run.return? n action answer next = some after) :
    ∃ later, Seated after seats later := by
  obtain ⟨hlocks, -, htasks, hnext⟩ := of_return? hstep
  obtain ⟨-, -, hfits⟩ := h.holds n _ htask
  obtain ⟨later, hreflects, hothers, hown⟩ := h.visits_resume htask hlocks
  have hset := h.set htask hturn htasks hnext hfits hreflects hothers hown
  rw [Function.update_eq_self] at hset
  exact ⟨later, hset⟩

end Seated

end Service

end SignOn

import SignOn.ExchangeLock
import SignOn.Flow.Run

/-!
# Flows side by side

Tasks work on one state.  A task that has the turn keeps it until it comes to an action that
suspends it, or to its end; then any task can get the turn.  An action that suspends has two parts:
the call, at which it has its effect, and the return of its answer to the task.  Calling for a lock
means to arrive at it, and the answer returns when the task can enter.  The clock of the cache may
move at any moment.
-/

namespace SignOn

/-- A task is about to go on with its flow, or waits for the answer of an action. -/
inductive Task where
  | ready (flow : Flow Text)
  | called (action : Action) (answer : action.Answer) (next : action.Answer → Flow Text)

namespace Task

def keepsTurn : Task → Bool
  | ready (.act action _) => !action.suspends
  | _ => false

end Task

structure Interleaved where
  state : State
  locks : ExchangeLock.Registry
  tasks : List Task
  turn : Option Nat

namespace Interleaved

def start (state : State) : Interleaved := ⟨state, .empty, [], none⟩

def setTask (run : Interleaved) (number : Nat) (task : Task) : Interleaved :=
  { run with
    tasks := run.tasks.set number task
    turn := if task.keepsTurn then some number else none }

def callLocks? (locks : ExchangeLock.Registry) (number : Nat) :
    Action → Option ExchangeLock.Registry
  | .enter code => locks.arrive? number code
  | .leave _ => locks.leave? number
  | _ => some locks

def returnLocks? (locks : ExchangeLock.Registry) (number : Nat) :
    Action → Option ExchangeLock.Registry
  | .enter _ => locks.enter? number
  | _ => some locks

/-- A task calls its next action, and has the answer at once unless the action suspends it. -/
def call? (run : Interleaved) (number : Nat) (action : Action)
    (next : action.Answer → Flow Text) : Option Interleaved := do
  let locks ← callLocks? run.locks number action
  let (answer, state) := run.state.perform action
  let task := if action.suspends then .called action answer next else .ready (next answer)
  some ({ run with state, locks }.setTask number task)

def return? (run : Interleaved) (number : Nat) (action : Action) (answer : action.Answer)
    (next : action.Answer → Flow Text) : Option Interleaved := do
  let locks ← returnLocks? run.locks number action
  some ({ run with locks }.setTask number (.ready (next answer)))

def proceed? (run : Interleaved) (number : Nat) : Option Interleaved := do
  let task ← run.tasks[number]?
  if run.turn.isSome && run.turn ≠ some number then none
  else
    match task with
    | .ready (.done _) => none
    | .ready (.act action next) => run.call? number action next
    | .called action answer next => run.return? number action answer next

inductive Step where
  | begin (flow : Flow Text)
  | proceed (number : Nat)
  | advance (ticks : Ticks)

def step? (run : Interleaved) : Step → Option Interleaved
  | .begin flow => some { run with tasks := run.tasks ++ [.ready flow] }
  | .proceed number => run.proceed? number
  | .advance ticks =>
      some { run with state := { run.state with clock := run.state.clock + ticks } }

def run? (run : Interleaved) (steps : List Step) : Option Interleaved := steps.foldlM step? run

end Interleaved

end SignOn

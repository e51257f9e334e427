import SignOn.Text.Basic

/-!
# One exchange of a code at a time

Tasks that want to exchange one code share a lock.  A registry names the lock of a code as long as
some task refers to the lock: the first task that wants it makes one, and with the last task that
leaves it the lock and its entry are gone.  So a code can have one lock after another, but never
two at a time.  At a lock tasks queue up in the order of arrival.
-/

namespace SignOn.ExchangeLock

/-- The task that is between entering and leaving, and those that wait, the first to arrive
first. -/
structure Lock where
  number : Nat
  holder : Option Nat
  waiting : List Nat
  deriving DecidableEq, Repr

def Lock.tasks (lock : Lock) : List Nat := lock.holder.toList ++ lock.waiting

/-- An entry is a code with the number of its lock. -/
structure Registry where
  entries : List (Text × Nat)
  locks : List Lock
  next : Nat
  deriving DecidableEq, Repr

inductive Step where
  | arrive (task : Nat) (code : Text)
  | enter (task : Nat)
  | leave (task : Nat)
  deriving DecidableEq, Repr

namespace Registry

def empty : Registry := ⟨[], [], 0⟩

def lock? (registry : Registry) (number : Nat) : Option Lock :=
  registry.locks.find? fun lock => lock.number = number

def lockOfCode? (registry : Registry) (code : Text) : Option Lock := do
  let entry ← registry.entries.find? fun entry => entry.1 = code
  registry.lock? entry.2

def lockOfTask? (registry : Registry) (task : Nat) : Option Lock :=
  registry.locks.find? fun lock => lock.tasks.contains task

def setLock (registry : Registry) (lock : Lock) : Registry :=
  { registry with
    locks := registry.locks.map fun other => if other.number = lock.number then lock else other }

def dropLock (registry : Registry) (number : Nat) : Registry :=
  { registry with
    entries := registry.entries.filter fun entry => entry.2 ≠ number
    locks := registry.locks.filter fun lock => lock.number ≠ number }

def makeLock (registry : Registry) (code : Text) (task : Nat) : Registry where
  entries := registry.entries ++ [(code, registry.next)]
  locks := registry.locks ++ [⟨registry.next, none, [task]⟩]
  next := registry.next + 1

def arrive? (registry : Registry) (task : Nat) (code : Text) : Option Registry :=
  if (registry.lockOfTask? task).isSome then none
  else
    match registry.lockOfCode? code with
    | some lock => some (registry.setLock { lock with waiting := lock.waiting ++ [task] })
    | none => some (registry.makeLock code task)

def enter? (registry : Registry) (task : Nat) : Option Registry :=
  match registry.lockOfTask? task with
  | some ⟨number, none, first :: waiting⟩ =>
      if first = task then some (registry.setLock ⟨number, some task, waiting⟩) else none
  | _ => none

def leave? (registry : Registry) (task : Nat) : Option Registry :=
  match registry.lockOfTask? task with
  | none => none
  | some lock =>
      if lock.holder ≠ some task then none
      else if lock.waiting.isEmpty then some (registry.dropLock lock.number)
      else some (registry.setLock { lock with holder := none })

def step? (registry : Registry) : Step → Option Registry
  | .arrive task code => registry.arrive? task code
  | .enter task => registry.enter? task
  | .leave task => registry.leave? task

def run? (registry : Registry) (steps : List Step) : Option Registry :=
  steps.foldlM step? registry

def firstWaiting? (registry : Registry) (code : Text) : Option Nat := do
  let lock ← registry.lockOfCode? code
  lock.waiting.head?

/-- What happens until nobody waits for a code: each task enters and leaves before the next.  It is
one schedule among others, for a lock that is used on its own; the service does not go by it. -/
def serve (registry : Registry) (code : Text) : (tasks : Nat) → List Step
  | 0 => []
  | n + 1 =>
      match registry.firstWaiting? code with
      | none => []
      | some task =>
          let turn := [.enter task, .leave task]
          match registry.run? turn with
          | none => []
          | some next => turn ++ next.serve code n

/-- What happens to tasks with the numbers from zero on that arrive together at such a lock. -/
def serveTogether (registry : Registry) (code : Text) (count : Nat) : List Step :=
  match registry.run? ((List.range count).map fun task => .arrive task code) with
  | none => []
  | some arrived => arrived.serve code count

end Registry

end SignOn.ExchangeLock

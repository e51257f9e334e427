import SignOn.Cache.Step

/-!
# An eager account of the cache

Here an entry is gone as soon as its time is up, so that nothing but live entries takes part in
anything.  Live identities and live markers stand in two lists, each key once, the least recently
used first.  This is what a cache does for whoever asks it, told without when it clears away.
-/

namespace SignOn.Cache

structure Eager where
  capacity : Nat
  lifetime : Ticks
  clock : Ticks
  identities : List (Entry Identity)
  markers : List (Entry Unit)
  deriving DecidableEq, Repr

namespace Eager

def start (capacity : Nat) (lifetime : Ticks) : Eager := ⟨capacity, lifetime, 0, [], []⟩

def others {α : Type} (key : Text) (entries : List (Entry α)) : List (Entry α) :=
  entries.filter fun entry => entry.key ≠ key

def find? {α : Type} (key : Text) (entries : List (Entry α)) : Option (Entry α) :=
  entries.find? fun entry => entry.key = key

/-- An entry at the end of a list: in place of its key's, or of the least recently used one where
the list is full, or one more. -/
def insert {α : Type} (capacity : Nat) (entry : Entry α) (entries : List (Entry α)) :
    List (Entry α) :=
  match find? entry.key entries with
  | some _ => others entry.key entries ++ [entry]
  | none => (if capacity ≤ entries.length then entries.tail else entries) ++ [entry]

def pass (cache : Eager) (ticks : Ticks) : Eager :=
  let clock := cache.clock + ticks
  { cache with
    clock
    identities := cache.identities.filter (Entry.isLive clock)
    markers := cache.markers.filter (Entry.isLive clock) }

def deadline (cache : Eager) : Ticks := cache.clock + cache.lifetime

def phase (cache : Eager) (code : Text) : Phase :=
  if (find? code cache.identities).isSome then .exchanged
  else if (find? code cache.markers).isSome then .redeemed
  else .initiated

def put (cache : Eager) (code : Text) (identity : Identity) : Eager :=
  { cache with
    identities := insert cache.capacity ⟨code, identity, cache.deadline⟩ cache.identities
    markers := others code cache.markers }

def get (cache : Eager) (code : Text) : Option Identity × Eager :=
  match find? code cache.identities with
  | none => (none, cache)
  | some entry =>
      (some entry.value, { cache with identities := others code cache.identities ++ [entry] })

def invalidate (cache : Eager) (code : Text) : Eager :=
  { cache with identities := others code cache.identities }

def remove (cache : Eager) (code : Text) : Option Identity × Eager :=
  match find? code cache.identities with
  | none => (none, cache)
  | some entry =>
      (some entry.value,
        { cache with
          identities := others code cache.identities
          markers := insert cache.capacity ⟨code, (), cache.deadline⟩ cache.markers })

def take (cache : Eager) (code : Text) (delay : Ticks) : Result × Eager :=
  let later := cache.pass delay
  match cache.phase code with
  | .redeemed => (.refused .alreadyRedeemed, later)
  | .initiated => (.refused .notExchanged, later)
  | .exchanged =>
      match later.remove code with
      | (none, next) => (.refused .notExchanged, next)
      | (some identity, next) => (.identity (some identity), next)

def operate (cache : Eager) : Step → Result × Eager
  | .put code identity => (.done, cache.put code identity)
  | .get code =>
      let (found, next) := cache.get code
      (.identity found, next)
  | .invalidate code => (.done, cache.invalidate code)
  | .phase code => (.phase (cache.phase code), cache)
  | .take code delay => cache.take code delay
  | .advance ticks => (.done, cache.pass ticks)

/-- One operation; an entry without a lifetime does not outlast the one that made it. -/
def step (cache : Eager) (s : Step) : Result × Eager :=
  let (result, next) := cache.operate s
  (result, next.pass 0)

def run (cache : Eager) : List Step → List Result × Eager
  | [] => ([], cache)
  | s :: rest =>
      let (result, next) := cache.step s
      let (results, last) := next.run rest
      (result :: results, last)

end Eager

end SignOn.Cache

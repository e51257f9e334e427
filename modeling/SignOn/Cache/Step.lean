import SignOn.Cache.Basic

/-!
# Steps of a cache

A timed cache is a cache with its clock.  `Timed.step` carries one operation out, or lets time
pass, and gives the answer; `Timed.run` carries out several.
-/

namespace SignOn.Cache

inductive Step where
  | put (code : Text) (identity : Identity)
  | get (code : Text)
  | invalidate (code : Text)
  | phase (code : Text)
  /-- The clock moves by `delay` between the check and the removal. -/
  | take (code : Text) (delay : Ticks)
  | advance (ticks : Ticks)
  deriving DecidableEq, Repr

inductive Result where
  | done
  | full
  | identity (found : Option Identity)
  | phase (phase : Phase)
  | refused (fault : TakeFault)
  deriving DecidableEq, Repr

structure Timed where
  clock : Ticks
  cache : Cache
  deriving DecidableEq, Repr

namespace Timed

def start (cache : Cache) : Timed := ⟨0, cache⟩

def phase (timed : Timed) (code : Text) : Phase := timed.cache.phase timed.clock code

def step (timed : Timed) : Step → Result × Timed
  | .put code identity =>
      let (taken, cache) := timed.cache.put timed.clock code identity
      (if taken then .done else .full, { timed with cache })
  | .get code =>
      let (found, cache) := timed.cache.get timed.clock code
      (.identity found, { timed with cache })
  | .invalidate code =>
      (.done, { timed with cache := timed.cache.invalidate timed.clock code })
  | .phase code => (.phase (timed.phase code), timed)
  | .take code delay =>
      let removal := timed.clock + delay
      match timed.cache.take timed.clock removal code with
      | (.ok identity, cache) => (.identity (some identity), ⟨removal, cache⟩)
      | (.error fault, cache) => (.refused fault, ⟨removal, cache⟩)
  | .advance ticks => (.done, { timed with clock := timed.clock + ticks })

def run (timed : Timed) : List Step → List Result × Timed
  | [] => ([], timed)
  | s :: rest =>
      let (result, next) := timed.step s
      let (results, last) := next.run rest
      (result :: results, last)

end Timed

end SignOn.Cache

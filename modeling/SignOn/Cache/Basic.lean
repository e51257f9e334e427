import SignOn.Cache.Shelf

/-!
# The cache of exchanged codes

A code is *initiated* until it is exchanged; then the cache keeps the identity that the exchange
gave.  Taking the identity leaves a marker, and the code is *redeemed*.  Identities and markers
stand on two shelves of one capacity and lifetime, so both end by themselves.
-/

namespace SignOn

structure Identity where
  nonce : Text
  refreshToken : Text
  email : Text
  deriving DecidableEq, Repr

inductive Phase where
  | initiated
  | exchanged
  | redeemed
  deriving DecidableEq, Repr

structure Cache where
  identities : Cache.Shelf Identity
  markers : Cache.Shelf Unit
  deriving DecidableEq, Repr

namespace Cache

inductive TakeFault where
  | notExchanged
  | alreadyRedeemed
  deriving DecidableEq, Repr

def empty (capacity : Nat) (lifetime : Ticks) : Cache :=
  ⟨.empty capacity lifetime, .empty capacity lifetime⟩

def ofCapacity? (capacity : Int) (lifetime : Ticks) : Option Cache :=
  if capacity < 0 then none else some (empty capacity.toNat lifetime)

def capacityMessage : Text := "maxsize must be non-negative"

def phase (cache : Cache) (clock : Ticks) (code : Text) : Phase :=
  if cache.identities.contains clock code then .exchanged
  else if cache.markers.contains clock code then .redeemed
  else .initiated

def get (cache : Cache) (clock : Ticks) (code : Text) : Option Identity × Cache :=
  let (identity, identities) := cache.identities.read clock code
  (identity, { cache with identities })

def put (cache : Cache) (clock : Ticks) (code : Text) (identity : Identity) : Bool × Cache :=
  let (_, markers) := cache.markers.remove clock code
  let (taken, identities) := cache.identities.write clock code identity
  (taken, ⟨identities, markers⟩)

def invalidate (cache : Cache) (clock : Ticks) (code : Text) : Cache :=
  { cache with identities := (cache.identities.remove clock code).2 }

/-- An exchanged code gives up its identity and becomes redeemed.  The phase is checked at one
clock and the identity removed at another, not earlier; in between the code may end. -/
def take (cache : Cache) (check removal : Ticks) (code : Text) :
    Except TakeFault Identity × Cache :=
  match cache.phase check code with
  | .redeemed => (.error .alreadyRedeemed, cache)
  | .initiated => (.error .notExchanged, cache)
  | .exchanged =>
      match cache.identities.remove removal code with
      | (none, _) => (.error .notExchanged, cache)
      | (some identity, identities) =>
          let (_, markers) := cache.markers.write removal code ()
          (.ok identity, ⟨identities, markers⟩)

end Cache

end SignOn

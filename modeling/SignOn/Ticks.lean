import SignOn.Number.Binary64

/-!
# Ticks

Time on the clock of a cache is counted in ticks, so many to the second that every duration with
a short binary fraction is a whole number of them.  They are added exactly; a clock in floating
point would round the end of a lifetime, which is not regarded here.
-/

namespace SignOn

abbrev Ticks := Int

namespace Ticks

def perSecond : Int := Nat.pow 2 64

def ofSeconds (seconds : Int) : Ticks := seconds * perSecond

/-- The ticks of a number of seconds, less what is left of a tick. -/
def ofBinary64? : Binary64 → Option Ticks
  | .finite negative mantissa exponent =>
      let n := Binary64.magnitudeFloor mantissa (exponent + 64)
      some (if negative then -(n : Int) else n)
  | _ => none

end Ticks

end SignOn

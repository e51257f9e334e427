/-!
# Binary floating-point numbers of 64 bits

A finite number is held as its sign, a whole number below 2^53 and a power of two.  `ofRatio`
rounds an exact quotient to the nearest of them, a tie to the even one; `truncated?` gives the
whole part.  Everything is exact arithmetic on whole numbers.
-/

namespace SignOn

inductive Binary64 where
  | finite (negative : Bool) (mantissa : Nat) (exponent : Int)
  | infinity (negative : Bool)
  | nan
  deriving DecidableEq, Repr

namespace Binary64

def minExponent : Int := -1074
def maxExponent : Int := 971

def zero (negative : Bool) : Binary64 := .finite negative 0 minExponent

def roundQuotient (numerator denominator : Nat) : Nat :=
  let q := numerator / denominator
  let r := numerator % denominator
  if 2 * r < denominator then q
  else if denominator < 2 * r then q + 1
  else q + q % 2

def scaled (numerator denominator : Nat) (exponent : Int) : Nat :=
  roundQuotient (numerator * Nat.pow 2 (-exponent).toNat)
    (denominator * Nat.pow 2 exponent.toNat)

def ofRatio (negative : Bool) (numerator denominator : Nat) : Binary64 :=
  if numerator = 0 then zero negative
  else
    let guess : Int := (numerator.log2 : Int) - denominator.log2 - 53
    -- the quotient is at least 2 ^ (guess + 52) and less than 2 ^ (guess + 54)
    let fits :=
      numerator * Nat.pow 2 (-guess - 53).toNat < denominator * Nat.pow 2 (guess + 53).toNat
    let exponent := max minExponent (if fits then guess else guess + 1)
    let mantissa := scaled numerator denominator exponent
    let (mantissa, exponent) :=
      if mantissa = Nat.pow 2 53 then (Nat.pow 2 52, exponent + 1) else (mantissa, exponent)
    if maxExponent < exponent then .infinity negative
    else .finite negative mantissa exponent

def ofDecimal (negative : Bool) (digits : Nat) (exponent : Int) : Binary64 :=
  if digits = 0 then zero negative
  else
    let magnitude : Int := (Nat.toDigits 10 digits).length + exponent
    if 400 < magnitude then .infinity negative
    else if magnitude < -400 then zero negative
    else
      ofRatio negative (digits * Nat.pow 10 exponent.toNat) (Nat.pow 10 (-exponent).toNat)

def ofInt (n : Int) : Binary64 := ofRatio (n < 0) n.natAbs 1

def isFinite : Binary64 → Bool
  | .finite .. => true
  | _ => false

def magnitudeFloor (mantissa : Nat) (exponent : Int) : Nat :=
  mantissa * Nat.pow 2 exponent.toNat / Nat.pow 2 (-exponent).toNat

def truncated? : Binary64 → Option Int
  | .finite negative mantissa exponent =>
      let n : Int := magnitudeFloor mantissa exponent
      some (if negative then -n else n)
  | _ => none

def isWhole : Binary64 → Bool
  | .finite _ mantissa exponent => mantissa % Nat.pow 2 (-exponent).toNat = 0
  | _ => false

end Binary64

end SignOn

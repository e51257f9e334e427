import SignOn.Number.Binary64
import SignOn.Text.Split

/-!
# The shortest decimal of a number

Of the decimals that round to a number the shortest is written, of several the nearest.  The
digits are found by trying one digit, then two, and so on, on exact bounds.  Sixteen digits before
the point and four zeros after it are the most that are written without an exponent.
-/

namespace SignOn.Binary64

/-- A finite positive number with the reals that round to it, all over one denominator: from
`low` to `high`, the ends included when `closed`. -/
structure Interval where
  value : Nat
  low : Nat
  high : Nat
  denominator : Nat
  closed : Bool

/-- Below a power of two the neighbour is half as far away as above it. -/
def interval (mantissa : Nat) (exponent : Int) : Interval :=
  let up := Nat.pow 2 exponent.toNat
  let narrow := mantissa = Nat.pow 2 52 && minExponent < exponent
  ⟨4 * mantissa * up, (4 * mantissa - if narrow then 1 else 2) * up, (4 * mantissa + 2) * up,
    4 * Nat.pow 2 (-exponent).toNat, mantissa % 2 = 0⟩

def Interval.contains (i : Interval) (numerator denominator : Nat) : Bool :=
  let place := numerator * i.denominator
  if i.closed then i.low * denominator ≤ place && place ≤ i.high * denominator
  else i.low * denominator < place && place < i.high * denominator

/-- How many digits stand before the point; less than one when zeros follow the point. -/
def pointPosition (numerator denominator : Nat) : Int :=
  if denominator ≤ numerator then (Nat.toDigits 10 (numerator / denominator)).length
  else 1 - ((Nat.toDigits 10 ((denominator + numerator - 1) / numerator - 1)).length : Int)

/-- The decimal with `count` digits, among those next to the value, that lies in the interval; its
digits and the power of ten of the last one. -/
def tryDigits (i : Interval) (point : Int) (count : Nat) : Option (Nat × Int) :=
  let power := point - count
  let up := Nat.pow 10 power.toNat
  let down := Nat.pow 10 (-power).toNat
  let floor := i.value * down / (i.denominator * up)
  let inside (digits : Nat) := i.contains (digits * up) down
  -- twice the value against the sum of the two neighbours
  let nearer := compare (2 * i.value * down) ((2 * floor + 1) * i.denominator * up)
  let first := match nearer with
    | .lt => floor
    | .gt => floor + 1
    | .eq => floor + floor % 2
  let second := if first = floor then floor + 1 else floor
  if inside first then some (first, power)
  else if inside second then some (second, power)
  else none

def firstHit (i : Interval) (point : Int) : (fuel count : Nat) → Nat × Int
  | 0, count => (tryDigits i point count).getD (0, 0)
  | fuel + 1, count =>
      match tryDigits i point count with
      | some hit => hit
      | none => firstHit i point fuel (count + 1)

def shortest (mantissa : Nat) (exponent : Int) : Text × Int :=
  let i := interval mantissa exponent
  let point := pointPosition i.value i.denominator
  let hit := firstHit i point 16 1
  let digits := Text.ofNat hit.1
  let point := digits.length + hit.2
  (Split.trimEnd (fun c : CodePoint => c = '0') digits, point)

def zeros (count : Nat) : Text := List.replicate count '0'

def exponentText (power : Int) : Text :=
  (if power < 0 then "e-" else "e+") ++ Text.padded 2 power.natAbs

/-- Positional up to sixteen digits before the point and four zeros after it, with at least one
digit on each side of the point; else one digit before the point and an exponent. -/
def layout (digits : Text) (point : Int) : Text :=
  if point ≤ -4 || 16 < point then
    match digits with
    | [] => []
    | [d] => d :: exponentText (point - 1)
    | d :: rest => d :: '.' :: rest ++ exponentText (point - 1)
  else if point ≤ 0 then "0." ++ zeros (-point).toNat ++ digits
  else
    let count := point.toNat
    if digits.length ≤ count then digits ++ zeros (count - digits.length) ++ ".0"
    else digits.take count ++ "." ++ digits.drop count

def text : Binary64 → Text
  | .nan => "nan"
  | .infinity negative => if negative then "-inf" else "inf"
  | .finite negative mantissa exponent =>
      let sign : Text := if negative then "-" else ""
      if mantissa = 0 then sign ++ "0.0"
      else
        let (digits, point) := shortest mantissa exponent
        sign ++ layout digits point

end SignOn.Binary64

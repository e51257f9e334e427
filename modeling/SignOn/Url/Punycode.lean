import SignOn.Text.Split

/-!
# Punycode

A text in ASCII letters and digits: its ASCII code points, a hyphen, and then, for each other code
point in order, how far it is from the one before, counted over all places in the text.  The
distances are written in digits whose weights adapt to the distances before.
-/

namespace SignOn.Punycode

def base : Nat := 36

/-- The least digit that is not the last of its number. -/
def threshold (place bias : Nat) : Nat := min 26 (max 1 (base * (place + 1) - bias))

def digit (n : Nat) : CodePoint := .ofNat (if n < 26 then 0x61 + n else 0x30 + (n - 26))

def digitValue? (c : CodePoint) : Option Nat :=
  if c.isLower then some (c.val - 0x61)
  else if c.isUpper then some (c.val - 0x41)
  else if c.isDigit then some (c.val - 0x30 + 26)
  else none

def scaleDown : (fuel : Nat) → (places delta : Nat) → Nat × Nat
  | 0, places, delta => (places, delta)
  | fuel + 1, places, delta =>
      if 455 < delta then scaleDown fuel (places + base) (delta / 35) else (places, delta)

def adapt (delta count : Nat) (first : Bool) : Nat :=
  let delta := if first then delta / 700 else delta / 2
  let (places, delta) := scaleDown delta 0 (delta + delta / count)
  places + base * delta / (delta + 38)

def initialBias : Nat := 72

def writeNumber : (fuel : Nat) → (bias place n : Nat) → Text
  | 0, _, _, _ => []
  | fuel + 1, bias, place, n =>
      let t := threshold place bias
      if n < t then [digit n]
      else
        digit (t + (n - t) % (base - t)) ::
          writeNumber fuel bias (place + 1) ((n - t) / (base - t))

structure Writer where
  next : Nat
  delta : Nat
  bias : Nat
  count : Nat
  first : Bool
  written : Text

def Writer.pass (value : Nat) (w : Writer) (c : CodePoint) : Writer :=
  if c.val < value then { w with delta := w.delta + 1 }
  else if c.val = value then
    { w with
      delta := 0
      bias := adapt w.delta (w.count + 1) w.first
      count := w.count + 1
      first := false
      written := w.written ++ writeNumber (w.delta + 1) w.bias 0 w.delta }
  else w

def Writer.value (t : Text) (w : Writer) (value : Nat) : Writer :=
  let w := { w with delta := w.delta + (value - w.next) * (w.count + 1), next := value }
  let w := t.foldl (Writer.pass value) w
  { w with delta := w.delta + 1, next := value + 1 }

def values (t : Text) : List Nat :=
  ((t.filter fun c => !c.isAscii).map (·.val)).mergeSort.eraseDups

def encode (t : Text) : Text :=
  let ascii := t.filter CodePoint.isAscii
  let start : Writer := ⟨0x80, 0, initialBias, ascii.length, true, []⟩
  let numbers := ((values t).foldl (Writer.value t) start).written
  if ascii.isEmpty then numbers else ascii ++ "-" ++ numbers

def readNumber? (bias : Nat) : (place weight sum : Nat) → Text → Option (Nat × Text)
  | _, _, _, [] => none
  | place, weight, sum, c :: rest => do
      let d ← digitValue? c
      let t := threshold place bias
      let sum := sum + d * weight
      if d < t then some (sum, rest)
      else readNumber? bias (place + 1) (weight * (base - t)) sum rest

/-- Puts the code points that the numbers stand for in place.  `value` and `place` are those of
the code point put last. -/
def insertAll? : (fuel : Nat) → (value place bias : Nat) → (first : Bool) → (t numbers : Text) →
    Option Text
  | _, _, _, _, _, t, [] => some t
  | 0, _, _, _, _, _, _ => none
  | fuel + 1, value, place, bias, first, t, numbers => do
      let (delta, rest) ← readNumber? bias 0 1 0 numbers
      let places := t.length + 1
      let value := value + (place + delta) / places
      let place := (place + delta) % places
      if 0x10FFFF < value then none
      else
        insertAll? fuel value (place + 1) (adapt delta places first) false
          (t.take place ++ .ofNat value :: t.drop place) rest

def decode? (t : Text) : Option Text :=
  let (ascii, numbers) := (Split.cutLast? (CodePoint.ofChar '-') t).getD ([], t)
  insertAll? numbers.length 0x80 0 initialBias true ascii numbers

end SignOn.Punycode

import SignOn.Text.Basic

/-!
# Dates

The calendar date and the time of day of a number of seconds since the start of 1970, without
leap seconds.  Days are counted in eras of 400 years that begin in March, so that the leap day is
the last day of its year.
-/

namespace SignOn

structure Date where
  year : Int
  month : Nat
  day : Nat
  deriving DecidableEq, Repr

namespace Date

def daysPerEra : Int := 146097

/-- The first of March of the year 0 comes this many days before the first of January 1970. -/
def epochOffset : Int := 719468

def yearOfEra (day : Nat) : Nat :=
  (day - day / 1460 + day / 36524 - day / 146096) / 365

def ofDays (days : Int) : Date :=
  let shifted := days + epochOffset
  let era := shifted.fdiv daysPerEra
  let dayOfEra := (shifted - era * daysPerEra).toNat
  let year := yearOfEra dayOfEra
  let dayOfYear := dayOfEra - (365 * year + year / 4 - year / 100)
  let march := (5 * dayOfYear + 2) / 153
  let day := dayOfYear - (153 * march + 2) / 5 + 1
  let month := if march < 10 then march + 3 else march - 9
  ⟨era * 400 + year + (if month ≤ 2 then 1 else 0), month, day⟩

def text (date : Date) : Text :=
  Text.padded 4 date.year.toNat ++ "-" ++ Text.padded 2 date.month ++ "-" ++ Text.padded 2 date.day

def momentText (seconds : Int) : Text :=
  let days := seconds.fdiv 86400
  let second := (seconds - days * 86400).toNat
  (ofDays days).text ++ " " ++ Text.padded 2 (second / 3600) ++ ":" ++
    Text.padded 2 (second / 60 % 60) ++ ":" ++ Text.padded 2 (second % 60)

end Date

end SignOn

import SignOn.Number.Reading

/-!
# Network addresses as text

Four decimal octets without leading zeros, or eight groups of hexadecimal digits, of which one run
of zeros may be left out and the last two may be written as octets.
-/

namespace SignOn.Address

def isOctet (t : Text) : Bool :=
  !t.isEmpty && t.all CodePoint.isDigit && t.length ≤ 3 &&
    (t.length = 1 || t.head? ≠ some (CodePoint.ofChar '0')) &&
    Number.ofDigits (t.filterMap Number.asciiDigit?) ≤ 255

def isFourOctets (t : Text) : Bool :=
  let octets := Split.splitOn (CodePoint.ofChar '.') t
  octets.length = 4 && octets.all isOctet

def isGroup (t : Text) : Bool :=
  !t.isEmpty && t.length ≤ 4 && t.all fun c => c.hexValue?.isSome

/-- The groups that stand before and after the run left out; what is empty at an end belongs to
the run. -/
def groupsBesides (parts : List Text) (gap : Nat) : Option (List Text) :=
  let before := parts.take gap
  let after := parts.drop (gap + 1)
  let opened := before.head? = some []
  let closed := after.getLast? = some []
  if opened && 1 < before.length then none
  else if closed && 1 < after.length then none
  else some ((if opened then [] else before) ++ (if closed then [] else after))

def isGroups (parts : List Text) : Bool :=
  let inner := parts.tail.dropLast
  if parts.length < 3 || 9 < parts.length then false
  else
    match inner.findIdx? List.isEmpty with
    | none => parts.length = 8 && parts.all isGroup
    | some i =>
        1 = inner.countP List.isEmpty &&
          match groupsBesides parts (i + 1) with
          | none => false
          | some groups => groups.length < 8 && groups.all isGroup

def withoutZone? (t : Text) : Option Text :=
  match Split.cutFirst? (CodePoint.ofChar '%') t with
  | none => some t
  | some (address, zone) =>
      if zone.isEmpty || zone.contains (CodePoint.ofChar '%') then none else some address

def isEightGroups (t : Text) : Bool :=
  match withoutZone? t with
  | none => false
  | some address =>
      let parts := Split.splitOn (CodePoint.ofChar ':') address
      match parts.getLast? with
      | none => false
      | some last =>
          if parts.length < 3 || address.contains (CodePoint.ofChar '/') then false
          else if last.contains (CodePoint.ofChar '.') then
            isFourOctets last && isGroups (parts.dropLast ++ [Text.ofNat 0, Text.ofNat 0])
          else isGroups parts

end SignOn.Address

import SignOn.Text.Basic

/-!
# Base64

`encode` writes one form.  `decode?` reads leniently: both alphabets count, bytes outside them are
dropped, and what follows a complete padding is not read.  A group of digits that is not complete
and not padded makes the whole unreadable.
-/

namespace SignOn.Base64

inductive Alphabet where
  | standard
  | urlSafe
  deriving DecidableEq, Repr

def digit (alphabet : Alphabet) (n : Nat) : UInt8 :=
  if n < 26 then UInt8.ofNat (0x41 + n)
  else if n < 52 then UInt8.ofNat (0x61 + (n - 26))
  else if n < 62 then UInt8.ofNat (0x30 + (n - 52))
  else
    match alphabet with
    | .standard => if n = 62 then 0x2B else 0x2F
    | .urlSafe => if n = 62 then 0x2D else 0x5F

def pad : UInt8 := 0x3D

def padding (padded : Bool) (count : Nat) : Bytes :=
  if padded then List.replicate count pad else []

def encode (alphabet : Alphabet) (padded : Bool) : Bytes → Bytes
  | a :: b :: c :: rest =>
      digit alphabet (a.toNat / 4) ::
        digit alphabet (a.toNat % 4 * 16 + b.toNat / 16) ::
        digit alphabet (b.toNat % 16 * 4 + c.toNat / 64) ::
        digit alphabet (c.toNat % 64) :: encode alphabet padded rest
  | [a, b] =>
      digit alphabet (a.toNat / 4) ::
        digit alphabet (a.toNat % 4 * 16 + b.toNat / 16) ::
        digit alphabet (b.toNat % 16 * 4) :: padding padded 1
  | [a] => digit alphabet (a.toNat / 4) :: digit alphabet (a.toNat % 4 * 16) :: padding padded 2
  | [] => []

def value? (b : UInt8) : Option Nat :=
  let n := b.toNat
  if 0x41 ≤ n && n ≤ 0x5A then some (n - 0x41)
  else if 0x61 ≤ n && n ≤ 0x7A then some (n - 0x61 + 26)
  else if 0x30 ≤ n && n ≤ 0x39 then some (n - 0x30 + 52)
  else if n = 0x2B || n = 0x2D then some 62
  else if n = 0x2F || n = 0x5F then some 63
  else none

/-- `count` digits of a group have been read, `held` are the bits of the last one that no byte has
taken yet, and `pads` pads have followed it. -/
def scan (count held pads : Nat) : Bytes → Option Bytes
  | [] => if count = 0 then some [] else none
  | b :: rest =>
      if b = pad then
        if count < 2 then scan count held pads rest
        else if 4 ≤ count + pads + 1 then some []
        else scan count held (pads + 1) rest
      else
        match value? b with
        | none => scan count held pads rest
        | some v =>
            match count with
            | 0 => scan 1 v 0 rest
            | 1 => (scan 2 (v % 16) 0 rest).map (UInt8.ofNat (held * 4 + v / 16) :: ·)
            | 2 => (scan 3 (v % 4) 0 rest).map (UInt8.ofNat (held * 16 + v / 4) :: ·)
            | _ => (scan 0 0 0 rest).map (UInt8.ofNat (held * 64 + v) :: ·)

def decode? (bs : Bytes) : Option Bytes := scan 0 0 0 bs

def complete (bs : Bytes) : Bytes := bs ++ List.replicate ((4 - bs.length % 4) % 4) pad

/-- A segment of a token: its padding may have been left out. -/
def decodeSegment? (bs : Bytes) : Option Bytes := decode? (complete bs)

end SignOn.Base64

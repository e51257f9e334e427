import SignOn.Text.Codec

/-!
# UTF-8

`encode` writes every code point, a lone surrogate in the three bytes its value would have.
`encodeStrict` refuses lone surrogates.  `decode` reads one byte at a time: `Pending` is what the
bytes of an unfinished sequence have settled, so a fault is found at the first byte that rules
the sequence out.
-/

namespace SignOn.Utf8

open Codec

def lead (marker n : Nat) : UInt8 := UInt8.ofNat (marker + n)

def tail (n : Nat) : UInt8 := UInt8.ofNat (0x80 + n % 64)

def encodePoint (c : CodePoint) : Bytes :=
  let n := c.val
  if n < 0x80 then [lead 0 n]
  else if n < 0x800 then [lead 0xC0 (n / 64), tail n]
  else if n < 0x10000 then [lead 0xE0 (n / 4096), tail (n / 64), tail n]
  else [lead 0xF0 (n / 262144), tail (n / 4096), tail (n / 64), tail n]

def encode (t : Text) : Bytes := t.flatMap encodePoint

def encodeStrict (t : Text) : Except EncodeFault Bytes :=
  match firstFault? .utf8 CodePoint.isSurrogate t with
  | some fault => .error fault
  | none => .ok (encode t)

theorem encodeStrict_of_isScalar {t : Text} (h : t.IsScalar) : encodeStrict t = .ok (encode t) := by
  simp [encodeStrict, firstFault?_eq_none_iff.2 h]

/-- An unfinished sequence: its first byte, how many bytes it has so far and the bits they hold,
how many more it needs and between which bounds the next one must lie.  `lone` marks the start of
a surrogate's three bytes. -/
structure Pending where
  first : UInt8
  taken : Nat
  value : Nat
  missing : Nat
  low : UInt8
  high : UInt8
  lone : Bool
  deriving DecidableEq, Repr

inductive Opening where
  | point (c : CodePoint)
  | pending (p : Pending)
  | refused

def opening (allowLone : Bool) (b : UInt8) : Opening :=
  let n := b.toNat
  if n < 0x80 then .point (.ofNat n)
  else if n < 0xC2 then .refused
  else if n < 0xE0 then .pending ⟨b, 1, n - 0xC0, 1, 0x80, 0xBF, false⟩
  else if n = 0xE0 then .pending ⟨b, 1, 0, 2, 0xA0, 0xBF, false⟩
  else if n = 0xED then .pending ⟨b, 1, 0xD, 2, 0x80, if allowLone then 0xBF else 0x9F, false⟩
  else if n < 0xF0 then .pending ⟨b, 1, n - 0xE0, 2, 0x80, 0xBF, false⟩
  else if n = 0xF0 then .pending ⟨b, 1, 0, 3, 0x90, 0xBF, false⟩
  else if n < 0xF4 then .pending ⟨b, 1, n - 0xF0, 3, 0x80, 0xBF, false⟩
  else if n = 0xF4 then .pending ⟨b, 1, 4, 3, 0x80, 0x8F, false⟩
  else .refused

def Pending.extend (p : Pending) (b : UInt8) : Pending :=
  { p with
    taken := p.taken + 1
    value := p.value * 64 + (b.toNat - 0x80)
    missing := p.missing - 1
    low := 0x80
    high := 0xBF
    lone := p.first = 0xED && p.taken = 1 && 0xA0 ≤ b }

def Pending.accepts (p : Pending) (b : UInt8) : Bool := p.low ≤ b && b ≤ p.high

/-- Where the sequence that began `p.taken` bytes before `position` goes wrong.  A surrogate that
is not completed is refused at its second byte. -/
def Pending.fault (p : Pending) (position : Nat) (reason : DecodeReason) : DecodeFault :=
  if p.lone then ⟨.utf8, p.first, position - p.taken, 1, .invalidContinuation⟩
  else ⟨.utf8, p.first, position - p.taken, p.taken, reason⟩

def scan (allowLone : Bool) : Nat → Option Pending → Bytes → Except DecodeFault Text
  | _, none, [] => .ok []
  | position, some p, [] => .error (p.fault position .unexpectedEnd)
  | position, none, b :: rest =>
      match opening allowLone b with
      | .point c => (scan allowLone (position + 1) none rest).map (c :: ·)
      | .pending p => scan allowLone (position + 1) (some p) rest
      | .refused => .error ⟨.utf8, b, position, 1, .invalidStart⟩
  | position, some p, b :: rest =>
      if p.accepts b then
        let q := p.extend b
        if q.missing = 0 then
          (scan allowLone (position + 1) none rest).map (CodePoint.ofNat q.value :: ·)
        else scan allowLone (position + 1) (some q) rest
      else .error (p.fault position .invalidContinuation)

def decode (bs : Bytes) : Except DecodeFault Text := scan false 0 none bs

def decodeLone (bs : Bytes) : Except DecodeFault Text := scan true 0 none bs

end SignOn.Utf8

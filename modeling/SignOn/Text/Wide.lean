import SignOn.Text.Utf8

/-!
# Documents in an unnamed encoding

The encoding of a JSON document is told from its first bytes: a byte order mark, or else where the
zero bytes stand among the first four.  Lone surrogates are kept in each encoding.
-/

namespace SignOn.Wide

open Codec

def joinBytes (bigEndian : Bool) (bs : Bytes) : Nat :=
  (if bigEndian then bs else bs.reverse).foldl (fun n b => n * 256 + b.toNat) 0

def units16 (bigEndian : Bool) : Nat → Bytes → Except DecodeFault (List Nat)
  | _, [] => .ok []
  | position, [b] => .error ⟨.utf16 bigEndian, b, position, 1, .truncated⟩
  | position, a :: b :: rest =>
      (units16 bigEndian (position + 2) rest).map (joinBytes bigEndian [a, b] :: ·)

def isHigh (n : Nat) : Bool := 0xD800 ≤ n && n ≤ 0xDBFF
def isLow (n : Nat) : Bool := 0xDC00 ≤ n && n ≤ 0xDFFF

def joinSurrogates (high low : Nat) : CodePoint :=
  .ofNat (0x10000 + (high - 0xD800) * 0x400 + (low - 0xDC00))

/-- A high surrogate right before a low one is one code point with it; all else stands alone. -/
def ofUnits16 : List Nat → Text
  | [] => []
  | [u] => [.ofNat u]
  | u :: v :: rest =>
      if isHigh u && isLow v then joinSurrogates u v :: ofUnits16 rest
      else .ofNat u :: ofUnits16 (v :: rest)

def decode16 (bigEndian : Bool) (position : Nat) (bs : Bytes) : Except DecodeFault Text :=
  (units16 bigEndian position bs).map ofUnits16

def decode32 (bigEndian : Bool) : Nat → Bytes → Except DecodeFault Text
  | _, [] => .ok []
  | position, a :: b :: c :: d :: rest =>
      let n := joinBytes bigEndian [a, b, c, d]
      if n < 0x110000 then
        (decode32 bigEndian (position + 4) rest).map (CodePoint.ofNat n :: ·)
      else .error ⟨.utf32 bigEndian, a, position, 4, .outOfRange⟩
  | position, a :: rest => .error ⟨.utf32 bigEndian, a, position, rest.length + 1, .truncated⟩

/-- Positions of faults count the byte order mark, except in UTF-8. -/
def decodeDetected : Bytes → Except DecodeFault Text
  | 0x00 :: 0x00 :: 0xFE :: 0xFF :: rest => decode32 true 4 rest
  | 0xFF :: 0xFE :: 0x00 :: 0x00 :: rest => decode32 false 4 rest
  | 0xFE :: 0xFF :: rest => decode16 true 2 rest
  | 0xFF :: 0xFE :: rest => decode16 false 2 rest
  | 0xEF :: 0xBB :: 0xBF :: rest => Utf8.decodeLone rest
  | bs =>
      match bs with
      | a :: b :: c :: d :: _ =>
          if a = 0 then (if b = 0 then decode32 true 0 bs else decode16 true 0 bs)
          else if b = 0 then
            (if c = 0 && d = 0 then decode32 false 0 bs else decode16 false 0 bs)
          else Utf8.decodeLone bs
      | [a, b] =>
          if a = 0 then decode16 true 0 bs
          else if b = 0 then decode16 false 0 bs
          else Utf8.decodeLone bs
      | _ => Utf8.decodeLone bs

end SignOn.Wide

import SignOn.Text.Split
import SignOn.Text.Utf8

/-!
# Percent encoding and forms

A code point that may not stand is written as its UTF-8 bytes, each a percent sign with two
hexadecimal digits.  A form is a list of named values; in it a space is a plus sign.  `formDecode?`
reads what `formEncode` writes.
-/

namespace SignOn.Percent

def isUnreserved (c : CodePoint) : Bool :=
  c.isLetter || c.isDigit || c = '-' || c = '.' || c = '_' || c = '~'

def byte (b : UInt8) : Text :=
  ['%', Text.upperHexDigit (b.toNat / 16), Text.upperHexDigit (b.toNat % 16)]

def point (c : CodePoint) : Text := (Utf8.encodePoint c).flatMap byte

def encode (stands : CodePoint → Bool) (t : Text) : Text :=
  t.flatMap fun c => if stands c then [c] else point c

abbrev Form := List (Text × Text)

def formPoint (c : CodePoint) : Text :=
  if c = ' ' then "+" else if isUnreserved c then [c] else point c

def formText (t : Text) : Text := t.flatMap formPoint

def formPair (pair : Text × Text) : Text := formText pair.1 ++ "=" ++ formText pair.2

def formEncode (form : Form) : Text := Text.join "&" (form.map formPair)

/-- The bytes that a text with escapes stands for; a percent sign that begins no escape stands for
itself. -/
def decodeBytes : Text → Bytes
  | c :: h :: l :: rest =>
      match if c = '%' then h.hexValue? else none, l.hexValue? with
      | some high, some low => UInt8.ofNat (high * 16 + low) :: decodeBytes rest
      | _, _ => Utf8.encodePoint c ++ decodeBytes (h :: l :: rest)
  | t => Utf8.encode t

def replacement : CodePoint := .ofNat 0xFFFD

/-- Reads UTF-8 with a replacement character for each sequence of bytes that is not. -/
def decodeReplacing : (fuel : Nat) → Bytes → Text
  | 0, _ => []
  | fuel + 1, bs =>
      match Utf8.decode bs with
      | .ok t => t
      | .error fault =>
          let before := match Utf8.decode (bs.take fault.start) with
            | .ok t => t
            | .error _ => []
          before ++ replacement :: decodeReplacing fuel (bs.drop (fault.start + fault.width))

def decode (t : Text) : Text :=
  let bs := decodeBytes t
  decodeReplacing (bs.length + 1) bs

def plusAsSpace (c : CodePoint) : CodePoint := if c = '+' then ' ' else c

def formTextDecode? (t : Text) : Option Text :=
  match Utf8.decode (decodeBytes (t.map plusAsSpace)) with
  | .ok t => some t
  | .error _ => none

def formPairDecode? (t : Text) : Option (Text × Text) :=
  let (name, value) := (Split.cutFirst? (CodePoint.ofChar '=') t).getD (t, [])
  match formTextDecode? name, formTextDecode? value with
  | some name, some value => some (name, value)
  | _, _ => none

def formDecode? (t : Text) : Option Form :=
  (Split.splitOn (CodePoint.ofChar '&') t).mapM formPairDecode?

end SignOn.Percent

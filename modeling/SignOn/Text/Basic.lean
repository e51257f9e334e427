/-!
# Text

A text is a list of code points.  Surrogate code points may stand alone in it: a document can
spell one with an escape, and what is read must be told apart from every other text until the
moment it has to be written as bytes.
-/

namespace SignOn

structure CodePoint where
  val : Nat
  isLt : val < 0x110000 := by decide
  deriving DecidableEq, Repr

namespace CodePoint

theorem val_lt_of_char (c : Char) : c.toNat < 0x110000 := by
  rcases c.valid with h | h
  · exact Nat.lt_trans h (by decide)
  · exact h.2

def ofChar (c : Char) : CodePoint := ⟨c.toNat, val_lt_of_char c⟩

instance : Coe Char CodePoint := ⟨ofChar⟩

instance : Inhabited CodePoint := ⟨'?'⟩

/-- The code point of a number; a number too large for one gives the replacement character. -/
def ofNat (n : Nat) : CodePoint :=
  if h : n < 0x110000 then ⟨n, h⟩ else ⟨0xFFFD, by decide⟩

def ofByte (b : UInt8) : CodePoint := ofNat b.toNat

@[simp] theorem val_ofNat {n : Nat} (h : n < 0x110000) : (ofNat n).val = n := by
  simp [ofNat, h]

@[simp] theorem ofNat_val (c : CodePoint) : ofNat c.val = c := by
  simp [ofNat, c.isLt]

def between (low high : Nat) (c : CodePoint) : Bool := low ≤ c.val && c.val ≤ high

def isSurrogate (c : CodePoint) : Bool := c.between 0xD800 0xDFFF

def isAscii (c : CodePoint) : Bool := c.val < 0x80
def isDigit (c : CodePoint) : Bool := c.between 0x30 0x39
def isUpper (c : CodePoint) : Bool := c.between 0x41 0x5A
def isLower (c : CodePoint) : Bool := c.between 0x61 0x7A
def isLetter (c : CodePoint) : Bool := c.isUpper || c.isLower

def hexValue? (c : CodePoint) : Option Nat :=
  if c.between 0x30 0x39 then some (c.val - 0x30)
  else if c.between 0x61 0x66 then some (c.val - 0x61 + 10)
  else if c.between 0x41 0x46 then some (c.val - 0x41 + 10)
  else none

def lower (c : CodePoint) : CodePoint :=
  if c.isUpper then ofNat (c.val + 32) else c

def upper (c : CodePoint) : CodePoint :=
  if c.isLower then ofNat (c.val - 32) else c

end CodePoint

abbrev Text := List CodePoint

abbrev Bytes := List UInt8

namespace Text

def ofString (s : String) : Text := s.toList.map .ofChar

instance : Coe String Text := ⟨ofString⟩

/-- Only scalar values: such a text has a UTF-8 form. -/
def IsScalar (t : Text) : Prop := ∀ c ∈ t, c.isSurrogate = false

instance (t : Text) : Decidable t.IsScalar := inferInstanceAs (Decidable (∀ c ∈ t, _))

def lower (t : Text) : Text := t.map .lower

def ofNat (n : Nat) : Text := (Nat.toDigits 10 n).map .ofChar

def ofInt (n : Int) : Text :=
  if n < 0 then "-" ++ ofNat n.natAbs else ofNat n.natAbs

def hexDigit (n : Nat) : CodePoint := .ofNat (if n < 10 then 0x30 + n else 0x61 + (n - 10))

def upperHexDigit (n : Nat) : CodePoint := .ofNat (if n < 10 then 0x30 + n else 0x41 + (n - 10))

def hex : (width : Nat) → Nat → Text
  | 0, _ => []
  | width + 1, n => hex width (n / 16) ++ [hexDigit (n % 16)]

def padded (width n : Nat) : Text :=
  let digits := ofNat n
  List.replicate (width - digits.length) (CodePoint.ofChar '0') ++ digits

def join (separator : Text) : List Text → Text
  | [] => []
  | [t] => t
  | t :: rest => t ++ separator ++ join separator rest

def le : Text → Text → Bool
  | [], _ => true
  | _ :: _, [] => false
  | c :: r, d :: s => c.val < d.val || (c.val == d.val && le r s)

end Text

end SignOn

import SignOn.Text.Quoted

/-!
# What goes wrong between text and bytes

A fault names the encoding, where it lies and why; `message` is its wording.  Positions count
bytes when text is read from bytes, and code points when it is written as bytes.
-/

namespace SignOn.Codec

inductive Encoding where
  | ascii
  | utf8
  | utf16 (bigEndian : Bool)
  | utf32 (bigEndian : Bool)
  deriving DecidableEq, Repr

def Encoding.name : Encoding → Text
  | .ascii => "ascii"
  | .utf8 => "utf-8"
  | .utf16 false => "utf-16-le"
  | .utf16 true => "utf-16-be"
  | .utf32 false => "utf-32-le"
  | .utf32 true => "utf-32-be"

inductive DecodeReason where
  | invalidStart
  | invalidContinuation
  | unexpectedEnd
  | truncated
  | outOfRange
  | notAscii
  deriving DecidableEq, Repr

def DecodeReason.message : DecodeReason → Text
  | .invalidStart => "invalid start byte"
  | .invalidContinuation => "invalid continuation byte"
  | .unexpectedEnd => "unexpected end of data"
  | .truncated => "truncated data"
  | .outOfRange => "code point not in range(0x110000)"
  | .notAscii => "ordinal not in range(128)"

/-- The bytes from `start` on, `width` of them, the first being `first`, cannot be read. -/
structure DecodeFault where
  encoding : Encoding
  first : UInt8
  start : Nat
  width : Nat
  reason : DecodeReason
  deriving DecidableEq, Repr

def span (one many : Text) (start width : Nat) : Text :=
  if width = 1 then one ++ " in position " ++ Text.ofNat start
  else many ++ " in position " ++ Text.ofNat start ++ "-" ++ Text.ofNat (start + width - 1)

def DecodeFault.message (f : DecodeFault) : Text :=
  "'" ++ f.encoding.name ++ "' codec can't decode " ++
    span ("byte 0x" ++ Text.hex 2 f.first.toNat) "bytes" f.start f.width ++ ": " ++
    f.reason.message

structure EncodeFault where
  encoding : Encoding
  first : CodePoint
  start : Nat
  width : Nat
  deriving DecidableEq, Repr

def EncodeFault.reason (f : EncodeFault) : Text :=
  match f.encoding with
  | .ascii => "ordinal not in range(128)"
  | _ => "surrogates not allowed"

def EncodeFault.message (f : EncodeFault) : Text :=
  "'" ++ f.encoding.name ++ "' codec can't encode " ++
    span ("character '" ++ Text.escapeHex f.first ++ "'") "characters" f.start f.width ++ ": " ++
    f.reason

def firstFault? (encoding : Encoding) (refused : CodePoint → Bool) (t : Text) :
    Option EncodeFault :=
  match t.dropWhile fun c => !refused c with
  | [] => none
  | c :: rest =>
      some ⟨encoding, c, t.length - (rest.length + 1), 1 + (rest.takeWhile refused).length⟩

theorem firstFault?_eq_none_iff {encoding : Encoding} {refused : CodePoint → Bool} {t : Text} :
    firstFault? encoding refused t = none ↔ ∀ c ∈ t, refused c = false := by
  have key : (t.dropWhile fun c => !refused c) = [] ↔ ∀ c ∈ t, refused c = false := by
    induction t with
    | nil => simp
    | cons c t ih => cases h : refused c <;> simp_all
  rw [← key]
  unfold firstFault?
  split <;> simp_all

def asciiBytes (t : Text) : Except EncodeFault Bytes :=
  match firstFault? .ascii (fun c => !c.isAscii) t with
  | some fault => .error fault
  | none => .ok (t.map fun c => UInt8.ofNat c.val)

end SignOn.Codec

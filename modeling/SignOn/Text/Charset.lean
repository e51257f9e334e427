import SignOn.Text.Codec
import SignOn.Text.Split

/-!
# Decoders that fail

A decoder that is told to replace what it cannot read still fails on some bytes, and one that is
not made for bytes or for replacing fails on all.  Only that is modelled here, since the text that
a decoder gives is logged and looked at no further.
-/

namespace SignOn.Charset

inductive Fault where
  /-- A decoder from bytes to bytes replaces nothing. -/
  | strictOnly
  | textOnly
  | handling
  | undefined
  | unmarked (bits : Nat)
  | notAscii (fault : Codec.DecodeFault)
  | overflow
  | internal
  deriving DecidableEq, Repr

def Fault.message : Fault → Text
  | .strictOnly => []
  | .textOnly => "descriptor 'translate' for 'str' objects doesn't apply to a 'bytes' object"
  | .handling => "Unsupported error handling replace"
  | .undefined => "undefined encoding"
  | .unmarked bits => "UTF-" ++ Text.ofNat bits ++ " stream does not start with BOM"
  | .notAscii fault => fault.message
  | .overflow => "pending buffer overflow"
  | .internal => "internal codec error"

/-- Bytes whose order has to be shown by a mark that they begin with. -/
def markFault? (bits : Nat) (marks : List Bytes) (bytes : Bytes) : Option Fault :=
  if bytes.length < bits / 8 || marks.any (·.isPrefixOf bytes) then none else some (.unmarked bits)

/-- Of Punycode, what follows the last hyphen has to be ASCII. -/
def punycodeFault? (bytes : Bytes) : Option Fault :=
  let numbers := (Split.cutLast? (UInt8.ofNat 0x2D) bytes).elim bytes (·.2)
  match numbers.find? (0x80 ≤ ·), numbers.findIdx? (0x80 ≤ ·) with
  | some b, some position => some (.notAscii ⟨.ascii, b, position, 1, .notAscii⟩)
  | _, _ => none

namespace Iso2022

/-- What the encodings of the family differ in: the marks of the sets with two bytes to a code
point and with one, and what else is understood. -/
structure Variant where
  wide : List Char
  narrow : List Char
  shifts : Bool := false
  hasThird : Bool := false
  hasPrefix : Bool := true

inductive Charset where
  | ascii
  | narrow (mark : UInt8)
  | wide
  deriving DecidableEq, Repr

structure State where
  first : Charset := .ascii
  second : Charset := .ascii
  third : Charset := .ascii
  shifted : Bool := false
  /-- An escape of another kind goes through up to its end. -/
  through : Bool := false

def byte (c : Char) : UInt8 := UInt8.ofNat c.toNat

def escape : UInt8 := 0x1B

def endsEscape (b : UInt8) : Bool := byte '@' ≤ b && b ≤ byte 'Z'

def longestEscape : Nat := 16

def pendingLimit : Nat := 8

/-- The length of the escape that bytes begin with, from a place in it on: none if they end too
early, and zero if it does not end in time. -/
def escapeLength? (v : Variant) : (fuel place : Nat) → Bytes → Option Nat
  | 0, _, _ => some 0
  | fuel + 1, place, bytes =>
      if longestEscape ≤ place then some 0
      else
        match bytes.drop place with
        | [] => none
        | b :: rest =>
            if endsEscape b then some (place + 1)
            else if v.hasPrefix && b = byte '&' && rest.head? = some (byte '@') then
              escapeLength? v fuel (place + 3) bytes
            else escapeLength? v fuel (place + 1) bytes

def Variant.charset? (v : Variant) (isWide : Bool) (mark : UInt8) : Option Charset :=
  if isWide then if (v.wide.map byte).contains mark then some .wide else none
  else if mark = byte 'B' then some .ascii
  else if (v.narrow.map byte).contains mark then some (.narrow mark)
  else none

def State.designate (s : State) (v : Variant) (escape : Bytes) : State :=
  match escape.drop 1 with
  | [how, mark] =>
      if how = byte '$' then (v.charset? true mark).elim s fun set => { s with first := set }
      else if how = byte '(' then (v.charset? false mark).elim s fun set => { s with first := set }
      else if how = byte ')' then (v.charset? false mark).elim s fun set => { s with second := set }
      else if v.hasThird && how = byte '.' then
        (v.charset? false mark).elim s fun set => { s with third := set }
      else s
  | [how, which, mark] =>
      if how = byte '$' && which = byte '(' then
        (v.charset? true mark).elim s fun set => { s with first := set }
      else if how = byte '$' && which = byte ')' then
        (v.charset? true mark).elim s fun set => { s with second := set }
      else s
  | [_, _, third, fourth, fifth] =>
      if v.hasPrefix && [third, fourth, fifth] = [Iso2022.escape, byte '$', byte 'B'] then
        { s with first := .wide }
      else s
  | _ => s

/-- Goes through bytes, whose decoder may run out of room or into a set that it does not know. -/
def fault? (v : Variant) : (fuel : Nat) → State → Bytes → Option Fault
  | 0, _, _ => none
  | _, _, [] => none
  | fuel + 1, s, b :: rest =>
      if s.through then fault? v fuel { s with through := !endsEscape b } rest
      else if b = escape then
        match rest with
        | [] => none
        | kind :: after =>
            if ("()$.&".toList.map byte).contains kind then
              match escapeLength? v longestEscape 1 (b :: rest) with
              | none => if pendingLimit < rest.length + 1 then some .overflow else none
              | some 0 => fault? v fuel s rest
              | some length =>
                  fault? v fuel (s.designate v ((b :: rest).take length))
                    ((b :: rest).drop length)
            else if v.hasThird && kind = byte 'N' then
              if after.isEmpty then none
              else if s.third ∈ [.ascii, .narrow (byte 'A'), .narrow (byte 'F')] then
                fault? v fuel s (after.drop 1)
              else some .internal
            else fault? v fuel { s with through := true } rest
      else if v.shifts && b = 0x0F then fault? v fuel { s with shifted := false } rest
      else if v.shifts && b = 0x0E then fault? v fuel { s with shifted := true } rest
      else if b = 0x0A then fault? v fuel { s with shifted := false } rest
      else if b < 0x20 || 0x80 ≤ b then fault? v fuel s rest
      else
        match if s.shifted then s.second else s.first with
        | .wide => if rest.isEmpty then none else fault? v fuel s (rest.drop 1)
        | _ => fault? v fuel s rest

def korean : Variant := { wide := ['C'], narrow := [], shifts := true, hasPrefix := false }
def japanese : Variant := { wide := ['B', '@'], narrow := ['J'] }
def japanese1 : Variant := { wide := ['B', 'D', '@'], narrow := ['J'] }

def japanese2 : Variant :=
  { wide := ['B', 'D', 'C', 'A', '@'], narrow := ['J', 'A', 'F'], hasThird := true }

def japanese2004 : Variant := { wide := ['Q', 'B', 'P'], narrow := [] }
def japanese3 : Variant := { wide := ['O', 'B', 'P'], narrow := [] }
def japaneseExtended : Variant := { wide := ['B', 'D', '@'], narrow := ['J', 'I'] }

end Iso2022

inductive Decoder where
  | bytes
  | rotation
  | hosts
  | undefined
  | utf16
  | utf32
  | punycode
  | iso2022 (variant : Iso2022.Variant)

def Decoder.fault? (bytes : Bytes) : Decoder → Option Fault
  | .bytes => some .strictOnly
  | .rotation => some .textOnly
  | .hosts => some .handling
  | .undefined => some .undefined
  | .utf16 => markFault? 16 [[0xFF, 0xFE], [0xFE, 0xFF]] bytes
  | .utf32 => markFault? 32 [[0xFF, 0xFE, 0, 0], [0, 0, 0xFE, 0xFF]] bytes
  | .punycode => punycodeFault? bytes
  | .iso2022 variant => Iso2022.fault? variant (bytes.length + 1) {} bytes

/-- The decoders that can fail, by their names. -/
def decoders : List (Text × Decoder) := [
  ("base64_codec", .bytes), ("bz2_codec", .bytes), ("hex_codec", .bytes), ("quopri_codec", .bytes),
  ("uu_codec", .bytes), ("zlib_codec", .bytes), ("rot_13", .rotation), ("idna", .hosts),
  ("undefined", .undefined), ("utf_16", .utf16), ("utf_32", .utf32), ("punycode", .punycode),
  ("iso2022_kr", .iso2022 Iso2022.korean), ("iso2022_jp", .iso2022 Iso2022.japanese),
  ("iso2022_jp_1", .iso2022 Iso2022.japanese1), ("iso2022_jp_2", .iso2022 Iso2022.japanese2),
  ("iso2022_jp_2004", .iso2022 Iso2022.japanese2004),
  ("iso2022_jp_3", .iso2022 Iso2022.japanese3),
  ("iso2022_jp_ext", .iso2022 Iso2022.japaneseExtended)]

def aliases : List (Text × Text) := [
  ("base64", "base64_codec"), ("base_64", "base64_codec"), ("bz2", "bz2_codec"),
  ("hex", "hex_codec"), ("quopri", "quopri_codec"), ("quoted_printable", "quopri_codec"),
  ("quotedprintable", "quopri_codec"), ("uu", "uu_codec"), ("zip", "zlib_codec"),
  ("zlib", "zlib_codec"), ("rot13", "rot_13"), ("u16", "utf_16"), ("utf16", "utf_16"),
  ("u32", "utf_32"), ("utf32", "utf_32"), ("csiso2022kr", "iso2022_kr"),
  ("iso2022kr", "iso2022_kr"), ("iso_2022_kr", "iso2022_kr"), ("csiso2022jp", "iso2022_jp"),
  ("iso2022jp", "iso2022_jp"), ("iso_2022_jp", "iso2022_jp"), ("iso2022jp_1", "iso2022_jp_1"),
  ("iso_2022_jp_1", "iso2022_jp_1"), ("iso2022jp_2", "iso2022_jp_2"),
  ("iso_2022_jp_2", "iso2022_jp_2"), ("iso2022jp_2004", "iso2022_jp_2004"),
  ("iso_2022_jp_2004", "iso2022_jp_2004"), ("iso2022jp_3", "iso2022_jp_3"),
  ("iso_2022_jp_3", "iso2022_jp_3"), ("iso2022jp_ext", "iso2022_jp_ext"),
  ("iso_2022_jp_ext", "iso2022_jp_ext")]

def dot : CodePoint := '.'

/-- Letters, digits and points in lower case, with a line for every run of others between them. -/
def normalName (name : Text) : Text :=
  Text.join "_" (Split.runs (fun c => !(c.isLetter || c.isDigit || c = dot)) name.lower)

def decoder? (name : Text) : Option Decoder :=
  let name := normalName name
  let plain : Text := name.map fun c => if c = dot then CodePoint.ofChar '_' else c
  let known := (aliases.find? fun entry => entry.1 = plain).elim name (·.2)
  (decoders.find? fun entry => entry.1 = known).map (·.2)

end SignOn.Charset

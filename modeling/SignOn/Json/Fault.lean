import SignOn.Number.Reading

/-!
# What is wrong with a JSON document

A fault is a place with what was expected there, an integer with too many digits, or a value that
holds others where there is no room to read them.
-/

namespace SignOn.Json

inductive Reason where
  | value
  | propertyName
  | colon
  | comma
  | unterminatedString
  | controlCharacter
  | escape
  | unicodeEscape
  | extraData
  | byteOrderMark
  deriving DecidableEq, Repr

def Reason.message : Reason → Text
  | .value => "Expecting value"
  | .propertyName => "Expecting property name enclosed in double quotes"
  | .colon => "Expecting ':' delimiter"
  | .comma => "Expecting ',' delimiter"
  | .unterminatedString => "Unterminated string starting at"
  | .controlCharacter => "Invalid control character at"
  | .escape => "Invalid \\escape"
  | .unicodeEscape => "Invalid \\uXXXX escape"
  | .extraData => "Extra data"
  | .byteOrderMark => "Unexpected UTF-8 BOM (decode using utf-8-sig)"

inductive Container where
  | array
  | object
  deriving DecidableEq, Repr

def Container.name : Container → Text
  | .array => "array"
  | .object => "object"

inductive Fault where
  | expected (reason : Reason) (position : Nat)
  | digits (count : Nat)
  | nesting (container : Container)
  deriving DecidableEq, Repr

def Container.tooDeep (container : Container) : Text :=
  "maximum recursion depth exceeded while decoding a JSON " ++ container.name ++
    " from a unicode string"

def place (document : Text) (position : Nat) : Nat × Nat :=
  let lines := Split.splitOn (CodePoint.ofChar '\n') (document.take position)
  (lines.length, (lines.getLast?.getD []).length + 1)

def Fault.message (document : Text) : Fault → Text
  | .expected reason position =>
      let (line, column) := place document position
      reason.message ++ ": line " ++ Text.ofNat line ++ " column " ++ Text.ofNat column ++
        " (char " ++ Text.ofNat position ++ ")"
  | .digits count => Number.tooManyDigits count
  | .nesting container => container.tooDeep

end SignOn.Json

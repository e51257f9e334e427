import SignOn.Json.Value
import SignOn.Number.Shortest

/-!
# Writing JSON documents

Without blanks and in ASCII: every other code point is written as an escape, one beyond sixteen
bits as the escapes of its two surrogates.
-/

namespace SignOn.Json

def writePoint (c : CodePoint) : Text :=
  if c = '"' then "\\\""
  else if c = '\\' then "\\\\"
  else if c = '\n' then "\\n"
  else if c = '\r' then "\\r"
  else if c = '\t' then "\\t"
  else if 0x20 ≤ c.val && c.val < 0x7F then [c]
  else if c.val < 0x10000 then "\\u" ++ Text.hex 4 c.val
  else
    let n := c.val - 0x10000
    "\\u" ++ Text.hex 4 (0xD800 + n / 0x400) ++ "\\u" ++ Text.hex 4 (0xDC00 + n % 0x400)

def writeString (t : Text) : Text := "\"" ++ t.flatMap writePoint ++ "\""

def writeNumber : Binary64 → Text
  | .nan => "NaN"
  | .infinity negative => if negative then "-Infinity" else "Infinity"
  | x => x.text

mutual

def write : Json → Text
  | .null => "null"
  | .bool true => "true"
  | .bool false => "false"
  | .int n => Text.ofInt n
  | .float x => writeNumber x
  | .str t => writeString t
  | .arr elements => "[" ++ Text.join "," (writeAll elements) ++ "]"
  | .obj fields => "\x7b" ++ Text.join "," (writeFields fields) ++ "\x7d"

def writeAll : List Json → List Text
  | [] => []
  | value :: rest => write value :: writeAll rest

def writeFields : List (Text × Json) → List Text
  | [] => []
  | field :: rest => (writeString field.1 ++ ":" ++ write field.2) :: writeFields rest

end

end SignOn.Json

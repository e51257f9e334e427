import SignOn.Http.Message
import SignOn.Number.Reading
import SignOn.Text.Charset
import SignOn.Url.Percent

/-!
# The text of an answer

The body of an answer is read as a text in the charset of its content type, or in UTF-8 where none
is named that is known.  A parameter of a content type can be written in pieces that are numbered,
and with escapes behind the name of an encoding.  That encoding is taken to agree with ASCII.
-/

namespace SignOn.Http

inductive TextFault where
  | tooManyDigits (count : Nat)
  /-- Numbered and unnumbered pieces of a parameter; `numberedLast` says which come later. -/
  | unordered (numberedLast : Bool)
  | nullInName
  | decoder (fault : Charset.Fault)
  deriving DecidableEq, Repr

def TextFault.message : TextFault → Text
  | .tooManyDigits count => Number.tooManyDigits count
  | .unordered true => "'<' not supported between instances of 'int' and 'NoneType'"
  | .unordered false => "'<' not supported between instances of 'NoneType' and 'int'"
  | .nullInName => "embedded null character"
  | .decoder fault => fault.message

namespace ContentType

def isQuoteOpen : (escaped : Bool) → Text → Bool
  | _, [] => false
  | escaped, c :: rest => (isQuoteOpen (c = '\\') rest).xor (c = '"' && !escaped)

def joinQuoted (piece : Text) : List Text → List Text
  | [] => [piece]
  | next :: rest =>
      if isQuoteOpen false piece then joinQuoted (piece ++ ";" ++ next) rest
      else piece :: joinQuoted next rest

def strip (t : Text) : Text := Split.trim CodePoint.isBlank t

def unescaped (mark : CodePoint) : Text → Text
  | [] => []
  | [c] => [c]
  | c :: d :: rest =>
      if c = '\\' && d = mark then d :: unescaped mark rest else c :: unescaped mark (d :: rest)

def unquoted (t : Text) : Text :=
  let isBetween (first last : Char) : Bool :=
    2 ≤ t.length && t.head? = some (CodePoint.ofChar first) &&
      t.getLast? = some (CodePoint.ofChar last)
  if isBetween '"' '"' then unescaped '"' (unescaped '\\' (t.drop 1).dropLast)
  else if isBetween '<' '>' then (t.drop 1).dropLast
  else t

def parameter (piece : Text) : Text × Text :=
  match Split.cutFirst? (CodePoint.ofChar '=') piece with
  | some (name, value) => ((strip name).lower, unquoted (strip value))
  | none => (strip piece, [])

/-- The media type comes first, as a parameter without a value. -/
def parameters (contentType : Text) : List (Text × Text) :=
  match Split.splitOn (CodePoint.ofChar ';') contentType with
  | [] => []
  | piece :: rest => (joinQuoted piece rest).map parameter

structure Piece where
  number : Option Nat
  value : Text
  hasEscapes : Bool
  deriving DecidableEq, Repr

def isWord (c : CodePoint) : Bool := c.isLetter || c.isDigit || c = '_'

def pieceName? (name : Text) : Option (Text × Text × Bool) :=
  let star := CodePoint.ofChar '*'
  match Split.cutFirst? star name with
  | none => none
  | some (base, rest) =>
      if base.isEmpty || !base.all isWord then none
      else if rest.isEmpty then some (base, [], true)
      else
        let hasEscapes := rest.getLast? = some star
        let digits := if hasEscapes then rest.dropLast else rest
        if digits.isEmpty || !digits.all CodePoint.isDigit then none
        else some (base, digits, hasEscapes)

def readPiece (digits value : Text) (hasEscapes : Bool) : Except TextFault Piece :=
  if digits.isEmpty then .ok ⟨none, value, hasEscapes⟩
  else if Number.digitLimit < digits.length then .error (.tooManyDigits digits.length)
  else
    .ok ⟨some (Number.ofDigits (digits.filterMap Number.asciiDigit?)), value, hasEscapes⟩

def readPieces : List (Text × Text) → Except TextFault (List (Text × Piece))
  | [] => .ok []
  | (name, value) :: rest =>
      match pieceName? name with
      | none => readPieces rest
      | some (base, digits, hasEscapes) => do
          let piece ← readPiece digits value hasEscapes
          .ok ((base, piece) :: (← readPieces rest))

def Piece.le (piece other : Piece) : Bool :=
  if piece.number = other.number then
    if piece.value = other.value then !piece.hasEscapes || other.hasEscapes
    else piece.value.le other.value
  else piece.number.getD 0 ≤ other.number.getD 0

def arrange (pieces : List Piece) : Except TextFault (List Piece) :=
  let isNumbered (piece : Piece) : Bool := piece.number.isSome
  if pieces.any isNumbered && !pieces.all isNumbered then
    .error (.unordered (pieces.head?.all fun piece => !isNumbered piece))
  else .ok (pieces.mergeSort Piece.le)

def Piece.text (piece : Piece) : Text :=
  -- An escape is a byte, which stands for the code point of that number.
  if piece.hasEscapes then (Percent.decodeBytes piece.value).map CodePoint.ofByte
  else piece.value

def quoteMark : CodePoint := '\''

def assemble (pieces : List Piece) : Text × Text :=
  let text := pieces.flatMap Piece.text
  if pieces.any (·.hasEscapes) then
    match Split.splitOn quoteMark text with
    | encoding :: _ :: rest@(_ :: _) => (encoding, Text.join [quoteMark] rest)
    | _ => ([], text)
  else ([], text)

def null : CodePoint := .ofNat 0

def charsetName : Text := "charset"

/-- The value of the charset parameter with what is named as its own encoding.  All parameters are
put together before one is chosen. -/
def charsetValue? (contentType : Text) : Except TextFault (Option (Text × Text)) := do
  let parameters := parameters contentType
  let pieces ← readPieces (parameters.drop 1)
  let arranged ← (pieces.map (·.1)).eraseDups.mapM fun name => do
    let own ← arrange ((pieces.filter (·.1 = name)).map (·.2))
    .ok (name, own)
  let whole := parameters.take 1 ++
    (parameters.drop 1).filter fun parameter => (pieceName? parameter.1).isNone
  match whole.find? fun parameter => parameter.1.lower = charsetName with
  | some (_, value) => .ok (some ([], value))
  | none => .ok ((arranged.find? fun entry => entry.1.lower = charsetName).map
      fun entry => assemble entry.2)

def charset? (contentType : Text) : Except TextFault (Option Text) := do
  match ← charsetValue? contentType with
  | none => .ok none
  | some (encoding, value) =>
      if encoding.contains null then .error .nullInName
      else if value.all CodePoint.isAscii then .ok (some value.lower)
      else .ok none

end ContentType

/-- What keeps the body of an answer from being read as a text, if anything does. -/
def Answer.checkText (answer : Answer) : Except TextFault Unit :=
  if answer.body.isEmpty then .ok ()
  else do
    match ← ((answer.header? "content-type").elim (.ok none) ContentType.charset?) with
    | none => .ok ()
    | some name =>
        if name.contains ContentType.null then .error .nullInName
        else
          match (Charset.decoder? name).bind (·.fault? answer.body) with
          | none => .ok ()
          | some fault => .error (.decoder fault)

end SignOn.Http

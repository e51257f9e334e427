import SignOn.Json.Fault
import SignOn.Json.Value
import SignOn.Number.Reading
import SignOn.Text.Wide

/-!
# Reading JSON documents

`read` reads a document: one value between blanks.  A reader of a part takes a cursor, the rest of
the document with its position, and returns the part with the cursor after it.  Nested values are
read on fuel that twice the length of the document covers, and down to a depth that the stack has
room for.
-/

namespace SignOn.Json

structure Cursor where
  position : Nat
  rest : Text

def fail {α : Type} (reason : Reason) (position : Nat) : Except Fault α :=
  .error (.expected reason position)

def Cursor.skipBlanks (c : Cursor) : Cursor :=
  let rest := c.rest.dropWhile CodePoint.isJsonBlank
  ⟨c.position + (c.rest.length - rest.length), rest⟩

inductive StringUnit where
  | plain (c : CodePoint)
  | escaped (n : Nat)

/-- Two escapes that give a high and a low surrogate stand for one code point. -/
def joinUnits : List StringUnit → Text
  | [] => []
  | .plain c :: rest => c :: joinUnits rest
  | .escaped n :: .escaped m :: rest =>
      if Wide.isHigh n && Wide.isLow m then Wide.joinSurrogates n m :: joinUnits rest
      else .ofNat n :: joinUnits (.escaped m :: rest)
  | .escaped n :: rest => .ofNat n :: joinUnits rest

def simpleEscape? (c : CodePoint) : Option CodePoint :=
  if c = '"' || c = '\\' || c = '/' then some c
  else if c = 'b' then some '\x08'
  else if c = 'f' then some '\x0c'
  else if c = 'n' then some '\n'
  else if c = 'r' then some '\r'
  else if c = 't' then some '\t'
  else none

def hexQuad? (a b c d : CodePoint) : Option Nat := do
  let a ← a.hexValue?
  let b ← b.hexValue?
  let c ← c.hexValue?
  let d ← d.hexValue?
  some (((a * 16 + b) * 16 + c) * 16 + d)

def prepend (u : StringUnit) : Except Fault (List StringUnit × Cursor) →
    Except Fault (List StringUnit × Cursor)
  | .error fault => .error fault
  | .ok (units, cursor) => .ok (u :: units, cursor)

/-- The units of a string up to its closing quote; `start` is the place of the opening one. -/
def stringUnits (start : Nat) : Nat → Text → Except Fault (List StringUnit × Cursor)
  | _, [] => fail .unterminatedString start
  | position, c :: rest =>
      if c = '"' then .ok ([], ⟨position + 1, rest⟩)
      else if c.val < 0x20 then fail .controlCharacter position
      else if c = '\\' then
        match rest with
        | [] => fail .unterminatedString start
        | e :: rest =>
            if e = 'u' then
              match rest with
              | h₁ :: h₂ :: h₃ :: h₄ :: next :: rest =>
                  match hexQuad? h₁ h₂ h₃ h₄ with
                  | none => fail .unicodeEscape (position + 1)
                  | some n =>
                      prepend (.escaped n) (stringUnits start (position + 6) (next :: rest))
              | _ => fail .unicodeEscape (position + 1)
            else
              match simpleEscape? e with
              | none => fail .escape position
              | some d => prepend (.plain d) (stringUnits start (position + 2) rest)
      else prepend (.plain c) (stringUnits start (position + 1) rest)

def readString (c : Cursor) : Except Fault (Text × Cursor) :=
  (stringUnits (c.position - 1) c.position c.rest).map fun (units, cursor) =>
    (joinUnits units, cursor)

def fractionDigits : Text → Text
  | [] => []
  | c :: rest => if c = '.' then rest.takeWhile CodePoint.isDigit else []

def exponentPart? : Text → Option (Nat × Int)
  | [] => none
  | c :: rest =>
      if c = 'e' || c = 'E' then
        let (negative, body) := Number.takeSign rest
        let digits := body.takeWhile CodePoint.isDigit
        if digits.isEmpty then none
        else
          some (1 + (rest.length - body.length) + digits.length,
            Number.signed negative (Number.ofDigits (digits.filterMap Number.asciiDigit?)))
      else none

def wholeDigits : Text → Text
  | [] => []
  | c :: rest => if c = '0' then [c] else (c :: rest).takeWhile CodePoint.isDigit

def readNumber (c : Cursor) : Except Fault (Json × Cursor) :=
  let negative := c.rest.head? = some (CodePoint.ofChar '-')
  let body := if negative then c.rest.drop 1 else c.rest
  let whole := wholeDigits body
  let digits := whole.filterMap Number.asciiDigit?
  if whole.isEmpty then fail .value c.position
  else
    let afterWhole := body.drop whole.length
    let fraction := fractionDigits afterWhole
    let afterFraction :=
      if fraction.isEmpty then afterWhole else afterWhole.drop (fraction.length + 1)
    let exponent := exponentPart? afterFraction
    let rest := match exponent with
      | none => afterFraction
      | some (length, _) => afterFraction.drop length
    let cursor : Cursor := ⟨c.position + (c.rest.length - rest.length), rest⟩
    if fraction.isEmpty && exponent.isNone then
      if Number.digitLimit < digits.length then .error (.digits digits.length)
      else .ok (.int (Number.signed negative (Number.ofDigits digits)), cursor)
    else
      let power : Int := (exponent.map (·.2)).getD 0
      let all := digits ++ fraction.filterMap Number.asciiDigit?
      .ok (.float (.ofDecimal negative (Number.ofDigits all) (power - fraction.length)), cursor)

def literals : List (Text × Json) :=
  [("null", .null), ("true", .bool true), ("false", .bool false), ("NaN", .float .nan),
    ("Infinity", .float (.infinity false)), ("-Infinity", .float (.infinity true))]

def readLiteral? (c : Cursor) : Option (Json × Cursor) :=
  literals.findSome? fun (word, value) =>
    if word.isPrefixOf c.rest then
      some (value, ⟨c.position + word.length, c.rest.drop word.length⟩)
    else none

/-- How deep a document may nest.  The stack has room for a thousand calls, less those of whoever
has the document read: nothing proved depends on the number. -/
def nestingLimit : Nat := 960

mutual

def readValue : (fuel depth : Nat) → Cursor → Except Fault (Json × Cursor)
  | 0, _, c => fail .value c.position
  | fuel + 1, depth, c =>
      match c.rest with
      | [] => fail .value c.position
      | d :: rest =>
          let inner : Cursor := ⟨c.position + 1, rest⟩
          if d = '"' then (readString inner).map fun (t, cursor) => (.str t, cursor)
          else if d = '{' then
            match depth with
            | 0 => .error (.nesting .object)
            | depth + 1 =>
                (readMembers fuel depth true inner.skipBlanks).map fun (members, cursor) =>
                  (.obj (Fields.ofMembers members), cursor)
          else if d = '[' then
            match depth with
            | 0 => .error (.nesting .array)
            | depth + 1 =>
                (readElements fuel depth true inner.skipBlanks).map fun (elements, cursor) =>
                  (.arr elements, cursor)
          else
            match readLiteral? c with
            | some found => .ok found
            | none => readNumber c

def readElements : (fuel depth : Nat) → (first : Bool) → Cursor →
    Except Fault (List Json × Cursor)
  | 0, _, _, c => fail .value c.position
  | fuel + 1, depth, first, c =>
      if first && c.rest.head? = some (CodePoint.ofChar ']') then
        .ok ([], ⟨c.position + 1, c.rest.drop 1⟩)
      else do
        let (value, cursor) ← readValue fuel depth c
        let cursor := cursor.skipBlanks
        let next : Cursor := ⟨cursor.position + 1, cursor.rest.drop 1⟩
        if cursor.rest.head? = some (CodePoint.ofChar ']') then .ok ([value], next)
        else if cursor.rest.head? = some (CodePoint.ofChar ',') then do
          let (values, last) ← readElements fuel depth false next.skipBlanks
          .ok (value :: values, last)
        else fail .comma cursor.position

def readMembers : (fuel depth : Nat) → (first : Bool) → Cursor →
    Except Fault (List (Text × Json) × Cursor)
  | 0, _, _, c => fail .value c.position
  | fuel + 1, depth, first, c =>
      if first && c.rest.head? = some (CodePoint.ofChar '}') then
        .ok ([], ⟨c.position + 1, c.rest.drop 1⟩)
      else if c.rest.head? ≠ some (CodePoint.ofChar '"') then fail .propertyName c.position
      else do
        let (name, cursor) ← readString ⟨c.position + 1, c.rest.drop 1⟩
        let cursor := cursor.skipBlanks
        if cursor.rest.head? ≠ some (CodePoint.ofChar ':') then fail .colon cursor.position
        else do
          let inner : Cursor := ⟨cursor.position + 1, cursor.rest.drop 1⟩
          let (value, cursor) ← readValue fuel depth inner.skipBlanks
          let cursor := cursor.skipBlanks
          let next : Cursor := ⟨cursor.position + 1, cursor.rest.drop 1⟩
          if cursor.rest.head? = some (CodePoint.ofChar '}') then .ok ([(name, value)], next)
          else if cursor.rest.head? = some (CodePoint.ofChar ',') then do
            let (members, last) ← readMembers fuel depth false next.skipBlanks
            .ok ((name, value) :: members, last)
          else fail .comma cursor.position

end

def byteOrderMark : CodePoint := .ofNat 0xFEFF

def readDocument (document : Text) : Except Fault Json := do
  let start : Cursor := ⟨0, document⟩
  let (value, cursor) ← readValue (2 * document.length + 2) nestingLimit start.skipBlanks
  let cursor := cursor.skipBlanks
  if cursor.rest.isEmpty then .ok value else fail .extraData cursor.position

def read (document : Text) : Except Fault Json :=
  if document.head? = some byteOrderMark then fail .byteOrderMark 0 else readDocument document

/-- What keeps bytes or a text from being read as a document.  A fault in a document keeps the
document, for its place in it. -/
inductive ReadFault where
  | decoding (fault : Codec.DecodeFault)
  | reading (document : Text) (fault : Fault)
  deriving DecidableEq, Repr

def ReadFault.message : ReadFault → Text
  | .decoding fault => fault.message
  | .reading document fault => fault.message document

def ReadFault.tooDeep? : ReadFault → Option Container
  | .reading _ (.nesting container) => some container
  | _ => none

theorem ReadFault.tooDeep?_eq_some_iff {fault : ReadFault} {container : Container} :
    fault.tooDeep? = some container ↔
      ∃ document, fault = .reading document (.nesting container) := by
  unfold tooDeep?
  split
  · simp [eq_comm]
  next hother =>
    refine iff_of_false nofun ?_
    rintro ⟨document, rfl⟩
    exact hother _ _ rfl

def readText (document : Text) : Except ReadFault Json :=
  (read document).mapError (.reading document)

def readUtf8 (bytes : Bytes) : Except ReadFault Json := do
  let document ← (Utf8.decode bytes).mapError .decoding
  readText document

def readBytes (bytes : Bytes) : Except ReadFault Json := do
  let document ← (Wide.decodeDetected bytes).mapError .decoding
  (readDocument document).mapError (.reading document)

end SignOn.Json

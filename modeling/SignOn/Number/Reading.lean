import SignOn.Number.Binary64
import SignOn.Text.Blank
import SignOn.Text.Digit

/-!
# Numbers written as text

Three readers.  `anyInteger?` reads the integers of claims and of ports: digits of any script with
single underscores between them.  `fieldInteger` and `fieldNumber?` read the fields of a record:
ASCII digits, leading zeros and a fraction of zeros allowed in an integer, the special values
allowed in a number.
-/

namespace SignOn.Number

/-- No integer with more digits than this is read. -/
def digitLimit : Nat := 4300

def tooManyDigits (count : Nat) : Text :=
  "Exceeds the limit (4300 digits) for integer string conversion: value has " ++
    Text.ofNat count ++ " digits; use sys.set_int_max_str_digits() to increase the limit"

def ofDigits (digits : List Nat) : Nat := digits.foldl (fun n d => n * 10 + d) 0

def asciiDigit? (c : CodePoint) : Option Nat := if c.isDigit then some (c.val - 0x30) else none

def digitRun? (digit? : CodePoint → Option Nat) : Text → Option (List Nat)
  | [] => none
  | c :: rest =>
      match digit? c, rest with
      | none, _ => none
      | some d, [] => some [d]
      | some d, u :: more =>
          if u = '_' then (digitRun? digit? more).map (d :: ·)
          else (digitRun? digit? (u :: more)).map (d :: ·)

def takeSign : Text → Bool × Text
  | [] => (false, [])
  | c :: rest =>
      if c = '-' then (true, rest) else if c = '+' then (false, rest) else (false, c :: rest)

def signed (negative : Bool) (n : Nat) : Int := if negative then -(n : Int) else n

def anyInteger? (t : Text) : Option Int := do
  let (negative, body) := takeSign t.trimmed
  let digits ← digitRun? CodePoint.digitValue? body
  if digits.length ≤ digitLimit then some (signed negative (ofDigits digits)) else none

inductive FieldFault where
  | unreadable
  | tooLong
  deriving DecidableEq, Repr

/-- Drops the zeros a number begins with, underscores among them included, but for the one that
stands for the number or before the point.  A number must begin with a digit or a minus. -/
def dropLeadingZeros? : Text → Option Text
  | [] => none
  | c :: rest =>
      if c = '0' then
        let isZero (d : CodePoint) : Bool := d = '0' || d = '_'
        match rest.dropWhile isZero with
        | [] => some [rest.getLast?.getD c]
        | d :: more =>
            if d.isDigit then some (d :: more)
            else if d = '.' then
              some (((c :: rest.takeWhile isZero).getLast?.getD c) :: d :: more)
            else none
      else if c.isDigit || c = '-' then some (c :: rest)
      else none

def dropZeroFraction? (t : Text) : Option Text :=
  match Split.cutFirst? (CodePoint.ofChar '.') t with
  | none => some t
  | some (whole, fraction) =>
      if !fraction.isEmpty && fraction.all (fun c => c = '0') then some whole else none

def hasDoubled (c : CodePoint) : Text → Bool
  | a :: b :: rest => (a = c && b = c) || hasDoubled c (b :: rest)
  | _ => false

/-- Drops underscores, unless one ends the text or two stand together. -/
def dropUnderscores (t : Text) : Text :=
  if t.getLast? = some (CodePoint.ofChar '_') || hasDoubled '_' t then t
  else t.filter fun c => c ≠ '_'

def plainInteger (t : Text) : Except FieldFault Int :=
  let (negative, body) := match t with
    | [] => (false, [])
    | c :: rest => if c = '-' then (true, rest) else (false, c :: rest)
  if body.isEmpty || !body.all CodePoint.isDigit then .error .unreadable
  else if 1 < body.length && body.head? = some (CodePoint.ofChar '0') then .error .unreadable
  else if digitLimit < body.length then .error .tooLong
  else .ok (signed negative (ofDigits (body.filterMap asciiDigit?)))

def fieldInteger (t : Text) : Except FieldFault Int :=
  let t := t.trimmed
  let unsigned? : Option Text := match t with
    | [] => none
    | c :: rest =>
        if c = '+' then
          if rest.head? = some (CodePoint.ofChar '-') then none else some rest
        else some t
  match unsigned?.bind dropLeadingZeros? |>.bind dropZeroFraction? with
  | none => .error .unreadable
  | some t => plainInteger (dropUnderscores t)

def exponent? : Text → Option Int
  | [] => some 0
  | c :: rest =>
      if c = 'e' || c = 'E' then
        let (negative, digits) := takeSign rest
        if digits.isEmpty || !digits.all CodePoint.isDigit then none
        else some (signed negative (ofDigits (digits.filterMap asciiDigit?)))
      else none

def isNamed (name : String) (t : Text) : Bool := t.lower = Text.ofString name

def plainNumber? (t : Text) : Option Binary64 :=
  let (negative, body) := takeSign t
  if isNamed "inf" body || isNamed "infinity" body then some (.infinity negative)
  else if isNamed "nan" body then some .nan
  else
    let whole := body.takeWhile CodePoint.isDigit
    let rest := body.dropWhile CodePoint.isDigit
    let (fraction, rest) := match rest with
      | [] => ([], [])
      | c :: more =>
          if c = '.' then (more.takeWhile CodePoint.isDigit, more.dropWhile CodePoint.isDigit)
          else ([], c :: more)
    let digits := whole ++ fraction
    if digits.isEmpty then none
    else
      (exponent? rest).map fun e =>
        .ofDecimal negative (ofDigits (digits.filterMap asciiDigit?)) (e - fraction.length)

def fieldNumber? (t : Text) : Option Binary64 :=
  match plainNumber? t.trimmed with
  | some x => some x
  | none =>
      let underscore := CodePoint.ofChar '_'
      if t.head? = some underscore || t.getLast? = some underscore || hasDoubled underscore t ||
          !t.contains underscore then none
      else plainNumber? (Text.trimmed (t.filter (· ≠ underscore)))

end SignOn.Number

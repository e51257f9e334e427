import SignOn.Text.Composed
import SignOn.Text.Direction
import SignOn.Text.Lowercase
import SignOn.Url.HostPoint
import SignOn.Url.Punycode

/-!
# Host names of all scripts

A host name is a list of labels.  A label of other scripts than ASCII is written in a form that is
ASCII, once it is found to be valid; a label in such a form has to stand for a valid one.  Of a code
point that stands in no host name the tables know nothing else, so a label with one is refused for
that point where another fault might come first.
-/

namespace SignOn.Idna

inductive Fault where
  | nameTooLong
  | emptyName
  | labelTooLong
  | emptyLabel
  | emptyForm
  | formEndsInHyphen
  | formUndecodable
  | notComposed
  | hyphensInside
  | hyphenAtEnd
  | beginsWithMark
  | joiner (c : CodePoint) (position : Nat) (label : Text)
  | context (c : CodePoint) (position : Nat) (label : Text)
  | point (c : CodePoint) (position : Nat) (label : Text)
  | direction (fault : Direction.Fault)
  deriving DecidableEq, Repr

def pointName (c : CodePoint) : Text :=
  let width := if c.val < 0x10000 then 4 else if c.val < 0x100000 then 5 else 6
  "U+" ++ (Text.hex width c.val).map CodePoint.upper

def Fault.message : Fault → Text
  | .nameTooLong => "Domain too long"
  | .emptyName => "Empty domain"
  | .labelTooLong => "Label too long"
  | .emptyLabel => "Empty Label"
  | .emptyForm => "Malformed A-label, no Punycode eligible content found"
  | .formEndsInHyphen => "A-label must not end with a hyphen"
  | .formUndecodable => "Invalid A-label"
  | .notComposed => "Label must be in Normalization Form C"
  | .hyphensInside => "Label has disallowed hyphens in 3rd and 4th position"
  | .hyphenAtEnd => "Label must not start or end with a hyphen"
  | .beginsWithMark => "Label begins with an illegal combining character"
  | .joiner c position label =>
      "Unknown codepoint adjacent to joiner " ++ pointName c ++ " at position " ++
        Text.ofNat position ++ " in " ++ label.quoted
  | .context c position label =>
      "Codepoint " ++ pointName c ++ " not allowed at position " ++ Text.ofNat position ++ " in " ++
        label.quoted
  | .point c position label =>
      "Codepoint " ++ pointName c ++ " at position " ++ Text.ofNat position ++ " of " ++
        label.quoted ++ " not allowed"
  | .direction fault => fault.message

def lower (t : Text) : Text := t.lowerCase

def hyphen : CodePoint := '-'

def beginsWithMark (label : Text) : Bool := (label.head?.map CodePoint.isMark).getD false

def maxName : Nat := 253

def maxLabel : Nat := 63

def checkPoints (label : Text) : Except Fault Unit :=
  match HostPoint.firstMisfit? [] label with
  | none => .ok ()
  | some (c, position) =>
      if HostPoint.isJoiner c then .error (.joiner c (position + 1) label)
      else if HostPoint.isContextual c then .error (.context c (position + 1) label)
      else .error (.point c (position + 1) label)

def checkLabel (label : Text) : Except Fault Unit := do
  if label.isEmpty then .error .emptyLabel
  if maxName + 1 < label.length then .error .labelTooLong
  if !label.isComposed then .error .notComposed
  if (label.drop 2).take 2 = [hyphen, hyphen] then .error .hyphensInside
  if label.head? = some hyphen || label.getLast? = some hyphen then .error .hyphenAtEnd
  if beginsWithMark label then .error .beginsWithMark
  checkPoints label
  match label.directionFault? with
  | none => .ok ()
  | some fault => .error (.direction fault)

def mark : Text := "xn--"

def decodeLabel (label : Text) : Except Fault Text :=
  let label := label.lower
  if mark.isPrefixOf label then
    let form := label.drop mark.length
    if form.isEmpty then .error .emptyForm
    else if form.getLast? = some hyphen then .error .formEndsInHyphen
    else
      match Punycode.decode? form with
      | none => .error .formUndecodable
      | some label => (checkLabel label).map fun _ => label
  else (checkLabel label).map fun _ => label

def isOk {α : Type} : Except Fault α → Bool
  | .ok _ => true
  | .error _ => false

def encodeLabel? (label : Text) : Option Text :=
  let (valid, form) :=
    if label.all CodePoint.isAscii then (isOk (decodeLabel label), label)
    else (isOk (checkLabel label), mark ++ Punycode.encode label)
  if valid && form.length ≤ maxLabel then some form else none

def isDot (c : CodePoint) : Bool := [0x2E, 0x3002, 0xFF0E, 0xFF61].contains c.val

def labels (name : Text) : List Text × Bool :=
  let labels := Split.splitWhere isDot name
  if labels.getLast? = some [] then (labels.dropLast, true) else (labels, false)

def encode? (name : Text) : Option Text := do
  let (labels, dotted) := labels name
  let forms ← labels.mapM encodeLabel?
  let form := Text.join "." forms ++ if dotted then Text.ofString "." else []
  let bound := maxName + if dotted then 1 else 0
  if name.length ≤ maxName + 1 && !forms.isEmpty && form.length ≤ bound then some form else none

def decode (name : Text) : Except Fault Text :=
  if maxName + 1 < name.length then .error .nameTooLong
  else if name.isEmpty then .error .emptyName
  else do
    let (labels, dotted) := labels name
    let names ← labels.mapM decodeLabel
    .ok (Text.join "." names ++ if dotted then Text.ofString "." else [])

end SignOn.Idna

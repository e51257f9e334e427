import SignOn.Number.Reading
import SignOn.Record.Issue

/-!
# Reading the fields of a record

A reader takes the value of a field and returns what it stands for, leniently: integers may be
written as text, flags and whole numbers pass for integers.
-/

namespace SignOn.Record

def string : Json → Checked Text
  | .str t => .ok t
  | value => .refuse .notString value

def boundedString (least most : Nat) : Json → Checked Text
  | .str t =>
      if ¬ t.IsScalar then .refuse .stringUnicode (.str t)
      else if t.length < least then .refuse (.stringTooShort least) (.str t)
      else if most < t.length then .refuse (.stringTooLong most) (.str t)
      else .ok t
  | value => .refuse .notString value

def strings : Json → Checked (List Text)
  | .arr elements => .all string 0 elements
  | value => .refuse .notList value

def integerOfText (t : Text) : Checked Int :=
  match Number.fieldInteger t with
  | .ok n => .ok n
  | .error .unreadable => .refuse .integerUnreadable (.str t)
  | .error .tooLong => .refuse .integerTooLong (.str t)

/-- A whole number of less than 63 bits. -/
def integerOfNumber (x : Binary64) : Checked Int :=
  match x.truncated? with
  | none => .refuse .notFinite (.float x)
  | some n =>
      if !x.isWhole then .refuse .integerFraction (.float x)
      else if n.natAbs < Nat.pow 2 63 then .ok n
      else .refuse .integerTooLong (.float x)

def integer : Json → Checked Int
  | .int n => .ok n
  | .bool b => .ok (if b then 1 else 0)
  | .float x => integerOfNumber x
  | .str t => integerOfText t
  | value => .refuse .notInteger value

def numberOfText (t : Text) : Checked Binary64 :=
  match Number.fieldNumber? t with
  | some x => .ok x
  | none => .refuse .numberUnreadable (.str t)

def yesWords : List Text := ["1", "on", "t", "true", "y", "yes"]

def noWords : List Text := ["0", "off", "f", "false", "n", "no"]

def flagOfText (t : Text) : Checked Bool :=
  if yesWords.contains t.lower then .ok true
  else if noWords.contains t.lower then .ok false
  else .refuse .flagUnreadable (.str t)

def nullable {α : Type} (read : Json → Checked α) : Json → Checked (Option α)
  | .null => .ok none
  | value => (read value).map some

/-- The field of that name; the whole record is at fault when it is missing. -/
def required {α : Type} (fields : Json.Fields) (name : Text) (read : Json → Checked α) :
    Checked α :=
  match fields.get? name with
  | none => .error [⟨[.field name], .missing, .obj fields⟩]
  | some value => (read value).under (.field name)

def withDefault {α : Type} (fields : Json.Fields) (name : Text) (default : α)
    (read : Json → Checked α) : Checked α :=
  match fields.get? name with
  | none => .ok default
  | some value => (read value).under (.field name)

def optional {α : Type} (fields : Json.Fields) (name : Text) (read : Json → Checked α) :
    Checked (Option α) :=
  withDefault fields name none (nullable read)

def ofObject {α : Type} (model : Text) (read : Json.Fields → Checked α) : Json → Checked α
  | .obj fields => read fields
  | value => .refuse (.notRecord model) value

end SignOn.Record

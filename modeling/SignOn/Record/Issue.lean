import SignOn.Json.Value

/-!
# What is wrong with a record

An issue is a kind of fault, the path to the value at fault and that value.  `Checked` values
collect the issues of all parts in order, so that one reading of a record reports every one.
-/

namespace SignOn.Record

inductive Step where
  | field (name : Text)
  | index (n : Nat)
  deriving DecidableEq, Repr

def Step.json : Step → Json
  | .field name => .str name
  | .index n => .int n

inductive Kind where
  | missing
  | notRecord (model : Text)
  | notObject
  | notString
  | stringTooShort (least : Nat)
  | stringTooLong (most : Nat)
  | stringUnicode
  | notList
  | notInteger
  | integerUnreadable
  | integerTooLong
  | integerFraction
  | notFinite
  | numberUnreadable
  | flagUnreadable
  | documentUnreadable (reason : Text)
  deriving DecidableEq, Repr

def Kind.code : Kind → Text
  | .missing => "missing"
  | .notRecord _ => "model_type"
  | .notObject => "model_attributes_type"
  | .notString => "string_type"
  | .stringTooShort _ => "string_too_short"
  | .stringTooLong _ => "string_too_long"
  | .stringUnicode => "string_unicode"
  | .notList => "list_type"
  | .notInteger => "int_type"
  | .integerUnreadable => "int_parsing"
  | .integerTooLong => "int_parsing_size"
  | .integerFraction => "int_from_float"
  | .notFinite => "finite_number"
  | .numberUnreadable => "float_parsing"
  | .flagUnreadable => "bool_parsing"
  | .documentUnreadable _ => "json_invalid"

def characters (n : Nat) : Text :=
  Text.ofNat n ++ (if n = 1 then " character" else " characters")

def Kind.message : Kind → Text
  | .missing => "Field required"
  | .notRecord model => "Input should be a valid dictionary or instance of " ++ model
  | .notObject => "Input should be a valid dictionary or object to extract fields from"
  | .notString => "Input should be a valid string"
  | .stringTooShort least => "String should have at least " ++ characters least
  | .stringTooLong most => "String should have at most " ++ characters most
  | .stringUnicode =>
      "Input should be a valid string, unable to parse raw data as a unicode string"
  | .notList => "Input should be a valid list"
  | .notInteger => "Input should be a valid integer"
  | .integerUnreadable => "Input should be a valid integer, unable to parse string as an integer"
  | .integerTooLong => "Unable to parse input string as an integer, exceeded maximum size"
  | .integerFraction => "Input should be a valid integer, got a number with a fractional part"
  | .notFinite => "Input should be a finite number"
  | .numberUnreadable => "Input should be a valid number, unable to parse string as a number"
  | .flagUnreadable => "Input should be a valid boolean, unable to interpret input"
  | .documentUnreadable _ => "JSON decode error"

def Kind.context? : Kind → Option Json
  | .stringTooShort least => some (Json.object [("min_length", .int least)])
  | .stringTooLong most => some (Json.object [("max_length", .int most)])
  | .documentUnreadable reason => some (Json.object [("error", .str reason)])
  | _ => none

structure Issue where
  path : List Step
  kind : Kind
  input : Json

def Issue.json (issue : Issue) : Json :=
  Json.object ([("type", .str issue.kind.code), ("loc", .arr (issue.path.map Step.json)),
      ("msg", .str issue.kind.message), ("input", issue.input)] ++
    (issue.kind.context?.map fun context => [("ctx", context)]).getD [])

def Issue.under (step : Step) (issue : Issue) : Issue :=
  { issue with path := step :: issue.path }

/-- How many issues a record of a model has.  What is said of each of them is left out. -/
def summary (model : Text) (issues : List Issue) : Text :=
  Text.ofNat issues.length ++
    (if issues.length = 1 then " validation error for " else " validation errors for ") ++ model

abbrev Checked (α : Type) := Except (List Issue) α

def Checked.refuse {α : Type} (kind : Kind) (input : Json) : Checked α :=
  .error [⟨[], kind, input⟩]

def Checked.both {α β : Type} (x : Checked α) (y : Checked β) : Checked (α × β) :=
  match x, y with
  | .ok a, .ok b => .ok (a, b)
  | .ok _, .error issues => .error issues
  | .error issues, .ok _ => .error issues
  | .error issues, .error more => .error (issues ++ more)

def Checked.of {α : Type} (a : α) : Checked α := .ok a

def Checked.apply {α β : Type} (f : Checked (α → β)) (x : Checked α) : Checked β :=
  (f.both x).map fun (g, a) => g a

def Checked.under {α : Type} (step : Step) (x : Checked α) : Checked α :=
  x.mapError fun issues => issues.map (Issue.under step)

/-- The results for all elements, each issue under its element's index. -/
def Checked.all {α : Type} (check : Json → Checked α) : (index : Nat) → List Json →
    Checked (List α)
  | _, [] => .ok []
  | index, value :: rest =>
      (Checked.both ((check value).under (.index index)) (Checked.all check (index + 1) rest)).map
        fun (a, as) => a :: as

end SignOn.Record

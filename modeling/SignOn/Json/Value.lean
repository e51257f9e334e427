import SignOn.Number.Binary64
import SignOn.Text.Basic

/-!
# JSON values

Whole numbers are exact, all other numbers are binary floating-point numbers, the special ones
among them.  The fields of an object keep the order in which their names first came; a name that
comes again replaces the value.
-/

namespace SignOn

inductive Json where
  | null
  | bool (b : Bool)
  | int (n : Int)
  | float (x : Binary64)
  | str (t : Text)
  | arr (elements : List Json)
  | obj (fields : List (Text × Json))

namespace Json

instance : Inhabited Json := ⟨.null⟩

abbrev Fields := List (Text × Json)

def Fields.get? (fields : Fields) (name : Text) : Option Json :=
  (fields.find? fun field => field.1 = name).map (·.2)

def Fields.set (name : Text) (value : Json) : Fields → Fields
  | [] => [(name, value)]
  | field :: rest =>
      if field.1 = name then (name, value) :: rest else field :: Fields.set name value rest

def Fields.ofMembers (members : List (Text × Json)) : Fields :=
  members.foldl (fun fields member => Fields.set member.1 member.2 fields) []

theorem Fields.get?_set (name other : Text) (value : Json) (fields : Fields) :
    Fields.get? (Fields.set name value fields) other =
      if other = name then some value else Fields.get? fields other := by
  induction fields with
  | nil => by_cases h : name = other <;> simp_all [Fields.set, Fields.get?, eq_comm]
  | cons field rest ih =>
      unfold Fields.get? at ih
      by_cases h : field.1 = name <;> by_cases h' : field.1 = other <;>
        by_cases h'' : other = name <;> simp_all [Fields.set, Fields.get?]

def field? (value : Json) (name : Text) : Option Json :=
  match value with
  | .obj fields => Fields.get? fields name
  | _ => none

def ofText? : Option Text → Json
  | none => .null
  | some t => .str t

def texts (ts : List Text) : Json := .arr (ts.map .str)

def object (members : List (String × Json)) : Json :=
  .obj (members.map fun member => (Text.ofString member.1, member.2))

mutual

def isSendable : Json → Bool
  | .null | .bool _ | .int _ => true
  | .float x => x.isFinite
  | .str t => decide t.IsScalar
  | .arr elements => allSendable elements
  | .obj fields => fieldsSendable fields

def allSendable : List Json → Bool
  | [] => true
  | value :: rest => isSendable value && allSendable rest

def fieldsSendable : List (Text × Json) → Bool
  | [] => true
  | field :: rest => decide field.1.IsScalar && isSendable field.2 && fieldsSendable rest

end

end Json

end SignOn

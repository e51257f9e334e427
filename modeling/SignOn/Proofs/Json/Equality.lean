import SignOn.Json.Value

/-!
# Equality of JSON values

Values hold values in lists, so their equality is decided part by part: `same` compares two values
and is true of equal ones only.
-/

namespace SignOn.Json

mutual

def same : Json → Json → Bool
  | .null, .null => true
  | .bool a, .bool b => decide (a = b)
  | .int a, .int b => decide (a = b)
  | .float a, .float b => decide (a = b)
  | .str a, .str b => decide (a = b)
  | .arr as, .arr bs => allSame as bs
  | .obj as, .obj bs => fieldsSame as bs
  | _, _ => false

def allSame : List Json → List Json → Bool
  | [], [] => true
  | a :: as, b :: bs => same a b && allSame as bs
  | _, _ => false

def fieldsSame : List (Text × Json) → List (Text × Json) → Bool
  | [], [] => true
  | a :: as, b :: bs => decide (a.1 = b.1) && same a.2 b.2 && fieldsSame as bs
  | _, _ => false

end

mutual

theorem same_iff (a b : Json) : same a b = true ↔ a = b := by
  cases a with
  | arr as =>
      cases b with
      | arr bs => simp only [same, allSame_iff as bs, Json.arr.injEq]
      | _ => simp [same]
  | obj as =>
      cases b with
      | obj bs => simp only [same, fieldsSame_iff as bs, Json.obj.injEq]
      | _ => simp [same]
  | _ => cases b <;> simp [same]

theorem allSame_iff (as bs : List Json) : allSame as bs = true ↔ as = bs := by
  cases as with
  | nil => cases bs <;> simp [allSame]
  | cons a as =>
      cases bs with
      | nil => simp [allSame]
      | cons b bs => simp [allSame, same_iff a b, allSame_iff as bs]

theorem fieldsSame_iff (as bs : List (Text × Json)) : fieldsSame as bs = true ↔ as = bs := by
  cases as with
  | nil => cases bs <;> simp [fieldsSame]
  | cons a as =>
      cases bs with
      | nil => simp [fieldsSame]
      | cons b bs => simp [fieldsSame, same_iff a.2 b.2, fieldsSame_iff as bs, Prod.ext_iff]

end

instance : DecidableEq Json := fun a b => decidable_of_iff _ (same_iff a b)

end SignOn.Json

import Mathlib.Logic.Relator
import SignOn.Record.Field

/-!
# Readings that are alike

An issue echoes the value at fault.  Two readings of records are alike where both succeed with
values that are related, or both fail with issues that differ in what they echo only.
-/

namespace SignOn

inductive ResultsAlike {ε α : Type} (faults : ε → ε → Prop) (like : α → α → Prop) :
    Except ε α → Except ε α → Prop
  | ok {a b : α} (h : like a b) : ResultsAlike faults like (.ok a) (.ok b)
  | error {fault other : ε} (h : faults fault other) :
      ResultsAlike faults like (.error fault) (.error other)

namespace ResultsAlike

variable {ε δ α β : Type} {faults : ε → ε → Prop} {faultsResult : δ → δ → Prop}
  {like : α → α → Prop} {likeResult : β → β → Prop} {x y : Except ε α}

theorem refl (hfaults : ∀ fault, faults fault fault) (hlike : ∀ a, like a a) (x : Except ε α) :
    ResultsAlike faults like x x := by
  cases x with
  | ok a => exact .ok (hlike a)
  | error fault => exact .error (hfaults fault)

theorem mono {likeOther : α → α → Prop} (h : ResultsAlike faults like x y)
    (hlike : ∀ a b, like a b → likeOther a b) : ResultsAlike faults likeOther x y := by
  cases h with
  | ok hab => exact .ok (hlike _ _ hab)
  | error hfault => exact .error hfault

theorem mapError (h : ResultsAlike faults like x y) {f : ε → δ}
    (hf : ∀ fault other, faults fault other → faultsResult (f fault) (f other)) :
    ResultsAlike faultsResult like (x.mapError f) (y.mapError f) := by
  cases h with
  | ok hlike => exact .ok hlike
  | error hfault => exact .error (hf _ _ hfault)

theorem bind (h : ResultsAlike faults like x y) {f g : α → Except ε β}
    (hnext : ∀ a b, like a b → ResultsAlike faults likeResult (f a) (g b)) :
    ResultsAlike faults likeResult (x >>= f) (y >>= g) := by
  cases h with
  | ok hlike => exact hnext _ _ hlike
  | error hfault => exact .error hfault

end ResultsAlike

namespace Record

open Relator (LiftFun)

def Issue.withoutInput (issue : Issue) : Issue := { issue with input := .null }

def unechoed (issues : List Issue) : List Issue := issues.map Issue.withoutInput

@[simp] theorem unechoed_append (issues more : List Issue) :
    unechoed (issues ++ more) = unechoed issues ++ unechoed more := List.map_append

abbrev ReadingsAlike {α : Type} (like : α → α → Prop) : Checked α → Checked α → Prop :=
  ResultsAlike (fun issues others => unechoed issues = unechoed others) like

variable {α β : Type} {like : α → α → Prop} {likeResult : β → β → Prop}

theorem ReadingsAlike.refl (hlike : ∀ a, like a a) (x : Checked α) : ReadingsAlike like x x := by
  cases x with
  | ok a => exact .ok (hlike a)
  | error issues => exact .error rfl

theorem ReadingsAlike.of_eq {x y : Checked α} (h : x = y) : ReadingsAlike Eq x y :=
  h ▸ .refl Eq.refl x

/-- The issues of both parts are collected, so each part may fail on its own. -/
theorem ReadingsAlike.apply {f g : Checked (α → β)} {x y : Checked α}
    (hf : ReadingsAlike (LiftFun like likeResult) f g) (hx : ReadingsAlike like x y) :
    ReadingsAlike likeResult (f.apply x) (g.apply y) := by
  cases hf with
  | ok hf =>
      cases hx with
      | ok hx => exact .ok (hf hx)
      | error hx => exact .error hx
  | error hf =>
      cases hx with
      | ok hx => exact .error hf
      | error hx =>
          refine .error ?_
          rw [unechoed_append, unechoed_append, hf, hx]

variable {fields others : Json.Fields} {name : Text}

/-- A field that is missing is reported with the whole record. -/
theorem alike_required (h : fields.get? name = others.get? name) (read : Json → Checked α) :
    ReadingsAlike Eq (required fields name read) (required others name read) := by
  unfold required
  rw [h]
  cases others.get? name with
  | none => exact .error rfl
  | some value => exact .of_eq rfl

theorem alike_withDefault (h : fields.get? name = others.get? name) (default : α)
    (read : Json → Checked α) :
    ReadingsAlike Eq (withDefault fields name default read)
      (withDefault others name default read) := by
  refine .of_eq ?_
  rw [withDefault, withDefault, h]

theorem alike_optional (h : fields.get? name = others.get? name) (read : Json → Checked α) :
    ReadingsAlike Eq (optional fields name read) (optional others name read) :=
  alike_withDefault h none (nullable read)

end Record

end SignOn

import SignOn.Proofs.Record.Likeness
import SignOn.Provider.Document

/-!
# Failures that are alike

A failure keeps the values at fault, and an answer without success, with its body.  Failures are
alike when they differ in these only.  Nobody who reads the kind of a failure and its message can
tell two of them apart.
-/

namespace SignOn

open Record (unechoed)

def Http.Answer.withoutBody (answer : Http.Answer) : Http.Answer := { answer with body := [] }

namespace DocumentFault

def withoutEcho : DocumentFault → DocumentFault
  | .status url answer => .status url answer.withoutBody
  | .invalid model issues => .invalid model (unechoed issues)
  | fault => fault

def Alike (fault other : DocumentFault) : Prop := fault.withoutEcho = other.withoutEcho

theorem message_withoutEcho (fault : DocumentFault) :
    fault.withoutEcho.message = fault.message := by
  cases fault with
  | invalid model issues => simp [withoutEcho, message, Record.summary, unechoed]
  | _ => rfl

end DocumentFault

namespace Refusal

def withoutEcho : Refusal → Refusal
  | .discovery fault => .discovery fault.withoutEcho
  | .tokenAnswer fault => .tokenAnswer fault.withoutEcho
  | .userInfo fault => .userInfo fault.withoutEcho
  | .identityTokenIncomplete issues => .identityTokenIncomplete (unechoed issues)
  | refusal => refusal

theorem kind_withoutEcho (refusal : Refusal) : refusal.withoutEcho.kind = refusal.kind := by
  cases refusal <;> rfl

theorem message_withoutEcho (refusal : Refusal) :
    refusal.withoutEcho.message = refusal.message := by
  cases refusal with
  | discovery fault => simp only [withoutEcho, message, fault.message_withoutEcho]
  | tokenAnswer fault => simp only [withoutEcho, message, fault.message_withoutEcho]
  | userInfo fault => simp only [withoutEcho, message, fault.message_withoutEcho]
  | _ => rfl

end Refusal

namespace Failure

def withoutEcho : Failure → Failure
  | .refused refusal => .refused refusal.withoutEcho
  | .interrupted interruption => .interrupted interruption

def kind? : Failure → Option Failure.Kind
  | .refused refusal => some refusal.kind
  | .interrupted _ => none

/-- One kind and one message, and nothing else apart but what is echoed. -/
structure Alike (failure other : Failure) : Prop where
  kind : failure.kind? = other.kind?
  message : failure.message = other.message
  unechoed : failure.withoutEcho = other.withoutEcho

theorem kind?_withoutEcho (failure : Failure) : failure.withoutEcho.kind? = failure.kind? := by
  cases failure with
  | refused refusal => exact congrArg some refusal.kind_withoutEcho
  | interrupted interruption => rfl

theorem message_withoutEcho (failure : Failure) :
    failure.withoutEcho.message = failure.message := by
  cases failure with
  | refused refusal => exact refusal.message_withoutEcho
  | interrupted interruption => rfl

theorem Alike.of_withoutEcho {failure other : Failure}
    (h : failure.withoutEcho = other.withoutEcho) : failure.Alike other where
  kind := by rw [← kind?_withoutEcho, h, kind?_withoutEcho]
  message := by rw [← message_withoutEcho, h, message_withoutEcho]
  unechoed := h

theorem Alike.refl (failure : Failure) : failure.Alike failure := .of_withoutEcho rfl

end Failure

namespace DocumentFault

theorem alike_failure {refusal : DocumentFault → Refusal} {fault other : DocumentFault}
    (hrefusal : ∀ fault, (refusal fault).withoutEcho = refusal fault.withoutEcho)
    (h : fault.Alike other) : (fault.failure refusal).Alike (other.failure refusal) := by
  have hcomm : ∀ given : DocumentFault,
      (given.failure refusal).withoutEcho = given.withoutEcho.failure refusal := by
    intro given
    cases given with
    | sending fault =>
        simp only [failure, withoutEcho]
        split
        · rfl
        · exact congrArg Failure.refused (hrefusal (.sending fault))
    | body fault =>
        simp only [failure, withoutEcho]
        split
        · rfl
        · exact congrArg Failure.refused (hrefusal (.body fault))
    | _ => exact congrArg Failure.refused (hrefusal _)
  exact .of_withoutEcho (by rw [hcomm, hcomm, h])

end DocumentFault

end SignOn

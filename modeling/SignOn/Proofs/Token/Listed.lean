import SignOn.Proofs.Failure.Likeness
import SignOn.Proofs.Json.Equality
import SignOn.Proofs.Token.Payload

/-!
# Claims that are looked at

Seven claims of a token are looked at.  Tokens whose fields agree on these are accepted as the same
or fail alike: the failures may differ in the fields that they echo, and in nothing else.
-/

namespace SignOn.Token

open Record Relator

variable {leeway now : Int} {token other : Text} {fields others : Json.Fields}

def claimNames : List Text := ["exp", "iat", "nbf", "sub", "jti", "email", "nonce"]

/-- The same claims of these names, with the same values. -/
def Agree (fields others : Json.Fields) : Prop :=
  ∀ name ∈ claimNames, fields.get? name = others.get? name

instance (fields others : Json.Fields) : Decidable (Agree fields others) :=
  inferInstanceAs (Decidable (∀ name ∈ claimNames, _))

def Failure.Alike (failure other : Failure) : Prop :=
  (Failure.ofToken failure).Alike (Failure.ofToken other)

theorem alike_ofFields (h : Agree fields others) :
    ReadingsAlike Eq (IdentityClaims.ofFields fields) (IdentityClaims.ofFields others) := by
  have hmk : LiftFun Eq (LiftFun Eq (LiftFun Eq Eq)) IdentityClaims.mk IdentityClaims.mk := by
    rintro _ _ rfl _ _ rfl _ _ rfl
    rfl
  have hexp := h "exp" (by decide)
  have hemail := h "email" (by decide)
  have hnonce := h "nonce" (by decide)
  exact ReadingsAlike.apply (.apply (.apply (.ok hmk) (alike_required hexp integer))
    (alike_optional hemail string)) (alike_required hnonce string)

theorem Failure.Alike.refl (failure : Failure) : failure.Alike failure :=
  SignOn.Failure.Alike.refl _

theorem alike_incomplete {issues more : List Issue} (h : unechoed issues = unechoed more) :
    Failure.Alike (.incomplete issues) (.incomplete more) :=
  .of_withoutEcho <| congrArg (fun given =>
    SignOn.Failure.refused (.identityTokenIncomplete given)) h

/-- Each check looks at one claim; the record of all claims is made last. -/
theorem alike_checkClaims (h : Agree fields others) :
    ResultsAlike Failure.Alike Eq (checkClaims leeway now fields)
      (checkClaims leeway now others) := by
  have hissued : checkIssuedAt fields = checkIssuedAt others := by
    rw [checkIssuedAt, checkIssuedAt, h "iat" (by decide)]
  have hbegun : checkNotBefore leeway now fields = checkNotBefore leeway now others := by
    rw [checkNotBefore, checkNotBefore, h "nbf" (by decide)]
  have hsubject : checkString fields "sub" .subjectNotString =
      checkString others "sub" .subjectNotString := by
    rw [checkString, checkString, h "sub" (by decide)]
  have hidentifier : checkString fields "jti" .identifierNotString =
      checkString others "jti" .identifierNotString := by
    rw [checkString, checkString, h "jti" (by decide)]
  have hcheck : ∀ check : Checked Unit, ResultsAlike Failure.Alike Eq check check :=
    ResultsAlike.refl Failure.Alike.refl Eq.refl
  rw [checkClaims, checkClaims, h "exp" (by decide), hissued, hbegun, hsubject, hidentifier]
  cases others.get? "exp" with
  | none => exact .error (.refl _)
  | some exp =>
      refine (hcheck _).bind fun _ _ _ => (hcheck _).bind fun _ _ _ => (hcheck _).bind fun _ _ _ =>
        (hcheck _).bind fun _ _ _ => (hcheck _).bind fun _ _ _ => ?_
      exact (alike_ofFields h).mapError fun _ _ => alike_incomplete

theorem alike_parse (htoken : Holds token fields) (hother : Holds other others)
    (h : Agree fields others) (leeway now : Int) :
    ResultsAlike Failure.Alike Eq (parse leeway now token) (parse leeway now other) := by
  rw [parse_of_holds htoken, parse_of_holds hother]
  exact alike_checkClaims h

theorem ne_nil_of_holds (h : Holds token fields) : token ≠ [] := by
  rintro rfl
  obtain ⟨hbytes, hsegments, -, -⟩ := h
  cases hbytes
  contradiction

end SignOn.Token

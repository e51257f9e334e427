import SignOn.Record.Field
import SignOn.Token.Fault

/-!
# The claims of an identity token

`checkClaims` goes through the claims of a payload in a fixed order at a wall clock, with a leeway
on both ends of the token's lifetime, and returns the identity they state.  It looks at seven
claims only.
-/

namespace SignOn

structure IdentityClaims where
  exp : Int
  email : Option Text
  nonce : Text
  deriving DecidableEq, Repr

def IdentityClaims.ofFields (fields : Json.Fields) : Record.Checked IdentityClaims :=
  Record.Checked.of IdentityClaims.mk
    |>.apply (Record.required fields "exp" Record.integer)
    |>.apply (Record.optional fields "email" Record.string)
    |>.apply (Record.required fields "nonce" Record.string)

namespace Token

abbrev Checked (α : Type) := Except Failure α

def reject {α : Type} (reason : Reason) : Checked α := .error (.rejected reason)

def interrupt {α : Type} (interruption : Interruption) : Checked α :=
  .error (.interrupted interruption)

/-- A segment that is no document rejects the token, except that one nested too deeply interrupts
the check. -/
def refuseReading {α : Type} (reason : Json.ReadFault → Reason) (fault : Json.ReadFault) :
    Checked α :=
  match fault.tooDeep? with
  | some container => interrupt (.nesting container)
  | none => reject (reason fault)

def claimInteger (reason : Reason) : Json → Checked Int
  | .int n => .ok n
  | .bool b => .ok (if b then 1 else 0)
  | .float (.infinity _) => interrupt .claimInfinite
  | .float x =>
      match x.truncated? with
      | some n => .ok n
      | none => reject reason
  | .str t =>
      match Number.anyInteger? t with
      | some n => .ok n
      | none => reject reason
  | .null => interrupt (.claimShape .null)
  | .arr _ => interrupt (.claimShape .list)
  | .obj _ => interrupt (.claimShape .object)

def checkIssuedAt (fields : Json.Fields) : Checked Unit :=
  match fields.get? "iat" with
  | none => .ok ()
  | some value => (claimInteger .issuedAtNotInteger value).map fun _ => ()

def checkNotBefore (leeway now : Int) (fields : Json.Fields) : Checked Unit :=
  match fields.get? "nbf" with
  | none => .ok ()
  | some value => do
      let start ← claimInteger .notBeforeNotInteger value
      if now + leeway < start then reject .notYetValid else .ok ()

def checkExpiry (leeway now : Int) (value : Json) : Checked Unit := do
  let stop ← claimInteger .expiryNotInteger value
  if stop < now - leeway then reject .expired else .ok ()

def checkString (fields : Json.Fields) (name : Text) (reason : Reason) : Checked Unit :=
  match fields.get? name with
  | none | some (.str _) => .ok ()
  | some _ => reject reason

def checkClaims (leeway now : Int) (fields : Json.Fields) : Checked IdentityClaims :=
  match fields.get? "exp" with
  | none => reject .expiryMissing
  | some exp => do
      checkIssuedAt fields
      checkNotBefore leeway now fields
      checkExpiry leeway now exp
      checkString fields "sub" .subjectNotString
      checkString fields "jti" .identifierNotString
      (IdentityClaims.ofFields fields).mapError .incomplete

def checkPayload (leeway now : Int) (payload : Bytes) : Checked IdentityClaims :=
  match Json.readUtf8 payload with
  | .error fault => refuseReading .payloadUnreadable fault
  | .ok (.obj fields) => checkClaims leeway now fields
  | .ok _ => reject .payloadNotObject

end Token

end SignOn

import SignOn.Json.Reader
import SignOn.Record.Issue

/-!
# Why an identity token is not accepted

A rejection has a reason with a wording.  An interruption is a token that the checks cannot be
carried through for; it is no rejection, and whoever reads tokens has to pass it on.
-/

namespace SignOn.Token

inductive Reason where
  | segments
  | headerUnreadable (fault : Json.ReadFault)
  | headerNotObject
  | payloadPadding
  | signaturePadding
  | payloadUnreadable (fault : Json.ReadFault)
  | payloadNotObject
  | expiryMissing
  | issuedAtNotInteger
  | notBeforeNotInteger
  | notYetValid
  | expiryNotInteger
  | expired
  | subjectNotString
  | identifierNotString
  deriving DecidableEq, Repr

inductive Family where
  | form
  | lifetime
  | claims
  deriving DecidableEq, Repr

namespace Reason

def family : Reason → Family
  | .segments | .headerUnreadable _ | .headerNotObject | .payloadPadding | .signaturePadding
  | .payloadUnreadable _ | .payloadNotObject | .expiryMissing => .form
  | .expired => .lifetime
  | .issuedAtNotInteger | .notBeforeNotInteger | .notYetValid | .expiryNotInteger
  | .subjectNotString | .identifierNotString => .claims

def message : Reason → Text
  | .segments => "Not enough segments"
  | .headerUnreadable fault => "Invalid header string: " ++ fault.message
  | .headerNotObject => "Invalid header string: must be a json object"
  | .payloadPadding => "Invalid payload padding"
  | .signaturePadding => "Invalid crypto padding"
  | .payloadUnreadable fault => "Invalid payload string: " ++ fault.message
  | .payloadNotObject => "Invalid payload string: must be a json object"
  | .expiryMissing => "missing required key \"exp\" among claims"
  | .issuedAtNotInteger => "Issued At claim (iat) must be an integer."
  | .notBeforeNotInteger => "Not Before claim (nbf) must be an integer."
  | .notYetValid => "The token is not yet valid (nbf)"
  | .expiryNotInteger => "Expiration Time claim (exp) must be an integer."
  | .expired => "Signature has expired."
  | .subjectNotString => "Subject must be a string."
  | .identifierNotString => "JWT ID must be a string."

end Reason

inductive Shape where
  | null
  | list
  | object
  deriving DecidableEq, Repr

def Shape.name : Shape → Text
  | .null => "NoneType"
  | .list => "list"
  | .object => "dict"

inductive Interruption where
  | notEncodable (fault : Codec.EncodeFault)
  | nesting (container : Json.Container)
  | algorithmMissing
  | claimShape (shape : Shape)
  | claimInfinite
  deriving DecidableEq, Repr

def Interruption.message : Interruption → Text
  | .notEncodable fault => fault.message
  | .nesting container => container.tooDeep
  | .algorithmMissing => "'alg'"
  | .claimShape shape =>
      "int() argument must be a string, a bytes-like object or a real number, not '" ++
        shape.name ++ "'"
  | .claimInfinite => "cannot convert float infinity to integer"

inductive Failure where
  | rejected (reason : Reason)
  | incomplete (issues : List Record.Issue)
  | interrupted (interruption : Interruption)

end SignOn.Token

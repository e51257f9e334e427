import SignOn.Record.Field

/-!
# Bodies of requests and answers

The body of a request to exchange or redeem a code, and the bodies of their answers.
-/

namespace SignOn.Web

open Record

structure CodeRequest where
  code : Text
  deriving DecidableEq, Repr

def CodeRequest.ofFields (fields : Json.Fields) : Checked CodeRequest :=
  (required fields "code" (boundedString 1 2048)).map fun code => ⟨code⟩

def CodeRequest.ofJson (document : Json) : Checked CodeRequest :=
  ofObject "CodeRequest" ofFields document

/-- What a client reads from the answer to an exchange.  The routes only write such answers. -/
structure ExchangeAnswer where
  email : Text
  deriving DecidableEq, Repr

def ExchangeAnswer.ofJson (document : Json) : Checked ExchangeAnswer :=
  ofObject "ExchangeResponse"
    (fun fields => (required fields "email" string).map fun email => ⟨email⟩) document

/-- What a client reads from the answer to a redemption. -/
structure RedeemAnswer where
  refreshToken : Text
  deriving DecidableEq, Repr

def RedeemAnswer.ofJson (document : Json) : Checked RedeemAnswer :=
  ofObject "RedeemResponse"
    (fun fields => (required fields "refresh_token" string).map fun token => ⟨token⟩) document

end SignOn.Web

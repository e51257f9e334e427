import SignOn.Client
import SignOn.Flow.Basic

/-!
# Documents of a provider

A document is asked for, and is the body of an answer with success that states what it should.
The provider's metadata are asked for once: `discover` keeps them as soon as they name the issuer
that the client is registered with.
-/

namespace SignOn

def readDocument {α : Type} (model : Text) (read : Json → Record.Checked α)
    (answer : Http.Answer) : Except DocumentFault α := do
  let document ← (Json.readBytes answer.body).mapError .body
  (read document).mapError (.invalid model)

def documentOf {α : Type} (model : Text) (read : Json → Record.Checked α)
    (request : Http.Request) (outcome : Http.Outcome) : Except DocumentFault α := do
  let answer ← (Http.receive request outcome).mapError .sending
  if Http.isSuccess answer.status then readDocument model read answer
  else .error (.status request.url answer)

/-- A document that cannot be had refuses the call, except that a URL at fault or a body that is
nested too deeply interrupts it. -/
def DocumentFault.failure (refusal : DocumentFault → Refusal) : DocumentFault → Failure
  | .sending fault =>
      if fault.family = .url then .interrupted (.sending fault)
      else .refused (refusal (.sending fault))
  | .body fault =>
      match fault.tooDeep? with
      | some container => .interrupted (.nesting container)
      | none => .refused (refusal (.body fault))
  | fault => .refused (refusal fault)

namespace Flow

def ofChecked {ε α : Type} (failure : ε → Failure) : Except ε α → Flow α
  | .ok a => pure a
  | .error fault => fail (failure fault)

def fetch {α : Type} (refusal : DocumentFault → Refusal) (model : Text)
    (read : Json → Record.Checked α) (request : Except Http.Fault Http.Request) : Flow α := do
  let request ← ofChecked (fun fault => (DocumentFault.sending fault).failure refusal) request
  let outcome ← send request
  ofChecked (DocumentFault.failure refusal) (documentOf model read request outcome)

end Flow

namespace Client

def discoveryUrl (client : Client) : Text := client.issuer ++ "/.well-known/openid-configuration"

def discoveryRequest (client : Client) : Except Http.Fault Http.Request :=
  Http.getRequest client.discoveryUrl none

def isIssuedBy (client : Client) (document : Metadata) : Bool :=
  withoutTrailingSlashes document.issuer = client.issuer

def discover (client : Client) : Flow Metadata := do
  match ← Flow.keptDocument with
  | some document => return document
  | none =>
      let document ← Flow.fetch .discovery Metadata.model Metadata.ofJson client.discoveryRequest
      if client.isIssuedBy document then
        Flow.keep document
        return document
      else Flow.refuse (.issuerMismatch document.issuer)

end Client

end SignOn

import SignOn.Failure.Kind
import SignOn.Http.ContentType
import SignOn.Http.Delivery
import SignOn.Token.Fault
import SignOn.Url.Origin

/-!
# Failures

A call is refused for a cause that has a kind and a wording, or interrupted by something
that no refusal stands for.  Whoever serves a call reports a refusal by its kind's status and its
message; an interruption is an error of the service.
-/

namespace SignOn

inductive DocumentFault where
  | sending (fault : Http.Fault)
  | status (url : Url) (answer : Http.Answer)
  | body (fault : Json.ReadFault)
  | invalid (model : Text) (issues : List Record.Issue)

def DocumentFault.message : DocumentFault → Text
  | .sending fault => fault.message
  | .status target answer => Http.describe target answer
  | .body fault => fault.message
  | .invalid model issues => Record.summary model issues

inductive Refusal where
  | issuerUrl (given : Option Text)
  | redirectUrl (given : Option Text)
  | clientId
  | discovery (fault : DocumentFault)
  | issuerMismatch (stated : Text)
  | tokenEndpoint (fault : Http.Fault)
  | tokenStatus (status : Nat)
  | tokenAnswer (fault : DocumentFault)
  | identityTokenMissing
  | identityTokenRejected (reason : Token.Reason)
  | identityTokenIncomplete (issues : List Record.Issue)
  | userInfoEndpointMissing
  | userInfo (fault : DocumentFault)
  | emailMissing
  | nonceNotSaved
  | nonceUnknown
  | nonceNotRead
  | nonceNotDeleted
  | codeNotExchanged
  | codeRedeemed

namespace Refusal

def kind : Refusal → Failure.Kind
  | .issuerUrl _ | .redirectUrl _ | .clientId => .configuration
  | .discovery _ | .issuerMismatch _ => .discovery
  | .tokenEndpoint _ | .tokenStatus _ | .tokenAnswer _ => .tokenExchange
  | .identityTokenMissing => .missingIdentityToken
  | .identityTokenRejected _ | .identityTokenIncomplete _ => .identityTokenDecode
  | .userInfoEndpointMissing | .userInfo _ => .userInfo
  | .emailMissing => .missingEmail
  | .nonceNotSaved => .noncePersistence
  | .nonceUnknown => .nonceNotFound
  | .nonceNotRead => .nonceLookup
  | .nonceNotDeleted => .nonceDeletion
  | .codeNotExchanged => .codeNotExchanged
  | .codeRedeemed => .codeAlreadyRedeemed

def status (refusal : Refusal) : Nat := refusal.kind.status

def quotedOrNone : Option Text → Text
  | none => "None"
  | some t => t.quoted

/-- What is said of a refusal.  Of a record that is not in order only the number of its issues is
said, and not what each of them is. -/
def message : Refusal → Text
  | .issuerUrl given => "Invalid issuer URL: " ++ quotedOrNone given
  | .redirectUrl given => "Invalid redirect URL: " ++ quotedOrNone given
  | .clientId => "SSO client id is not configured"
  | .discovery fault => "Failed to discover OpenID provider: " ++ fault.message
  | .issuerMismatch stated =>
      "Failed to discover OpenID provider: issuer mismatch (" ++ stated ++ ")"
  | .tokenEndpoint fault => "Failed to contact token endpoint: " ++ fault.message
  | .tokenStatus status => "Failed to contact token endpoint: status " ++ Text.ofNat status
  | .tokenAnswer fault =>
      "Failed to contact token endpoint: invalid response: " ++ fault.message
  | .identityTokenMissing => "Token response did not contain an id_token"
  | .identityTokenRejected _ | .identityTokenIncomplete _ => "Could not decode id token"
  | .userInfoEndpointMissing => "No user_info endpoint"
  | .userInfo fault => "Request to user_info endpoint failed: " ++ fault.message
  | .emailMissing => "Neither id token nor userinfo contained an email"
  | .nonceNotSaved => "Failed to save nonce"
  | .nonceUnknown | .nonceNotRead => "Failed to retrieve nonce from db"
  | .nonceNotDeleted => "Failed to delete nonce"
  | .codeNotExchanged => "Failed to retrieve user info from sso cache"
  | .codeRedeemed => "Authorization code has already been redeemed"

def issues? : Refusal → Option (List Record.Issue)
  | .discovery (.invalid _ issues) | .tokenAnswer (.invalid _ issues)
  | .userInfo (.invalid _ issues) | .identityTokenIncomplete issues => some issues
  | _ => none

end Refusal

inductive Interruption where
  | origin (fault : Url.OriginFault)
  | sending (fault : Http.Fault)
  | text (fault : Http.TextFault)
  | nesting (container : Json.Container)
  | token (interruption : Token.Interruption)
  | cacheFull
  | nonce (fault : Codec.EncodeFault)
  deriving DecidableEq, Repr

def Interruption.message : Interruption → Text
  | .origin fault => fault.message
  | .sending fault => fault.message
  | .text fault => fault.message
  | .nesting container => container.tooDeep
  | .token interruption => interruption.message
  | .cacheFull => "value too large"
  | .nonce fault => fault.message

inductive Failure where
  | refused (refusal : Refusal)
  | interrupted (interruption : Interruption)

namespace Failure

def message : Failure → Text
  | .refused refusal => refusal.message
  | .interrupted interruption => interruption.message

def ofToken : Token.Failure → Failure
  | .rejected reason => .refused (.identityTokenRejected reason)
  | .incomplete issues => .refused (.identityTokenIncomplete issues)
  | .interrupted interruption => .interrupted (.token interruption)

end Failure

end SignOn

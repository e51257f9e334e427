/-!
# Kinds of failures

Every failure of signing on ends the call in which it occurs.  Its kind settles the HTTP status;
a kind may refine a wider one.
-/

namespace SignOn.Failure

inductive Kind where
  | general
  | configuration
  | discovery
  | tokenExchange
  | missingIdentityToken
  | identityTokenDecode
  | userInfo
  | missingEmail
  | noncePersistence
  | nonceNotFound
  | nonceLookup
  | nonceDeletion
  | cacheMiss
  | codeNotExchanged
  | codeAlreadyRedeemed
  deriving DecidableEq, Repr

namespace Kind

def status : Kind → Nat
  | .configuration | .noncePersistence | .nonceLookup | .nonceDeletion => 500
  | .discovery | .tokenExchange | .missingIdentityToken | .identityTokenDecode | .userInfo => 502
  | .general | .missingEmail | .nonceNotFound | .cacheMiss | .codeNotExchanged
  | .codeAlreadyRedeemed => 400

/-- The kind and all wider ones, the nearest first.  Nothing of the service goes by them, since it
handles failures of all kinds alike. -/
def lineage : Kind → List Kind
  | .general => [.general]
  | .codeNotExchanged => [.codeNotExchanged, .cacheMiss, .general]
  | .codeAlreadyRedeemed => [.codeAlreadyRedeemed, .cacheMiss, .general]
  | kind => [kind, .general]

end Kind

end SignOn.Failure

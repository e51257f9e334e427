import SignOn.Provider.Authorization
import SignOn.Provider.Exchange
import SignOn.Token.Compact

/-!
# Signing on

Three calls make up a login.  `authorize` saves a nonce and gives the URL to send the browser to.
`exchange` trades a code for the user's email, at the provider the first time and from the cache
after that.  `redeem` ends the code: it uses the nonce up and releases the refresh token.
-/

namespace SignOn.Service

/-- The table refuses for the reason that a refusal states; a nonce that it cannot hold interrupts
the call. -/
def nonceFailure (refusal : Refusal) : Nonce.Fault → Failure
  | .refused => .refused refusal
  | .notEncodable fault => .interrupted (.nonce fault)

def saveNonce (nonce : Text) : Flow Text := do
  Flow.ofChecked (nonceFailure .nonceNotSaved) (← Flow.saveNonce nonce)
  return nonce

/-- The nonce is saved before its URL is given. -/
def authorize (client : Client) : Flow Text := do
  let authorization ← client.authorize
  let _ ← saveNonce authorization.nonce
  return authorization.url

/-- Seconds that a clock may be off. -/
def leeway : Int := 60

def checkToken (token : Text) : Flow IdentityClaims := do
  let now ← Flow.wallClock
  Flow.ofChecked Failure.ofToken (Token.parse leeway now token)

def nonempty? : Option Text → Option Text
  | some (c :: rest) => some (c :: rest)
  | _ => none

/-- The email that an identity token states, or else the one that the user info endpoint states. -/
def emailOf (client : Client) (claims : IdentityClaims) (accessToken : Text) : Flow Text := do
  match nonempty? claims.email with
  | some email => return email
  | none =>
      let user ← client.userInfo accessToken
      match nonempty? user.email with
      | some email => return email
      | none => Flow.refuse .emailMissing

def identify (client : Client) (code : Text) : Flow Identity := do
  let tokens ← client.exchangeCode code
  match nonempty? tokens.idToken with
  | none => Flow.refuse .identityTokenMissing
  | some token =>
      let claims ← checkToken token
      let email ← emailOf client claims tokens.accessToken
      return ⟨claims.nonce, tokens.refreshToken.getD [], email⟩

def exchangeUnredeemed (client : Client) (code : Text) : Flow Text := do
  match ← Flow.lookUp code with
  | some identity => return identity.email
  | none =>
      let identity ← identify client code
      if ← Flow.store code identity then return identity.email
      else Flow.interrupt .cacheFull

def exchangeLocked (client : Client) (code : Text) : Flow Text := do
  if (← Flow.phase code) = .redeemed then Flow.refuse .codeRedeemed
  else exchangeUnredeemed client code

def exchange (client : Client) (code : Text) : Flow Text := do
  Flow.enter code
  (exchangeLocked client code).ensuring (.leave code)

def refusalOf : Cache.TakeFault → Refusal
  | .notExchanged => .codeNotExchanged
  | .alreadyRedeemed => .codeRedeemed

/-- The identity is taken before the nonce is looked at, so that the code ends in any case. -/
def redeem (code : Text) : Flow Text := do
  let identity ← Flow.ofChecked (fun fault => .refused (refusalOf fault))
    (← Flow.take code)
  match ← Flow.ofChecked (nonceFailure .nonceNotRead) (← Flow.findNonce identity.nonce) with
  | none => Flow.refuse .nonceUnknown
  | some row =>
      if ← Flow.deleteNonce row then return identity.refreshToken
      else Flow.refuse .nonceNotDeleted

end SignOn.Service

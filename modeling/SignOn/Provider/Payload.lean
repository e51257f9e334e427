import SignOn.Record.Field

/-!
# What a provider answers

The three documents of a provider: its metadata, the answer of the token endpoint and the claims
of the user info endpoint.  Fields that are not listed are ignored, except that the claims of a
user keep them.
-/

namespace SignOn

structure Metadata where
  issuer : Text
  authorizationEndpoint : Text
  tokenEndpoint : Text
  userinfoEndpoint : Option Text
  jwksUri : Option Text
  tokenEndpointAuthMethods : Option (List Text)
  deriving DecidableEq, Repr

structure TokenAnswer where
  accessToken : Text
  tokenType : Text
  refreshToken : Option Text
  idToken : Option Text
  expiresIn : Option Int
  deriving DecidableEq, Repr

structure UserInfo where
  sub : Option Text
  email : Option Text
  others : Json.Fields

open Record

def Metadata.model : Text := "ProviderMetadata"

def Metadata.ofFields (fields : Json.Fields) : Checked Metadata :=
  Checked.of Metadata.mk
    |>.apply (required fields "issuer" string)
    |>.apply (required fields "authorization_endpoint" string)
    |>.apply (required fields "token_endpoint" string)
    |>.apply (optional fields "userinfo_endpoint" string)
    |>.apply (optional fields "jwks_uri" string)
    |>.apply (optional fields "token_endpoint_auth_methods_supported" strings)

def Metadata.ofJson (document : Json) : Checked Metadata :=
  ofObject model ofFields document

def TokenAnswer.model : Text := "TokenResponse"

def TokenAnswer.ofFields (fields : Json.Fields) : Checked TokenAnswer :=
  Checked.of TokenAnswer.mk
    |>.apply (required fields "access_token" string)
    |>.apply (withDefault fields "token_type" (Text.ofString "Bearer") string)
    |>.apply (optional fields "refresh_token" string)
    |>.apply (optional fields "id_token" string)
    |>.apply (optional fields "expires_in" integer)

def TokenAnswer.ofJson (document : Json) : Checked TokenAnswer :=
  ofObject model ofFields document

def UserInfo.model : Text := "UserInfoClaims"

/-- A name that has no UTF-8 form cannot be kept; it is at fault before anything else. -/
def UserInfo.ofFields (fields : Json.Fields) : Checked UserInfo :=
  match fields.find? fun field => ¬ field.1.IsScalar with
  | some field => .refuse .stringUnicode (.str field.1)
  | none =>
      let others := fields.filter fun field =>
        field.1 ≠ Text.ofString "sub" && field.1 ≠ Text.ofString "email"
      Checked.of (fun sub email => ⟨sub, email, others⟩)
        |>.apply (optional fields "sub" string)
        |>.apply (optional fields "email" string)

def UserInfo.ofJson (document : Json) : Checked UserInfo :=
  ofObject model ofFields document

end SignOn

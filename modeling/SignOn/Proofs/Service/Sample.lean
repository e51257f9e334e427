import SignOn.Json.Writer
import SignOn.Proofs.Failure.Likeness
import SignOn.Service.Step

/-!
# A sample

A client with a provider that answers in its favour, for runs on fixed inputs.
-/

namespace SignOn.Service

def sampleClient : Client where
  issuer := "https://i"
  clientId := "c"
  clientSecret := "s"
  redirectUrl := "https://a/cb"
  scopes := []
  timeout := .ofInt 10

def ofTexts (texts : List (Text × Text)) : Json.Fields :=
  texts.map fun field => (field.1, .str field.2)

def textsDocument (texts : List (Text × Text)) : Text := Json.write (.obj (ofTexts texts))

/-- Tokens with the identity token of `{"alg":"a"}` and `{"exp":99,"nonce":"n","email":"e"}`. -/
def sampleTexts (refreshToken : Text) : List (Text × Text) := [
  ("access_token", "a"),
  ("token_type", "B"),
  ("refresh_token", refreshToken),
  ("id_token", "eyJhbGciOiJhIn0.eyJleHAiOjk5LCJub25jZSI6Im4iLCJlbWFpbCI6ImUifQ.c2ln")]

def sampleTokens : Text := textsDocument (sampleTexts "r")

def sampleMetadataTexts : List (Text × Text) := [
  ("issuer", "https://i"),
  ("authorization_endpoint", "https://i/a"),
  ("token_endpoint", "https://i/t")]

def sampleMetadata : Text := textsDocument sampleMetadataTexts

def sampleCode : Text := "k"

/-- An answer without success that is to be logged as text in an encoding of ASCII.  The token in
it is written as it stands. -/
def loggedAnswer (name token : Text) : Http.Answer where
  status := 500
  headers := [("content-type", "application/json;charset=punycode")]
  body := Utf8.encode (CodePoint.ofChar '{' :: (Text.ofString "\"" ++ name ++ "\":\"" ++ token ++
    "\"") ++ [CodePoint.ofChar '}'])

def Result.text? : Result → Option Text
  | .text value => some value
  | _ => none

theorem eq_text_of_text? {result : Result} {value : Text} (h : result.text? = some value) :
    result = .text value := by
  cases result with
  | text given => exact congrArg Result.text (Option.some.inj h)
  | _ => contradiction

def Result.status? : Result → Option Nat
  | .failed (.refused refusal) => some refusal.status
  | _ => none

theorem Result.status?_failed (failure : Failure) :
    (Result.failed failure).status? = failure.kind?.map Failure.Kind.status := by
  cases failure <;> rfl

theorem exists_refusal {result : Result} {status : Nat} (h : result.status? = some status) :
    ∃ refusal, result = .failed (.refused refusal) ∧ refusal.status = status := by
  unfold Result.status? at h
  split at h
  next refusal => exact ⟨refusal, rfl, Option.some.inj h⟩
  · contradiction

/-! ## Objects of texts

JSON values cannot be compared by computation; the fields of an object that holds texts only can. -/

def texts? : Json.Fields → Option (List (Text × Text))
  | [] => some []
  | (name, .str t) :: rest => (texts? rest).map fun texts => (name, t) :: texts
  | _ => none

def readTexts? (body : Bytes) : Option (List (Text × Text)) :=
  match Json.readBytes body with
  | .ok (.obj fields) => texts? fields
  | _ => none

theorem eq_ofTexts {fields : Json.Fields} {texts : List (Text × Text)}
    (h : texts? fields = some texts) : fields = ofTexts texts := by
  induction fields generalizing texts with
  | nil =>
      cases h
      rfl
  | cons field rest ih =>
      obtain ⟨name, value⟩ := field
      cases value with
      | str t =>
          obtain ⟨others, hrest, rfl⟩ := Option.map_eq_some_iff.mp h
          rw [ih hrest]
          rfl
      | _ => contradiction

theorem readBytes_of_texts {body : Bytes} {texts : List (Text × Text)}
    (h : readTexts? body = some texts) : Json.readBytes body = .ok (.obj (ofTexts texts)) := by
  unfold readTexts? at h
  split at h
  next fields heq => rw [heq, eq_ofTexts h]
  · contradiction

end SignOn.Service

import SignOn.Proofs.Base64
import SignOn.Proofs.Provider.TokenRequest
import SignOn.Proofs.Text.Quoted
import SignOn.Proofs.Url.Escape

/-!
# Reading Basic credentials back

Basic credentials are a name and a password with a colon between them.  Whoever reads them cuts at
the first colon, and may take each part for a value that is escaped as in a form.  The name and the
password are written as they are, so this gives them back when no colon is in the name and both are
plain, and then only.
-/

namespace SignOn

def colon : CodePoint := CodePoint.ofChar ':'

namespace Http

def basicText? (header : Text) : Option Text :=
  if Url.startsWith "Basic " header then do
    let code ← (Utf8.encodeStrict (header.drop 6)).toOption
    let bytes ← Base64.decode? code
    (Utf8.decode bytes).toOption
  else none

/-- The name and the password of Basic credentials, each read as a value of a form. -/
def basicCredentials? (header : Text) : Option (Text × Text) := do
  let text ← basicText? header
  let (name, password) ← Split.cutFirst? colon text
  return (← Percent.formTextDecode? name, ← Percent.formTextDecode? password)

variable {name password otherName otherPassword : Text}

theorem isScalar_joined (hname : name.IsScalar) (hpassword : password.IsScalar) :
    Text.IsScalar (name ++ ":" ++ password) :=
  Text.isScalar_append.mpr ⟨Text.isScalar_append.mpr ⟨hname, by decide⟩, hpassword⟩

theorem basicText?_basic (hname : name.IsScalar) (hpassword : password.IsScalar) :
    basicText? (basic name password) = some (name ++ ":" ++ password) := by
  have hcode : ∀ b ∈ Base64.encode .standard true (Utf8.encode (name ++ ":" ++ password)),
      b.toNat < 0x80 := fun b => Base64.toNat_lt_of_mem_encode
  have hmark : Url.startsWith "Basic " (basic name password) = true :=
    List.isPrefixOf_iff_prefix.mpr (List.prefix_append _ _)
  have hrest : (basic name password).drop 6 =
      (Base64.encode .standard true (Utf8.encode (name ++ ":" ++ password))).map
        CodePoint.ofByte := rfl
  rw [basicText?, if_pos hmark, hrest, Utf8.encodeStrict_map_ofByte hcode]
  change (Base64.decode? _).bind _ = _
  rw [Base64.decode?_encode_padded]
  change (Utf8.decode _).toOption = _
  rw [Utf8.decode_encode (isScalar_joined hname hpassword)]
  rfl

theorem basic_eq_basic_iff (hname : name.IsScalar) (hpassword : password.IsScalar)
    (hotherName : otherName.IsScalar) (hotherPassword : otherPassword.IsScalar) :
    basic otherName otherPassword = basic name password ↔
      otherName ++ ":" ++ otherPassword = name ++ ":" ++ password := by
  constructor
  · intro heq
    have hread := basicText?_basic hotherName hotherPassword
    rw [heq, basicText?_basic hname hpassword] at hread
    exact (Option.some.inj hread).symm
  · intro heq
    rw [basic, basic, heq]

theorem cutFirst?_joined (h : colon ∉ name) (password : Text) :
    Split.cutFirst? colon (name ++ ":" ++ password) = some (name, password) := by
  rw [List.append_assoc]
  exact Split.cutFirst?_append h password

theorem eq_of_joined_eq (h : colon ∉ name) (hother : colon ∉ otherName)
    (heq : otherName ++ ":" ++ otherPassword = name ++ ":" ++ password) :
    otherName = name ∧ otherPassword = password := by
  have hcut := cutFirst?_joined hother otherPassword
  rw [heq, cutFirst?_joined h] at hcut
  simpa [eq_comm] using hcut

theorem formTextDecode?_before_colon {before after : Text} :
    Percent.formTextDecode? before ≠ some (before ++ colon :: after) := by
  intro hread
  have hle := Percent.length_encode_le_of_formTextDecode? hread
  rw [Utf8.length_encode_append, Utf8.length_encode_cons] at hle
  have hcolon := Utf8.length_encodePoint_pos colon
  omega

theorem basicCredentials?_basic {before after : Text} (hname : name.IsScalar)
    (hpassword : password.IsScalar)
    (hcut : Split.cutFirst? colon (name ++ ":" ++ password) = some (before, after)) :
    basicCredentials? (basic name password) = some (name, password) ↔
      Percent.formTextDecode? before = some name ∧
        Percent.formTextDecode? after = some password := by
  rw [basicCredentials?, basicText?_basic hname hpassword]
  simp only [Option.bind_eq_bind, Option.bind_some, hcut]
  simp [Option.bind_eq_some_iff]

/-- A name and a password are read back exactly when no colon is in the name and both are read as
they are written. -/
theorem basicCredentials?_basic_iff (hname : name.IsScalar) (hpassword : password.IsScalar) :
    basicCredentials? (basic name password) = some (name, password) ↔
      colon ∉ name ∧ Percent.IsPlain name ∧ Percent.IsPlain password := by
  by_cases hcolon : colon ∈ name
  · obtain ⟨before, after, rfl, hbefore⟩ := List.eq_append_cons_of_mem hcolon
    have hcut : Split.cutFirst? colon (before ++ colon :: after ++ ":" ++ password) =
        some (before, after ++ ":" ++ password) := by
      rw [List.append_assoc, List.append_assoc, List.cons_append, Split.cutFirst?_append hbefore,
        List.append_assoc]
    rw [basicCredentials?_basic hname hpassword hcut]
    exact iff_of_false (fun h => formTextDecode?_before_colon h.1) fun h => h.1 hcolon
  · rw [basicCredentials?_basic hname hpassword (cutFirst?_joined hcolon password),
      Percent.formTextDecode?_eq_self_iff hname, Percent.formTextDecode?_eq_self_iff hpassword]
    exact (and_iff_right hcolon).symm

end Http

/-- An exchange of an accepted client, with a document kept, sends a request that shows the secret
in its header. -/
def ShowsSecret (registration : Registration) (request : Http.Request) : Prop :=
  ∃ client document code, ∃ state : State, Client.register registration = .ok client ∧
    state.document = some document ∧ ¬document.PostsSecret ∧
    ((client.exchangeCode code).run state).2.sent = state.sent ++ [request]

namespace ShowsSecret

variable {registration other : Registration} {request another : Http.Request}

theorem authorization_eq (h : ShowsSecret registration request) :
    (registration.clientId.getD []).IsScalar ∧ registration.clientSecret.IsScalar ∧
      request.authorization =
        some (Http.basic (registration.clientId.getD []) registration.clientSecret) := by
  obtain ⟨client, document, code, state, hregister, hkept, hshows, hsent⟩ := h
  obtain ⟨hwritable, url, -, rfl⟩ :=
    Client.tokenRequest_eq_ok_iff.mp (Client.tokenRequest_of_sent hkept hsent)
  obtain rfl := Client.eq_of_register hregister
  exact ⟨hwritable.clientId, hwritable.clientSecret,
    if_neg (mt Metadata.takesSecretInForm_iff.mp hshows)⟩

/-- The header of an exchange tells the identifier and the secret as one text.  Read apart and
unescaped, it gives both back exactly when the identifier has no colon and both are plain; and two
exchanges have one header exactly when their texts are one, so never with different pairs unless an
identifier has a colon. -/
theorem credentials_read_back (h : ShowsSecret registration request) :
    ∃ header, request.authorization = some header ∧
      Http.basicText? header =
        some (registration.clientId.getD [] ++ ":" ++ registration.clientSecret) ∧
      (Http.basicCredentials? header =
          some (registration.clientId.getD [], registration.clientSecret) ↔
        CodePoint.ofChar ':' ∉ registration.clientId.getD [] ∧
          Percent.IsPlain (registration.clientId.getD []) ∧
          Percent.IsPlain registration.clientSecret) ∧
      ∀ other another, ShowsSecret other another →
        (another.authorization = some header ↔
          other.clientId.getD [] ++ ":" ++ other.clientSecret =
            registration.clientId.getD [] ++ ":" ++ registration.clientSecret) ∧
        (CodePoint.ofChar ':' ∉ registration.clientId.getD [] →
          CodePoint.ofChar ':' ∉ other.clientId.getD [] →
          another.authorization = some header →
          other.clientId.getD [] = registration.clientId.getD [] ∧
            other.clientSecret = registration.clientSecret) := by
  obtain ⟨hid, hsecret, hheader⟩ := h.authorization_eq
  refine ⟨_, hheader, Http.basicText?_basic hid hsecret,
    Http.basicCredentials?_basic_iff hid hsecret, fun other another hother => ?_⟩
  obtain ⟨hotherId, hotherSecret, hotherHeader⟩ := hother.authorization_eq
  have hsame : another.authorization =
      some (Http.basic (registration.clientId.getD []) registration.clientSecret) ↔
        other.clientId.getD [] ++ ":" ++ other.clientSecret =
          registration.clientId.getD [] ++ ":" ++ registration.clientSecret := by
    rw [hotherHeader, Option.some.injEq]
    exact Http.basic_eq_basic_iff hid hsecret hotherId hotherSecret
  exact ⟨hsame, fun hcolon hotherColon heq =>
    Http.eq_of_joined_eq hcolon hotherColon (hsame.mp heq)⟩

def showingDocument : Metadata := ⟨"https://i", "https://i/a", "https://i/t", none, none, none⟩

def showingState : State := { Client.sampleState with document := some showingDocument }

def registered (clientId clientSecret : Text) : Registration :=
  { Client.sampleRegistration with clientId := some clientId, clientSecret }

theorem exists_of_isSome
    (h : ((Client.register registration).toOption.bind fun client =>
      (client.tokenRequest showingDocument Service.sampleCode).toOption).isSome) :
    ∃ request, ShowsSecret registration request := by
  obtain ⟨request, hrequest⟩ := Option.isSome_iff_exists.mp h
  obtain ⟨client, hclient, hsent⟩ := Option.bind_eq_some_iff.mp hrequest
  refine ⟨request, client, showingDocument, Service.sampleCode, showingState,
    eq_ok_of_toOption hclient, rfl, mt Metadata.takesSecretInForm_iff.mpr (by decide), ?_⟩
  rw [Client.sent_exchangeCode_of_some rfl, hsent]
  rfl

/-- Both hold a percent sign, but no escape, and the secret holds a colon. -/
theorem credentials_read_back_in_sample :
    ∃ request header, ShowsSecret (registered "c=\u00e9 %4" "s:%4g") request ∧
      request.authorization = some header ∧
      Http.basicCredentials? header =
        some (Text.ofString "c=\u00e9 %4", Text.ofString "s:%4g") := by
  obtain ⟨request, hshows⟩ : ∃ request, ShowsSecret (registered "c=\u00e9 %4" "s:%4g") request :=
    exists_of_isSome (by decide +kernel)
  obtain ⟨header, hheader, -, hread, -⟩ := credentials_read_back hshows
  have hid : Percent.IsPlain "c=\u00e9 %4" :=
    (Percent.formTextDecode?_eq_self_iff (by decide)).mp (by decide +kernel)
  have hsecret : Percent.IsPlain "s:%4g" :=
    (Percent.formTextDecode?_eq_self_iff (by decide)).mp (by decide +kernel)
  exact ⟨request, header, hshows, hheader, hread.mpr ⟨by decide, hid, hsecret⟩⟩

/-- An identifier with a colon is not read back, and has the header of another pair. -/
theorem not_always_recovered :
    (¬∀ registration request header, ShowsSecret registration request →
      request.authorization = some header →
      Http.basicCredentials? header =
        some (registration.clientId.getD [], registration.clientSecret)) ∧
    ¬∀ registration other request another, ShowsSecret registration request →
      ShowsSecret other another → another.authorization = request.authorization →
      other.clientId.getD [] = registration.clientId.getD [] ∧
        other.clientSecret = registration.clientSecret := by
  obtain ⟨request, hshows⟩ : ∃ request, ShowsSecret (registered "a:b" "c") request :=
    exists_of_isSome (by decide +kernel)
  obtain ⟨another, hother⟩ : ∃ another, ShowsSecret (registered "a" "b:c") another :=
    exists_of_isSome (by decide +kernel)
  obtain ⟨-, -, hheader⟩ := hshows.authorization_eq
  obtain ⟨-, -, hotherHeader⟩ := hother.authorization_eq
  refine ⟨fun hread => ?_, fun hinjective => ?_⟩
  · have hcredentials := hread _ _ _ hshows hheader
    exact absurd hcredentials (by decide +kernel)
  · have hsame : another.authorization = request.authorization := by
      rw [hheader, hotherHeader]
      rfl
    exact absurd (hinjective _ _ _ _ hshows hother hsame).1 (by decide)

end ShowsSecret

end SignOn

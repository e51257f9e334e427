import SignOn.Http.Status
import SignOn.Url.Resolution

/-!
# Sending a request

A request is built from a URL that may be unusable and headers that may not be encodable, and the
outcome of sending it may be no usable answer.  The faults of both fall into three families.
-/

namespace SignOn.Http

inductive Fault where
  | failed (message : Text)
  | urlRefused (message : Text)
  | url (fault : Url.Fault)
  | notEncodable (fault : Codec.EncodeFault)
  | host (fault : Idna.Fault)
  /-- An answer belongs to no site when its request named none. -/
  | noSite (target : Text)
  | location (fault : Url.Fault)
  deriving DecidableEq, Repr

/-- A fault lies on the way to the server and back, in a URL, or in a value that cannot be
written. -/
inductive Family where
  | way
  | url
  | value
  deriving DecidableEq, Repr

def Fault.family : Fault → Family
  | .failed _ | .location _ => .way
  | .urlRefused _ | .url _ => .url
  | .notEncodable _ | .host _ | .noSite _ => .value

def Fault.message : Fault → Text
  | .failed message | .urlRefused message => message
  | .url fault => fault.message
  | .notEncodable fault => fault.message
  | .host fault => fault.message
  | .noSite target => "unknown url type: " ++ target.quoted
  | .location fault => "Invalid URL in location header: " ++ fault.message ++ "."

def Fault.ofParse : Url.ParseFault → Fault
  | .invalid fault => .url fault
  | .notEncodable fault => .notEncodable fault

/-- A URL without scheme or host is taken from the root on. -/
def targetUrl (target : Text) : Except Fault Url := do
  let url ← (Url.parse target).mapError .ofParse
  if url.isAbsolute then .ok url else url.rooted.mapError .ofParse

def checkHost (url : Url) : Except Fault Unit := (url.shownHost.mapError .host).map fun _ => ()

def siteUrl (target : Text) : Except Fault Url := do
  let url ← targetUrl target
  checkHost url
  .ok url

def checkEncodable (t : Text) : Except Fault Unit :=
  ((Utf8.encodeStrict t).mapError .notEncodable).map fun _ => ()

def checkForm (form : Percent.Form) : Except Fault Unit :=
  form.forM fun pair => checkEncodable pair.2

def checkHeader : Option Text → Except Fault Unit
  | none => .ok ()
  | some value => ((Codec.asciiBytes value).mapError .notEncodable).map fun _ => ()

/-- The credentials of a request; those in the URL come first. -/
def credentials (url : Url) (given : Option Text) : Option Text :=
  match url.credentials? with
  | some (name, password) => some (basic name password)
  | none => given

/-- A request for a document.  The credentials are those given, or those in the URL.  The host is
the last to be looked at. -/
def getRequest (target : Text) (authorization : Option Text) : Except Fault Request := do
  let url ← targetUrl target
  checkHeader authorization
  checkHost url
  .ok ⟨.get, url, credentials url authorization, "*/*", none, []⟩

/-- A request that posts a form.  Credentials in the URL count only where none are given. -/
def postRequest (target : Text) (authorization : Option Text) (form : Percent.Form) :
    Except Fault Request := do
  let url ← targetUrl target
  checkForm form
  checkHost url
  .ok ⟨.post, url, authorization.orElse fun _ => credentials url none, "application/json",
    some "application/x-www-form-urlencoded", Percent.formEncode form⟩

def atHostOf (base url : Url) : Except Fault Url :=
  if url.scheme.isEmpty then .ok url
  else do
    checkHost url
    if url.host.isEmpty then
      let host ← base.shownHost.mapError .host
      (url.withHost host).mapError .ofParse
    else .ok url

def withFragmentOf (base url : Url) : Except Fault Url :=
  let fragment := Percent.decode (base.fragment.getD [])
  if fragment.isEmpty || !(url.fragment.getD []).isEmpty then .ok url
  else (url.withFragment fragment).mapError .ofParse

/-- Where a location leads to from a request.  Nobody goes there, but it has to be found. -/
def redirectUrl (base : Url) (location : Text) : Except Fault Url := do
  let url ← (Url.parse location).mapError fun
    | .invalid fault => .location fault
    | .notEncodable fault => .notEncodable fault
  let url ← atHostOf base url
  let url ←
    if url.isAbsolute then .ok url
    else (Url.parse (Url.joined base url)).mapError .ofParse
  let url ← withFragmentOf base url
  checkHost url
  .ok url

def checkHeaders (answer : Answer) : Except Fault Unit :=
  answer.headers.forM fun header => do
    checkHeader (some header.1)
    checkHeader (some header.2)

def receive (request : Request) : Outcome → Except Fault Answer
  | .failed message => .error (.failed message)
  | .urlRefused message => .error (.urlRefused message)
  | .answered answer => do
      checkHeaders answer
      if request.url.scheme.isEmpty then .error (.noSite request.url.text)
      else
        match answer.redirect? with
        | none => .ok answer
        | some location => (redirectUrl request.url location).map fun _ => answer

end SignOn.Http

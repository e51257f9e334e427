import SignOn.Json.Value
import SignOn.Url.Reference

/-!
# Requests to the application and its responses

A request names its path with all escapes resolved.  A response has a document as its content, or
a plain text.
-/

namespace SignOn.Web

abbrev Headers := List (Text × Text)

def Headers.get? (headers : Headers) (name : Text) : Option Text :=
  (headers.find? fun header => header.1.lower = name.lower).map (·.2)

def header (name : String) (value : Text) : Headers := [(Text.ofString name, value)]

def headerIf (condition : Bool) (name : String) (value : Text) : Headers :=
  if condition then header name value else []

structure Request where
  method : Text
  scheme : Text
  host : Text
  path : Text
  query : Text
  headers : Headers
  body : Bytes
  deriving DecidableEq, Repr

def Request.ofTarget? (site : Url) (method target : Text) (headers : Headers) (body : Bytes) :
    Except Url.ParseFault Request := do
  let url ← Url.parse target
  let url :=
    if url.isAbsolute then url
    else { site with path := Url.normalPath url.rootPath, query := url.query }
  let path : Text := if url.path.isEmpty then "/" else url.path
  .ok ⟨method.map .upper, url.scheme, (Headers.get? headers "host").getD url.authority,
    Percent.decode path, url.query.getD [], headers, body⟩

inductive Content where
  | document (json : Json)
  | text (t : Text)

structure Response where
  status : Nat
  headers : Headers
  content : Content

namespace Response

def ofJson (status : Nat) (json : Json) : Response :=
  ⟨status, [("content-type", "application/json")], .document json⟩

def ofText (status : Nat) (t : Text) : Response :=
  ⟨status, [("content-type", "text/plain; charset=utf-8")], .text t⟩

def detail (status : Nat) (explanation : Json) : Response :=
  ofJson status (Json.object [("detail", explanation)])

def withHeaders (response : Response) (headers : Headers) : Response :=
  { response with headers := response.headers ++ headers }

def isSendable (response : Response) : Bool :=
  match response.content with
  | .document json => json.isSendable
  | .text t => decide t.IsScalar

def standsInLocation (c : CodePoint) : Bool :=
  Percent.isUnreserved c || Url.among ":/%#?=@[]!$&'()*+,;" c

/-- A redirect to a URL, of which what may not stand in a header is percent-encoded. -/
def redirect (url : Text) : Response :=
  ⟨307, [("location", Percent.encode standsInLocation url)], .text []⟩

def unexpected : Response :=
  ofJson 500 (Json.object [("error", .str "internal_server_error"),
    ("message", .str "An unexpected error occurred. Please try again later.")])

end Response

end SignOn.Web

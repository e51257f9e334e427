import SignOn.Json.Reader
import SignOn.Text.Blank
import SignOn.Web.Body
import SignOn.Web.Message

/-!
# The input of a request

A body counts as a document when its content type says so, and as raw bytes otherwise.  A document
that cannot be read is refused at once; whether a body is one that an endpoint takes is asked
later.
-/

namespace SignOn.Web

/-- Why an endpoint does not come to its own response: it has another one, or something comes up
that nobody foresaw. -/
inductive Stop where
  | response (response : Response)
  | unexpected

def mediaType? (contentType : Text) : Option (Text × Text) :=
  let essence := (Split.cutFirst? (CodePoint.ofChar ';') contentType).elim contentType (·.1)
  let name := Text.lower (Split.trim CodePoint.isBlank essence)
  match Split.splitOn (CodePoint.ofChar '/') name with
  | [type, subtype] => some (type, subtype)
  | _ => none

def namesDocument (contentType : Text) : Bool :=
  let plus : Text := "+json"
  match mediaType? contentType with
  | none => false
  | some (type, subtype) =>
      type = Text.ofString "application" &&
        (subtype = Text.ofString "json" || plus.isSuffixOf subtype)

inductive Input where
  | absent
  | document (json : Json)
  | raw (bytes : Bytes)

def unprocessable (issues : List Record.Issue) : Response :=
  .detail 422 (.arr (issues.map Record.Issue.json))

def bodyStep : Record.Step := .field "body"

def refuseDocument : Json.ReadFault → Response
  | .reading _ (.expected reason position) =>
      unprocessable [⟨[bodyStep, .index position], .documentUnreadable reason.message, .obj []⟩]
  | _ => .detail 400 (.str "There was an error parsing the body")

def Request.input (request : Request) : Except Response Input :=
  if request.body.isEmpty then .ok .absent
  else if namesDocument ((Headers.get? request.headers "content-type").getD []) then
    match Json.readBytes request.body with
    | .ok document => .ok (.document document)
    | .error fault => .error (refuseDocument fault)
  else .ok (.raw request.body)

def refuseShape (value : Json) : Stop := .response (unprocessable [⟨[bodyStep], .notObject, value⟩])

def Input.code : Input → Except Stop Text
  | .absent => .error (.response (unprocessable [⟨[bodyStep], .missing, .null⟩]))
  | .document (.obj fields) =>
      match (CodeRequest.ofFields fields).under bodyStep with
      | .ok request => .ok request.code
      | .error issues => .error (.response (unprocessable issues))
  | .document value => .error (refuseShape value)
  | .raw bytes =>
      match Utf8.decode bytes with
      | .ok t => .error (refuseShape (.str t))
      | .error _ => .error .unexpected

end SignOn.Web

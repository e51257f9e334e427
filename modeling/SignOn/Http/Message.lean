import SignOn.Base64
import SignOn.Url.Reference

/-!
# HTTP messages

A request and what may become of it: an answer, or a failure on the way with its wording.
-/

namespace SignOn.Http

inductive Method where
  | get
  | post
  deriving DecidableEq, Repr

def Method.text : Method → Text
  | .get => "GET"
  | .post => "POST"

structure Request where
  method : Method
  url : Url
  authorization : Option Text
  accept : Text
  contentType : Option Text
  body : Text
  deriving DecidableEq, Repr

/-- The body is the content once what a `Content-Encoding` names is undone. -/
structure Answer where
  status : Nat
  headers : List (Text × Text)
  body : Bytes
  deriving DecidableEq, Repr

def Answer.header? (answer : Answer) (name : Text) : Option Text :=
  match answer.headers.filter fun header => header.1.lower = name.lower with
  | [] => none
  | headers => some (Text.join ", " (headers.map (·.2)))

inductive Outcome where
  | answered (answer : Answer)
  | failed (message : Text)
  /-- The way to the server found the URL at fault. -/
  | urlRefused (message : Text)
  deriving DecidableEq, Repr

def basic (name password : Text) : Text :=
  let code := Base64.encode .standard true (Utf8.encode (name ++ ":" ++ password))
  "Basic " ++ code.map CodePoint.ofByte

def bearer (token : Text) : Text := "Bearer " ++ token

end SignOn.Http

import SignOn.Base64
import SignOn.Token.Claims

/-!
# Compact tokens

A compact token is three segments with dots between them: header, payload and signature, each in
base64.  The signature is what follows the last dot and the header what precedes the first; it is
required to be base64 and not looked at further.
-/

namespace SignOn.Token

def dot : UInt8 := 0x2E

structure Segments where
  header : Bytes
  payload : Bytes
  signature : Bytes
  deriving DecidableEq, Repr

def segments? (token : Bytes) : Option Segments := do
  let (signed, signature) ← Split.cutLast? dot token
  let (header, payload) ← Split.cutFirst? dot signed
  some ⟨header, payload, signature⟩

def unpackBytes (token : Bytes) : Checked Bytes :=
  match segments? token with
  | none => reject .segments
  | some segments =>
      match Base64.decodeSegment? segments.header with
      | none => reject .segments
      | some header =>
          match Json.readUtf8 header with
          | .error fault => refuseReading .headerUnreadable fault
          | .ok (.obj fields) =>
              match Base64.decodeSegment? segments.payload,
                  Base64.decodeSegment? segments.signature with
              | none, _ => reject .payloadPadding
              | _, none => reject .signaturePadding
              | some payload, some _ =>
                  if (Json.Fields.get? fields "alg").isSome then .ok payload
                  else interrupt .algorithmMissing
          | .ok _ => reject .headerNotObject

def unpack (token : Text) : Checked Bytes :=
  match Utf8.encodeStrict token with
  | .error fault => interrupt (.notEncodable fault)
  | .ok bytes => unpackBytes bytes

def parse (leeway now : Int) (token : Text) : Checked IdentityClaims := do
  let payload ← unpack token
  checkPayload leeway now payload

/-- The compact form of three byte strings; `padded` says for each segment whether its padding is
written. -/
def compact (padded : Bool × Bool × Bool) (segments : Segments) : Bytes :=
  Base64.encode .urlSafe padded.1 segments.header ++
    dot :: Base64.encode .urlSafe padded.2.1 segments.payload ++
    dot :: Base64.encode .urlSafe padded.2.2 segments.signature

end SignOn.Token

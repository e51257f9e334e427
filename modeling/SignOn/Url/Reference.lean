import SignOn.Text.Quoted
import SignOn.Url.Address
import SignOn.Url.Idna
import SignOn.Url.Percent

/-!
# URLs in normal form

`Url.parse` splits a text into the parts of a URL and brings each into normal form: scheme and host
in lower case, a host of other scripts in its ASCII form, the default port dropped, dot segments
resolved, and what may not stand in a part percent-encoded.  `Url.text` writes the parts together.
-/

namespace SignOn

structure Url where
  scheme : Text
  userinfo : Text
  host : Text
  port : Option Int
  path : Text
  query : Option Text
  fragment : Option Text
  deriving DecidableEq, Repr

namespace Url

inductive Fault where
  | tooLong
  | unprintable (c : CodePoint) (position : Nat)
  | partTooLong (part : Text)
  | partUnprintable (part : Text) (c : CodePoint) (position : Nat)
  | octets (host : Text)
  | groups (host : Text)
  | name (host : Text)
  | port (given : Text)
  | relativeToHost
  | doubleSlash
  | leadingColon
  deriving DecidableEq, Repr

def Fault.message : Fault → Text
  | .tooLong => "URL too long"
  | .unprintable c position =>
      "Invalid non-printable ASCII character in URL, " ++ Text.quoted [c] ++ " at position " ++
        Text.ofNat position ++ "."
  | .partTooLong part => "URL component '" ++ part ++ "' too long"
  | .partUnprintable part c position =>
      "Invalid non-printable ASCII character in URL " ++ part ++ " component, " ++
        Text.quoted [c] ++ " at position " ++ Text.ofNat position ++ "."
  | .octets host => "Invalid IPv4 address: " ++ host.quoted
  | .groups host => "Invalid IPv6 address: " ++ host.quoted
  | .name host => "Invalid IDNA hostname: " ++ host.quoted
  | .port given => "Invalid port: " ++ given.quoted
  | .relativeToHost => "For absolute URLs, path must be empty or begin with '/'"
  | .doubleSlash => "Relative URLs cannot have a path starting with '//'"
  | .leadingColon => "Relative URLs cannot have a path starting with ':'"

/-- A text may be no URL, or hold a lone surrogate that no part can take. -/
inductive ParseFault where
  | invalid (fault : Fault)
  | notEncodable (fault : Codec.EncodeFault)
  deriving DecidableEq, Repr

def ParseFault.message : ParseFault → Text
  | .invalid fault => fault.message
  | .notEncodable fault => fault.message

def maxLength : Nat := 65536

def isPrintableAscii (c : CodePoint) : Bool := c.between 0x20 0x7E

def unprintable? (t : Text) : Option (CodePoint × Nat) :=
  let unprintable (c : CodePoint) : Bool := c.isAscii && !isPrintableAscii c
  match t.find? unprintable, t.findIdx? unprintable with
  | some c, some position => some (c, position)
  | _, _ => none

def among (marks : String) (c : CodePoint) : Bool := (Text.ofString marks).contains c

def standsInQuery (c : CodePoint) : Bool := isPrintableAscii c && !among " \"#<>" c
def standsInFragment (c : CodePoint) : Bool := isPrintableAscii c && !among " \"<>`" c
def standsInPath (c : CodePoint) : Bool := standsInQuery c && !among "?`\x7b\x7d" c
def standsInUserinfo (c : CodePoint) : Bool := standsInPath c && !among "/;=@[\\]^|" c

def standsInHost (c : CodePoint) : Bool :=
  Percent.isUnreserved c || among "!$&'()*+,;=\"`\x7b\x7d%|\\" c

def encodePart (stands : CodePoint → Bool) (t : Text) : Except ParseFault Text :=
  match t.find? CodePoint.isSurrogate with
  | some c => .error (.notEncodable ⟨.utf8, c, 0, 1⟩)
  | none => .ok (Percent.encode stands t)

/-- Whether a host looks like four decimal numbers with any one character between each two.  The
states say which numbers can be open, and whether a digit of it has been read. -/
def looksLikeOctets (host : Text) : Bool :=
  let step (states : List Nat) (c : CodePoint) : List Nat :=
    (states.flatMap fun s =>
      (if c.isDigit then [s / 2 * 2 + 1] else []) ++ (if s % 2 = 1 && s < 7 then [s + 1] else []))
      |>.eraseDups
  (host.foldl step [0]).contains 7

def normalHost (host : Text) : Except ParseFault Text :=
  if host.isEmpty then .ok []
  else if looksLikeOctets host then
    if Address.isFourOctets host then .ok host else .error (.invalid (.octets host))
  else if host.head? = some (CodePoint.ofChar '[') &&
      host.getLast? = some (CodePoint.ofChar ']') then
    let inner := (host.drop 1).dropLast
    if Address.isEightGroups inner then .ok inner else .error (.invalid (.groups host))
  else if host.all CodePoint.isAscii then encodePart standsInHost host.lower
  else
    match Idna.encode? (Idna.lower host) with
    | some name => .ok name
    | none => .error (.invalid (.name host))

def defaultPorts : List (Text × Int) :=
  [("ftp", 21), ("http", 80), ("https", 443), ("ws", 80), ("wss", 443)]

def normalPort (scheme port : Text) : Except ParseFault (Option Int) :=
  if port.isEmpty then .ok none
  else
    match Number.anyInteger? port with
    | none => .error (.invalid (.port port))
    | some n => .ok (if defaultPorts.contains (scheme, n) then none else some n)

def normalPath (path : Text) : Text :=
  let dot : Text := "."
  let dots : Text := ".."
  let segments := Split.splitOn (CodePoint.ofChar '/') path
  if !segments.contains dot && !segments.contains dots then path
  else
    let kept := segments.foldl (fun kept segment =>
      if segment = dot then kept
      else if segment = dots then (if kept = [] || kept = [[]] then kept else kept.dropLast)
      else kept ++ [segment]) []
    Text.join "/" kept

def startsWith (start : String) (t : Text) : Bool := (Text.ofString start).isPrefixOf t

def checkPath (hasScheme hasAuthority : Bool) (path : Text) : Except ParseFault Unit :=
  if hasAuthority && !path.isEmpty && !startsWith "/" path then .error (.invalid .relativeToHost)
  else if !hasScheme && !hasAuthority && startsWith "//" path then .error (.invalid .doubleSlash)
  else if !hasScheme && !hasAuthority && startsWith ":" path then .error (.invalid .leadingColon)
  else .ok ()

def upTo (marks : String) (t : Text) : Text × Text :=
  (t.takeWhile fun c => !among marks c, t.dropWhile fun c => !among marks c)

/-- A scheme with its colon; a colon alone is an empty scheme. -/
def cutScheme (t : Text) : Text × Text :=
  match Split.cutFirst? (CodePoint.ofChar ':') t with
  | some ([], rest) => ([], rest)
  | some (c :: before, rest) =>
      if c.isLetter && before.all fun d => d.isLetter || d.isDigit || among "+.-" d then
        (c :: before, rest)
      else ([], t)
  | none => ([], t)

def cutAuthority (authority : Text) : Text × Text × Text :=
  let (userinfo, rest) := (Split.cutLast? (CodePoint.ofChar '@') authority).getD ([], authority)
  let (host, rest) :=
    match if startsWith "[" rest then Split.cutLast? (CodePoint.ofChar ']') rest else none with
    | some (host, rest) => (host ++ [CodePoint.ofChar ']'], rest)
    | none => upTo ":" rest
  (userinfo, host, if startsWith ":" rest then rest.drop 1 else rest)

structure Parts where
  scheme : Text
  authority : Text
  path : Text
  query : Option Text
  fragment : Option Text

def cutParts (t : Text) : Parts :=
  let (scheme, rest) := cutScheme t
  let (authority, rest) := if startsWith "//" rest then upTo "/?#" (rest.drop 2) else ([], rest)
  let (path, rest) := upTo "?#" rest
  let (query, rest) :=
    if startsWith "?" rest then
      let (query, rest) := upTo "#" (rest.drop 1)
      (some query, rest)
    else (none, rest)
  ⟨scheme, authority, path, query, if startsWith "#" rest then some (rest.drop 1) else none⟩

def encodeOptional (stands : CodePoint → Bool) : Option Text → Except ParseFault (Option Text)
  | none => .ok none
  | some t => (encodePart stands t).map some

def ofParts (parts : Parts) : Except ParseFault Url := do
  let (userinfo, host, port) := cutAuthority parts.authority
  let userinfo ← encodePart standsInUserinfo userinfo
  let host ← normalHost host
  let port ← normalPort parts.scheme port
  let hasScheme := !parts.scheme.isEmpty
  let hasAuthority := !userinfo.isEmpty || !host.isEmpty || port.isSome
  checkPath hasScheme hasAuthority parts.path
  let path := if hasScheme || hasAuthority then normalPath parts.path else parts.path
  let path ← encodePart standsInPath path
  let query ← encodeOptional standsInQuery parts.query
  let fragment ← encodeOptional standsInFragment parts.fragment
  .ok ⟨parts.scheme.lower, userinfo, host, port, path, query, fragment⟩

def parse (t : Text) : Except ParseFault Url :=
  if maxLength < t.length then .error (.invalid .tooLong)
  else
    match unprintable? t with
    | some (c, position) => .error (.invalid (.unprintable c position))
    | none => ofParts (cutParts t)

def marked (mark : String) : Option Text → Text
  | none => []
  | some t => Text.ofString mark ++ t

def hostText (u : Url) : Text :=
  if u.host.contains (CodePoint.ofChar ':') then "[" ++ u.host ++ "]" else u.host

def authority (u : Url) : Text :=
  let userinfo : Text := if u.userinfo.isEmpty then [] else u.userinfo ++ "@"
  userinfo ++ u.hostText ++ marked ":" (u.port.map Text.ofInt)

def text (u : Url) : Text :=
  let scheme : Text := if u.scheme.isEmpty then [] else u.scheme ++ ":"
  let authority : Text := if u.authority.isEmpty then [] else "//" ++ u.authority
  scheme ++ authority ++ u.path ++ marked "?" u.query ++ marked "#" u.fragment

def isAbsolute (u : Url) : Bool := !u.scheme.isEmpty && !u.host.isEmpty

def rootPath (u : Url) : Text := "/" ++ u.path.dropWhile fun c => c = ('/' : CodePoint)

def credentials? (u : Url) : Option (Text × Text) :=
  let (name, password) :=
    (Split.cutFirst? (CodePoint.ofChar ':') u.userinfo).getD (u.userinfo, [])
  if name.isEmpty && password.isEmpty then none
  else some (Percent.decode name, Percent.decode password)

end Url

end SignOn

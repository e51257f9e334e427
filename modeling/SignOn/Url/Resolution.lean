import SignOn.Url.Reference

/-!
# URLs made of others

A URL made of parts that are given one by one has each part checked before they are put together.
`Url.joined` is the text of a reference without a scheme, taken from the place of another URL.
-/

namespace SignOn.Url

def checkPart (part : Text) (t : Text) : Except ParseFault Unit :=
  if maxLength < t.length then .error (.invalid (.partTooLong part))
  else
    match unprintable? t with
    | some (c, position) => .error (.invalid (.partUnprintable part c position))
    | none => .ok ()

def checkParts (parts : Parts) : Except ParseFault Unit := do
  checkPart "scheme" parts.scheme
  checkPart "authority" parts.authority
  checkPart "path" parts.path
  parts.query.forM (checkPart "query")
  parts.fragment.forM (checkPart "fragment")

def parts (u : Url) : Parts := ⟨u.scheme, u.authority, u.path, u.query, u.fragment⟩

def rooted (u : Url) : Except ParseFault Url := do
  let parts : Parts := ⟨[], [], u.rootPath, u.query, none⟩
  checkParts parts
  ofParts parts

def withHost (u : Url) (host : Text) : Except ParseFault Url := do
  let moved := { u with host }
  checkParts u.parts
  checkPart "host" moved.hostText
  ofParts moved.parts

def withFragment (u : Url) (fragment : Text) : Except ParseFault Url := do
  let parts := { u.parts with fragment := some fragment }
  checkParts parts
  ofParts parts

/-- The host as it is shown: one whose first label stands for a label of another script is read. -/
def shownHost (u : Url) : Except Idna.Fault Text :=
  if Idna.mark.isPrefixOf u.host then Idna.decode u.host else .ok u.host

/-- The schemes with URLs that others can be taken from. -/
def relativeSchemes : List Text :=
  ["ftp", "http", "gopher", "nntp", "imap", "wais", "file", "https", "shttp", "mms", "prospero",
    "rtsp", "rtsps", "rtspu", "sftp", "svn", "svn+ssh", "ws", "wss"]

def parameterSchemes : List Text :=
  ["ftp", "hdl", "prospero", "http", "imap", "https", "shttp", "rtsp", "rtsps", "rtspu", "sip",
    "sips", "mms", "sftp", "tel"]

def cutParameters (scheme path : Text) : Text × Text :=
  let (before, last) := (Split.cutLast? (CodePoint.ofChar '/') path).elim (Text.ofString "", path)
    fun (before, last) => (before ++ Text.ofString "/", last)
  match if parameterSchemes.contains scheme then Split.cutFirst? (CodePoint.ofChar ';') last
    else none with
  | some (last, parameters) => (before ++ last, parameters)
  | none => (path, [])

def splice (scheme authority path parameters : Text) (query fragment : Option Text) : Text :=
  let some? (t : Option Text) : Option Text := t.filter fun t => !t.isEmpty
  let path := if parameters.isEmpty then path else path ++ ";" ++ parameters
  let path : Text := if path.isEmpty || startsWith "/" path then path else "/" ++ path
  scheme ++ "://" ++ authority ++ path ++ marked "?" (some? query) ++ marked "#" (some? fragment)

def climb (segments : List Text) : List Text :=
  let kept := segments.foldl (fun kept segment =>
    if segment = Text.ofString ".." then kept.dropLast
    else if segment = Text.ofString "." then kept
    else kept ++ [segment]) []
  if segments.getLast?.any fun last => last = Text.ofString "." || last = Text.ofString ".." then
    kept ++ [[]]
  else kept

def dropInnerEmpty : List Text → List Text
  | first :: second :: rest =>
      first :: (second :: rest).dropLast.filter (fun segment => !segment.isEmpty) ++
        [(second :: rest).getLast?.getD []]
  | segments => segments

def resolvePath (base path : Text) : Text :=
  let slash := CodePoint.ofChar '/'
  let own := Split.splitOn slash path
  let baseSegments := Split.splitOn slash base
  let before := if baseSegments.getLast? = some [] then baseSegments else baseSegments.dropLast
  let segments := if startsWith "/" path then own else dropInnerEmpty (before ++ own)
  let resolved := Text.join "/" (climb segments)
  if resolved.isEmpty then "/" else resolved

def joined (base reference : Url) : Text :=
  if reference.text.isEmpty then base.text
  else if !relativeSchemes.contains base.scheme then reference.text
  else
    let (path, parameters) := cutParameters base.scheme reference.path
    if !reference.authority.isEmpty then
      splice base.scheme reference.authority path parameters reference.query reference.fragment
    else
      let (basePath, baseParameters) := cutParameters base.scheme base.path
      if path.isEmpty && parameters.isEmpty then
        splice base.scheme base.authority basePath baseParameters
          (if reference.query.getD [] = [] then base.query else reference.query)
          reference.fragment
      else
        splice base.scheme base.authority (resolvePath basePath path) parameters
          reference.query reference.fragment

end SignOn.Url

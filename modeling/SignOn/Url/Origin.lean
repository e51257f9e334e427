import SignOn.Text.Quoted
import SignOn.Url.Address

/-!
# Scheme and authority of a URL

`origin?` reads off the scheme and the authority of a text, or says why it cannot be told where the
authority ends.  Blanks and controls at the start, tabs and line ends anywhere are passed over.
-/

namespace SignOn.Url

structure Origin where
  scheme : Text
  authority : Text
  deriving DecidableEq, Repr

inductive OriginFault where
  | unpairedBracket
  | futureAddress
  | notAddress (host : Text)
  | bracketedOctets
  | compatibility (authority : Text)
  deriving DecidableEq, Repr

def OriginFault.message : OriginFault → Text
  | .unpairedBracket => "Invalid IPv6 URL"
  | .futureAddress => "IPvFuture address is invalid"
  | .notAddress host => host.quoted ++ " does not appear to be an IPv4 or IPv6 address"
  | .bracketedOctets => "An IPv4 address cannot be in brackets"
  | .compatibility authority =>
      "netloc '" ++ authority ++ "' contains invalid characters under NFKC normalization"

def cleaned (t : Text) : Text :=
  (t.dropWhile fun c => c.val ≤ 0x20).filter fun c => !(c = '\t' || c = '\n' || c = '\r')

def isSchemePoint (c : CodePoint) : Bool :=
  c.isLetter || c.isDigit || c = '+' || c = '-' || c = '.'

def leadingScheme (t : Text) : Text × Text :=
  match Split.cutFirst? (CodePoint.ofChar ':') t with
  | some (c :: rest, after) =>
      if c.isLetter && rest.all isSchemePoint then (Text.lower (c :: rest), after) else ([], t)
  | _ => ([], t)

def endsAuthority (c : CodePoint) : Bool := c = '/' || c = '?' || c = '#'

def authorityOf (t : Text) : Text :=
  let slashes : Text := "//"
  if slashes.isPrefixOf t then (t.drop 2).takeWhile fun c => !endsAuthority c else []

/-- What stands between the first opening bracket and the first closing one after it. -/
def bracketed (authority : Text) : Text :=
  ((authority.dropWhile (· ≠ CodePoint.ofChar '[')).drop 1).takeWhile (· ≠ CodePoint.ofChar ']')

/-- An address of a later version: a letter, digits, a point and something. -/
def isFutureAddress (host : Text) : Bool :=
  let digits := (host.drop 1).takeWhile fun c => c.hexValue?.isSome
  let rest := (host.drop 1).dropWhile fun c => c.hexValue?.isSome
  !digits.isEmpty && rest.head? = some (CodePoint.ofChar '.') && 1 < rest.length

def checkBrackets (authority : Text) : Except OriginFault Unit :=
  let opens := authority.contains (CodePoint.ofChar '[')
  let closes := authority.contains (CodePoint.ofChar ']')
  if opens != closes then .error .unpairedBracket
  else if !opens then .ok ()
  else
    let host := bracketed authority
    if host.head? = some (CodePoint.ofChar 'v') then
      if isFutureAddress host then .ok () else .error .futureAddress
    else if Address.isFourOctets host then .error .bracketedOctets
    else if Address.isEightGroups host then .ok ()
    else .error (.notAddress host)

/-- The code points whose compatibility form holds a slash, a question mark, a number sign, an at
sign or a colon. -/
def delimiterForms : List Nat :=
  [0x2047, 0x2048, 0x2049, 0x2100, 0x2101, 0x2105, 0x2106, 0x2A74, 0xFE13, 0xFE16, 0xFE55, 0xFE56,
    0xFE5F, 0xFE6B, 0xFF03, 0xFF0F, 0xFF1A, 0xFF1F, 0xFF20]

def checkCompatibility (authority : Text) : Except OriginFault Unit :=
  if authority.any fun c => delimiterForms.contains c.val then .error (.compatibility authority)
  else .ok ()

def origin? (t : Text) : Except OriginFault Origin := do
  let (scheme, rest) := leadingScheme (cleaned t)
  let authority := authorityOf rest
  checkBrackets authority
  checkCompatibility authority
  .ok ⟨scheme, authority⟩

def Origin.isWeb (o : Origin) : Bool :=
  (o.scheme = Text.ofString "http" || o.scheme = Text.ofString "https") && !o.authority.isEmpty

end SignOn.Url

import AmazonSimilarSearch.Foundation.Casefold
import AmazonSimilarSearch.Foundation.Text

/-!
# The parts of a URL

`urllib.parse.urlparse` as far as the origin of a URL goes: its scheme, its
network location, and the user information, host and port in there. The checks
that the library makes on bracketed and on non-ASCII locations are a parameter.
-/
namespace Foundation

structure UrlParts where
  scheme : String
  netloc : String
  deriving DecidableEq, Repr

def isSchemeChar (c : Char) : Bool := isAlphanumericAscii c || c == '+' || c == '-' || c == '.'

/-- What is left of a URL for parsing: leading control characters and blanks go, and every tab
and line break. -/
def strippedUrl (url : String) : List Char :=
  (url.toList.dropWhile fun c => c.toNat ≤ 32).filter fun c => c != '\t' && c != '\n' && c != '\r'

/-- The scheme in lower case, and what follows its colon. -/
def splitScheme (cs : List Char) : List Char × List Char :=
  let head := cs.takeWhile (· != ':')
  if head.length < cs.length && (head.head?.any fun c => isUpperAscii c || isLowerAscii c) &&
      head.all isSchemeChar then
    (head.map Char.toLower, cs.drop (head.length + 1))
  else ([], cs)

/-- `urlparse(url)`; `none` is its `ValueError`. -/
def urlparse (checkNetloc : String → Bool) (url : String) : Option UrlParts :=
  let split := splitScheme (strippedUrl url)
  let netloc :=
    if split.2.take 2 = ['/', '/'] then
      (split.2.drop 2).takeWhile fun c => c != '/' && c != '?' && c != '#'
    else []
  if netloc.contains '[' = netloc.contains ']' ∧ checkNetloc (String.ofList netloc) then
    some ⟨String.ofList split.1, String.ofList netloc⟩
  else none

namespace UrlParts

/-- `parsed.username is not None` -/
def hasUserinfo (parts : UrlParts) : Bool := parts.netloc.toList.contains '@'

/-- What follows the last `@` of the network location. -/
def hostinfo (parts : UrlParts) : List Char :=
  (parts.netloc.toList.reverse.takeWhile (· != '@')).reverse

/-- What follows the first `mark`. -/
def after (mark : Char) (cs : List Char) : List Char := (cs.dropWhile (· != mark)).drop 1

/-- The host as it is written, and the text of the port. -/
def hostAndPort (parts : UrlParts) : List Char × List Char :=
  let info := parts.hostinfo
  if info.contains '[' then
    let bracketed := after '[' info
    (bracketed.takeWhile (· != ']'), after ':' (after ']' bracketed))
  else (info.takeWhile (· != ':'), after ':' info)

/-- `parsed.hostname`, before it is put into lower case. -/
def hostname? (parts : UrlParts) : Option String :=
  let host := parts.hostAndPort.1
  if host = [] then none else some (String.ofList host)

/-- `parsed.port`; the outer `none` is its `ValueError`. -/
def port? (parts : UrlParts) : Option (Option ℕ) :=
  let port := parts.hostAndPort.2
  if port = [] then some none
  else if port.all isDigitAscii then
    let number := Nat.ofDigitChars 10 port 0
    if number ≤ 65535 then some (some number) else none
  else none

end UrlParts
end Foundation

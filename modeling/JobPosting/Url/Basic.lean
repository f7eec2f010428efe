import JobPosting.Text.Percent

/-!
# URLs of the web

* `Url` : the parts of an `http` or `https` URL, each in its encoded form.
* `Url.print` : the URL as one text.
* `UrlError` : what may be wrong with a text that should be a URL.

Every part has a set of characters that are percent encoded in it; the sets are `Url.fragmentSet`, `Url.pathSet`,
`Url.userinfoSet` and `Url.querySet`.
-/

namespace JobPosting

/-- What is wrong with a text that should be a URL. -/
inductive UrlError where
  | noScheme
  | emptyHost
  | badDomainName
  | badPort
  | badIpv4
  | badIpv6
  | badDomainCharacter
  deriving DecidableEq

def UrlError.message : UrlError → String
  | .noScheme => "relative URL without a base"
  | .emptyHost => "empty host"
  | .badDomainName => "invalid international domain name"
  | .badPort => "invalid port number"
  | .badIpv4 => "invalid IPv4 address"
  | .badIpv6 => "invalid IPv6 address"
  | .badDomainCharacter => "invalid domain character"

inductive WebScheme where
  | http
  | https
  deriving DecidableEq

namespace WebScheme

def name : WebScheme → Text
  | http => "http"
  | https => "https"

/-- The port number that a scheme uses unless another one is given. -/
def defaultPort : WebScheme → Nat
  | http => 80
  | https => 443

end WebScheme

/-- The parts of a URL of the web. The path is never empty; a path that ends in a slash has an empty last segment. -/
structure Url where
  scheme : WebScheme
  /-- User name and password, in front of the host; perhaps empty. -/
  credentials : Text
  host : Text
  /-- The port number, unless it is the one of the scheme. -/
  portNumber : Option Nat
  path : List Text
  query : Option Text
  fragment : Option Text
  deriving DecidableEq

namespace Url

/-! ## Encoding -/

/-- What is encoded in a fragment. -/
def fragmentSet (c : Char) : Bool := isControlOrWide c || [' ', '"', '<', '>', '\x60'].contains c

/-- What is encoded in a path segment. -/
def pathSet (c : Char) : Bool := fragmentSet c || ['#', '?', '\x7B', '\x7D'].contains c

/-- What is encoded in a user name and a password. -/
def userinfoSet (c : Char) : Bool :=
  pathSet c || ['/', ':', ';', '=', '@', '[', '\\', ']', '^', '|'].contains c

/-- What is encoded in a query. -/
def querySet (c : Char) : Bool := isControlOrWide c || [' ', '"', '#', '<', '>', '\''].contains c

/-! ## Printing -/

/-- The path with a slash before each segment. -/
def printPath (path : List Text) : Text := path.flatMap ('/' :: ·)

/-- A part with its mark, if it is there. -/
def printPart (mark : Char) : Option Text → Text
  | some t => mark :: t
  | none => []

/-- The URL as one text. -/
def print (u : Url) : Text :=
  u.scheme.name ++ "://" ++ u.credentials ++ u.host ++ printPart ':' (u.portNumber.map Text.ofNat) ++ printPath u.path ++
    printPart '?' u.query ++ printPart '#' u.fragment

end Url

end JobPosting

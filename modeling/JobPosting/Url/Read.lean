import JobPosting.Url.Host
import JobPosting.Url.Path

/-!
# Reading URLs

A text is cut into its parts from the outside: blanks around it, the scheme, the fragment behind the first `#`, the
query behind the first `?`, the authority in front of the first slash, and in it credentials, host and port number.

* `Url.read` : the URL of the web that a text stands for; none if the text is a URL of another kind.

URLs of other kinds are read as far as an error may show in them.
-/

namespace JobPosting.Url

/-! ## Around the URL -/

/-- Blanks and control characters, which may stand around a URL. -/
def isMargin (c : Char) : Bool := c.toNat ≤ 0x20

/-- Tabs and line ends, which may stand anywhere in a URL. -/
def isBreak (c : Char) : Bool := c = '\t' || c = '\n' || c = '\r'

/-- The text without its margins and line breaks. -/
def strip (t : Text) : Text :=
  ((t.dropWhile isMargin).reverse.dropWhile isMargin).reverse.filter (!isBreak ·)

/-! ## Parts -/

def isSchemeChar (c : Char) : Bool := Text.isLetter c || Text.isDigit c || ['+', '.', '-'].contains c

/-- The scheme of a URL in small letters, and what follows its colon. -/
def cutScheme? (t : Text) : Option (Text × Text) :=
  match Text.cut? ':' t with
  | some (c :: s, rest) =>
    if Text.isLetter c && s.all isSchemeChar then some (Text.lower (c :: s), rest) else none
  | _ => none

/-- The text before a mark, and the part behind it. -/
def cutPart (mark : Char) (t : Text) : Text × Option Text :=
  match Text.cut? mark t with
  | some (front, part) => (front, some part)
  | none => (t, none)

/-- The text before the last `@`, and the part behind it. -/
def cutCredentials (authority : Text) : Option Text × Text :=
  match Text.cut? '@' authority.reverse with
  | some (host, credentials) => (some credentials.reverse, host.reverse)
  | none => (none, authority)

/-- The host, and what stands behind the first colon that is not in brackets; `inside` tells whether a bracket is
open. -/
def cutPort (inside : Bool) : Text → Text × Option Text
  | [] => ([], none)
  | c :: r =>
    if c = ':' && !inside then ([], some r)
    else
      let (host, rest) := cutPort (if c = '[' then true else if c = ']' then false else inside) r
      (c :: host, rest)

/-- User name and password in encoded form, with the `@` behind them; nothing if both are empty. -/
def encodeCredentials (t : Text) : Text :=
  let (name, password) := (Text.cut? ':' t).getD (t, [])
  if name = [] && password = [] then []
  else
    Text.percentEncode userinfoSet name ++
      (if password = [] then [] else ':' :: Text.percentEncode userinfoSet password) ++ ['@']

/-- The port number that digits denote; none if they are left out. -/
def readPort : Option Text → Except UrlError (Option Nat)
  | none => .ok none
  | some [] => .ok none
  | some t =>
    match Text.toNat? 10 t with
    | some n => if n < 0x10000 then .ok (some n) else .error .badPort
    | none => .error .badPort

/-! ## Authorities -/

/-- The credentials, the host and the port number of a URL whose scheme has domain names. -/
def readAuthority (t : Text) : Except UrlError (Text × Text × Option Nat) := do
  let (credentials, rest) := cutCredentials t
  let (host, digits) := cutPort false rest
  if host = [] then throw .emptyHost
  let host ← Host.read host
  let portNumber ← readPort digits
  return (encodeCredentials (credentials.getD []), host, portNumber)

/-- The check of the authority of a URL whose host is opaque. -/
def checkOpaqueAuthority (t : Text) : Except UrlError Unit := do
  let (credentials, rest) := cutCredentials t
  let (host, digits) := cutPort false rest
  if host = [] then
    if digits.isSome || credentials = some [] || encodeCredentials (credentials.getD []) ≠ [] then throw .emptyHost
  else
    Host.checkOpaque host
    let _ ← readPort (digits.map (·.takeWhile (· ≠ '\\')))

def checkFileHost (t : Text) : Except UrlError Unit :=
  if t = [] || Path.isDrive t then .ok () else (Host.read t).map fun _ => ()

/-- The text before the first slash. -/
def authorityOf (t : Text) : Text := t.takeWhile (!Path.isSlash ·)

/-- The check of what follows the scheme of a URL that is not of the web, without query and fragment. -/
def checkOther (scheme front : Text) : Except UrlError Unit :=
  if ["ftp".toList, "ws".toList, "wss".toList].contains scheme then
    (readAuthority (authorityOf (front.dropWhile Path.isSlash))).map fun _ => ()
  else if scheme = "file" then
    match front with
    | a :: b :: r => if Path.isSlash a && Path.isSlash b then checkFileHost (authorityOf r) else .ok ()
    | _ => .ok ()
  else
    match Text.stripPrefix? "//" front with
    | some r => checkOpaqueAuthority (Text.before '/' r)
    | none => .ok ()

/-! ## The whole -/

def webScheme? (scheme : Text) : Option WebScheme :=
  if scheme = WebScheme.http.name then some .http
  else if scheme = WebScheme.https.name then some .https
  else none

/-- The URL of the web with this scheme and this text behind it. -/
def readWeb (scheme : WebScheme) (front : Text) (query fragment : Option Text) : Except UrlError Url := do
  let t := front.dropWhile Path.isSlash
  let (credentials, host, portNumber) ← readAuthority (authorityOf t)
  return {
    scheme, credentials, host
    portNumber := portNumber.filter (· ≠ scheme.defaultPort)
    path := Path.read (t.dropWhile (!Path.isSlash ·))
    query := query.map (Text.percentEncode querySet)
    fragment := fragment.map (Text.percentEncode fragmentSet) }

/-- The URL of the web that a text stands for; none if the text is a URL of another kind. -/
def read (t : Text) : Except UrlError (Option Url) :=
  match cutScheme? (strip t) with
  | none => .error .noScheme
  | some (scheme, rest) =>
    let (rest, fragment) := cutPart '#' rest
    let (front, query) := cutPart '?' rest
    match webScheme? scheme with
    | some web => (readWeb web front query fragment).map some
    | none => (checkOther scheme front).map fun _ => none

end JobPosting.Url

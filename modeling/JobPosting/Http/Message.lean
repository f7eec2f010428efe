import JobPosting.Json

/-!
# HTTP messages

Requests and responses as far as the service looks at them.

* `Request.header?`, `Request.headers` : the values of a header.
* `Request.path`, `Request.query` : the parts of the target.
* `Response` : status, headers and content of an answer.
-/

namespace JobPosting

structure Request where
  method : Text
  target : Text
  headers : List (Text × Text)
  /-- The body, which is UTF-8. Left out are bodies that are not: JSON with such bytes in a text that is read is malformed,
  while in a text that is passed over they do no harm. -/
  body : Text
  /-- The address of the peer, if it is known. -/
  peer : Option Text
  /-- Whether the limiter of the API finds that the client has made too many requests lately. -/
  isOverLimit : Bool := false

namespace Request

/-- A header value that can be read: printable ASCII and tabs. -/
def readable? (value : Text) : Option Text :=
  if value.all fun c => c = '\t' || (0x20 ≤ c.toNat && c.toNat < 0x7F) then some value else none

/-- All values of a header. -/
def values (r : Request) (name : Text) : List Text :=
  (r.headers.filter fun h => Text.SameLetters h.1 name).map (·.2)

/-- The first value of a header, if it can be read. -/
def header? (r : Request) (name : Text) : Option Text := (r.values name).head?.bind readable?

/-- The target without a fragment. -/
def resource (r : Request) : Text := Text.before '#' r.target

/-- The path without slashes at its end, and with one at its beginning. -/
def trimPath (path : Text) : Text :=
  if path.getLast? = some '/' || "//".toList.isPrefixOf path then
    '/' :: ((path.dropWhile (· = '/')).reverse.dropWhile (· = '/')).reverse
  else path

def path (r : Request) : Text := trimPath (Text.before '?' r.resource)

/-- The query of the target; empty if there is none. -/
def query (r : Request) : Text := ((Text.cut? '?' r.resource).map (·.2)).getD []

end Request

/-- What a response holds. -/
inductive Content where
  | nothing
  | json (value : Json)
  | lines (ls : List Text)

/-- A response. The text of a refusal other than a validation error is not fixed, and is left out. -/
structure Response where
  status : Nat
  contentType : Option Text
  /-- The methods that a path allows, if the method was another one. -/
  allow : Option Text
  content : Content

namespace Response

def ofStatus (status : Nat) : Response := ⟨status, none, none, .nothing⟩

def ofJson (status : Nat) (value : Json) : Response := ⟨status, some "application/json", none, .json value⟩

/-- A response that explains itself in plain text. -/
def ofRefusal (status : Nat) : Response := ⟨status, some "text/plain; charset=utf-8", none, .nothing⟩

def withoutContent (r : Response) : Response := { r with content := .nothing }

end Response

end JobPosting

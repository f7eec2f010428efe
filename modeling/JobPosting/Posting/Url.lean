import JobPosting.Fingerprint
import JobPosting.HostName
import JobPosting.Text.FormEncoded
import JobPosting.Url.Read

/-!
# Posting URLs

The parts of a URL that say something about the job posting it points at.

* `PostingUrl.ofUrl` : the host without `www`, the path segments that are not empty, the decoded query, and the URL
  itself as one text.
* `PostingUrl.read` : the posting URL that a text stands for.
* `PostingUrl.lastSegment?`, `PostingUrl.segmentAfter?`, `PostingUrl.queryValue?` : the places where identifiers stand.
-/

namespace JobPosting

/-- Why a text is no posting URL. -/
inductive PostingUrlError where
  /-- It is no URL at all. -/
  | malformed (cause : UrlError)
  | notOfTheWeb
  deriving DecidableEq

def PostingUrlError.message : PostingUrlError → String
  | .malformed cause => "Invalid URL format: " ++ cause.message
  | .notOfTheWeb => "Only HTTP and HTTPS protocols are allowed"

/-- What a URL says about a posting. -/
structure PostingUrl where
  host : Text
  segments : List Text
  query : List (Text × Text)
  href : Text
  deriving DecidableEq

namespace PostingUrl

/-- The parts of a URL of the web that matter for a posting. -/
def ofUrl (u : Url) : PostingUrl where
  host := HostName.withoutWww (Text.lower u.host)
  segments := u.path.filter (· ≠ [])
  query := Text.formPairs (u.query.getD [])
  href := u.print

def read (t : Text) : Except PostingUrlError PostingUrl :=
  match Url.read t with
  | .ok (some u) => .ok (ofUrl u)
  | .ok none => .error .notOfTheWeb
  | .error cause => .error (.malformed cause)

/-- The posting URL that a text stands for, if it is one. -/
def read? (t : Text) : Option PostingUrl := (read t).toOption

/-- The last value that the query gives for a name. -/
def queryValue? (u : PostingUrl) (name : Text) : Option Text := lastValue? name u.query

/-- The URL up to its first question mark. -/
def hrefWithoutQuery (u : PostingUrl) : Text := Text.before '?' u.href

def lastSegment? (u : PostingUrl) : Option Text := u.segments.getLast?

/-- The segment behind the first one that is the word `token` in any letter case. -/
def segmentAfter? (u : PostingUrl) (token : Text) : Option Text :=
  match u.segments.dropWhile (fun s => ¬ Text.SameLetters s token) with
  | _ :: s :: _ => some s
  | _ => none

def firstLabel (u : PostingUrl) : Text := HostName.firstLabel u.host

/-- The fingerprint of the URL without its query. -/
def pageFingerprint (u : PostingUrl) : Text := fingerprint u.hrefWithoutQuery

end PostingUrl

end JobPosting

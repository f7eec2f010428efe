import JobPosting.Extraction
import JobPosting.Posting.Url

/-!
# Layouts

A provider arranges its URLs in a layout of its own. A layout tells where the URL names the employer and where it
carries the identifier of the posting; if the identifier is missing or has the wrong shape, the fingerprint of the
page takes its place.

* `Place` : a place of a URL where a text may stand.
* `Shape` : which texts count as identifiers.
* `EmployerRule`, `IdRule` : how a layout names the employer and finds the identifier.
* `Layout.extract` : what a layout says about a URL.
-/

namespace JobPosting

/-! ## Places and shapes -/

/-- A place of a URL. -/
inductive Place where
  | lastSegment
  /-- The segment behind a word. -/
  | behind (word : Text)
  /-- The value of a name in the query, unless it is empty. -/
  | queryValue (name : Text)
  deriving DecidableEq

def Place.read? (u : PostingUrl) : Place → Option Text
  | .lastSegment => u.lastSegment?
  | .behind word => u.segmentAfter? word
  | .queryValue name => Text.given (u.queryValue? name)

/-- The text at the first of some places that has one. -/
def Place.readFirst? (u : PostingUrl) (places : List Place) : Option Text := places.findSome? (Place.read? u)

/-- Which texts count as identifiers. -/
inductive Shape where
  | anything
  /-- At least six digits. -/
  | number
  /-- At least six letters, digits, points, underscores and hyphens. -/
  | code
  /-- Anything but a word that says nothing. -/
  | notPathWord
  deriving DecidableEq

/-- The least length of an identifier that has to look like one. -/
def Shape.minLength : Nat := 6

def Shape.isCodeChar (c : Char) : Bool := Text.isLetter c || Text.isDigit c || c = '.' || c = '_' || c = '-'

def Shape.accepts : Shape → Text → Bool
  | .anything, _ => true
  | .number, t => minLength ≤ t.length && t.all Text.isDigit
  | .code, t => minLength ≤ t.length && t.all isCodeChar
  | .notPathWord, t => !isPathWord t

/-! ## Rules -/

/-- How a layout names the employer. -/
inductive EmployerRule where
  | nowhere
  /-- Behind the first of these words. -/
  | behind (words : List Text)
  /-- By the first label of the host. -/
  | firstLabel
  /-- By the first label of the host, unless it is the provider's own. -/
  | firstLabelUnless (own : Text)
  /-- By the first label of a host that has this text in it. -/
  | firstLabelWhere (domain : Text)
  /-- By the host without this text. -/
  | hostWithout (domain : Text)
  deriving DecidableEq

/-- The name of the employer; empty if there is none. -/
def EmployerRule.read (u : PostingUrl) : EmployerRule → Text
  | .nowhere => []
  | .behind words => (words.findSome? u.segmentAfter?).getD []
  | .firstLabel => u.firstLabel
  | .firstLabelUnless own => if u.firstLabel = own then [] else u.firstLabel
  | .firstLabelWhere domain => if Text.containsText domain u.host then u.firstLabel else []
  | .hostWithout domain => Text.removeFirst domain u.host

/-- How a layout finds the identifier. -/
inductive IdRule where
  /-- The text at the first of these places, if it has this shape. -/
  | text (places : List Place) (shape : Shape)
  /-- The fingerprint of the text at the first of these places. -/
  | slug (places : List Place)
  /-- The same; this text takes the place of a missing one. -/
  | slugOr (places : List Place) (missing : Text)
  /-- The number in front of the last segment, or the whole segment if it looks like a code. -/
  | numberedSlug
  deriving DecidableEq

/-- The digits in front of a hyphen or of the end. -/
def leadingNumber? (t : Text) : Option Text :=
  let digits := t.takeWhile Text.isDigit
  match t.dropWhile Text.isDigit with
  | [] => Text.nonEmpty? digits
  | c :: _ => if c = '-' then Text.nonEmpty? digits else none

/-- The identifier of a numbered slug. -/
def numberedSlugId? (segment : Text) : Option Text :=
  match leadingNumber? segment with
  | some digits => some digits
  | none => if Shape.code.accepts segment && !isPathWord segment then some segment else none

def IdRule.read (u : PostingUrl) : IdRule → Text
  | .text places shape => ((Place.readFirst? u places).filter shape.accepts).getD u.pageFingerprint
  | .slug places => ((Place.readFirst? u places).map fingerprint).getD u.pageFingerprint
  | .slugOr places missing => fingerprint ((Place.readFirst? u places).getD missing)
  | .numberedSlug => (numberedSlugId? (u.lastSegment?.getD [])).getD u.pageFingerprint

/-! ## Layouts -/

/-- How the URLs of a provider are arranged. -/
structure Layout where
  provider : Text
  employer : EmployerRule
  /-- Whether the employer's name also names its part of the provider. -/
  hasTenants : Bool
  id : IdRule
  deriving DecidableEq

/-- What a layout says about a URL. -/
def Layout.extract (l : Layout) (u : PostingUrl) : Extraction :=
  let employer := Text.nonEmpty? (l.employer.read u)
  { Extraction.empty with
    provider := some l.provider
    tenant := if l.hasTenants then employer else none
    externalId := some (l.id.read u)
    hiringCompany := employer }

end JobPosting

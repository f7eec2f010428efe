import JobPosting.Posting.Url
import JobPosting.Text.Blank
import JobPosting.Text.Lowercase

/-!
# Referral sources

Where a posting was found is told by some well-known query values: a name, a domain or a URL of the site that referred
to it.

* `Referral.sourceOf?` : the name that such a value stands for.
* `Referral.ofUrl?` : the source that a posting URL names.
-/

namespace JobPosting.Referral

def urlBeginnings : List Text := ["http://", "https://"]

/-- The site that a value means: the host if the value is a URL, else the value itself. -/
def site (value : Text) : Text :=
  if urlBeginnings.any (·.isPrefixOf value) then
    match Url.read value with
    | .ok (some u) => u.host
    | _ => value
  else value

/-- The name that a value stands for: the first label of the site, in its usual spelling. -/
def sourceOf? (value : Text) : Option Text :=
  (Text.nonEmpty? (HostName.firstLabel (HostName.withoutWww (site (Text.lowercase (Text.trim value)))))).map
    fun name => (sourceName? name).getD name

/-- The first source that a posting URL names. -/
def ofUrl? (u : PostingUrl) : Option Text :=
  Vocabulary.referralKeys.findSome? fun key => (Text.given (u.queryValue? key)).bind sourceOf?

end JobPosting.Referral

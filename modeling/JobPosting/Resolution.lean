import JobPosting.Agency
import JobPosting.Extraction
import JobPosting.Posting.Url
import JobPosting.Record
import JobPosting.Text.Lowercase

/-!
# Resolution

The final record of a posting, from what the layout of its provider says and from what its URL says by itself.

* `Resolution.Context` : the URL, the referral source and the agency behind the host.
* `Resolution.matched` : the record when the provider is known.
* `Resolution.unmatched` : the record of a posting on a site nothing is known about.
-/

namespace JobPosting.Resolution

/-- What is known about a posting besides the layout of its provider. -/
structure Context where
  url : PostingUrl
  referral : Option Text
  agency : Option Agency

namespace Context

def hostCompany (c : Context) : Option Text := Text.nonEmpty? (HostName.company c.url.host)

/-- The employer that the host names; an agency is not the employer. -/
def hostEmployer (c : Context) : Option Text :=
  match c.agency with
  | some _ => none
  | none => c.hostCompany

def agencyName (c : Context) : Option Text := c.agency.map Agency.name

end Context

/-- Where a posting was found: at the referral source, else on the employer's own site if the provider works in the
background, else at the provider. -/
def foundOn (referral : Option Text) (provider : Text) : Text :=
  referral.getD (if isTrackingSystem provider then ownSite else provider)

/-- The tenant: only applicant-tracking systems have one that is not given. -/
def tenant (c : Context) (x : Extraction) (provider : Text) : Text :=
  match x.givenTenant with
  | some t => t
  | none => if isTrackingSystem provider then (x.givenHiringCompany.or c.hostCompany).getD [] else []

/-- The record of a posting whose provider is known. -/
def matched (c : Context) (x : Extraction) : Record :=
  let provider := (x.givenProvider.map Text.lowercase).getD ownSite
  { foundOn := foundOn c.referral provider
    provider := provider
    tenant := tenant c x provider
    externalId := (x.givenId.or (c.url.lastSegment?.filter (!isPathWord ·))).getD c.url.pageFingerprint
    hiringCompany := x.givenHiringCompany.or c.hostEmployer
    postingCompany := x.givenPostingCompany.or c.agencyName
    title := x.givenTitle }

/-- The record of a posting on a site nothing is known about. -/
def unmatched (c : Context) : Record where
  foundOn := c.referral.getD ownSite
  provider := (Text.nonEmpty? (HostName.provider c.url.host)).getD ownSite
  tenant := []
  externalId :=
    ((c.url.segmentAfter? "job").or (c.url.lastSegment?.filter (!isStopWord ·))).getD c.url.pageFingerprint
  hiringCompany := c.hostEmployer
  postingCompany := c.agencyName
  title := none

end JobPosting.Resolution

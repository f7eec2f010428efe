import JobPosting.Text

/-!
# Extractions

What could be read off a URL by the layout of its provider. Every field may be missing, and an empty text counts as
missing; `Resolution` fills the gaps.
-/

namespace JobPosting

/-- What the layout of a provider says about a posting. -/
structure Extraction where
  provider : Option Text
  tenant : Option Text
  externalId : Option Text
  hiringCompany : Option Text
  postingCompany : Option Text
  title : Option Text
  foundOn : Option Text
  deriving DecidableEq, Inhabited

namespace Extraction

/-- The extraction that says nothing. -/
def empty : Extraction := ⟨none, none, none, none, none, none, none⟩

/-- The provider, which may also be named as the place where the posting was found. -/
def givenProvider (x : Extraction) : Option Text := (Text.given x.provider).or (Text.given x.foundOn)

def givenTenant (x : Extraction) : Option Text := Text.given x.tenant

def givenHiringCompany (x : Extraction) : Option Text := Text.given x.hiringCompany

def givenPostingCompany (x : Extraction) : Option Text := Text.given x.postingCompany

def givenId (x : Extraction) : Option Text := Text.given x.externalId

def givenTitle (x : Extraction) : Option Text := Text.given x.title

end Extraction

end JobPosting

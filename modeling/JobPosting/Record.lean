import JobPosting.Json

/-!
# Records

What is known about a posting in the end, and how it is written.

* `Record` : the record of a posting.
* `Record.toJson` : its fields, and once more some of them under the names they had earlier.
* `Record.answer` : a record that may be missing; nothing is known then, and the object is empty.
-/

namespace JobPosting

/-- What has been deduced about a posting. -/
structure Record where
  /-- The channel on which the posting was found. -/
  foundOn : Text
  /-- The board or applicant-tracking system that shows the posting. -/
  provider : Text
  /-- The name of the employer's part of the provider; empty if there is none. -/
  tenant : Text
  /-- What identifies the posting. -/
  externalId : Text
  hiringCompany : Option Text
  postingCompany : Option Text
  title : Option Text
  deriving DecidableEq, Inhabited

namespace Record

def fields (r : Record) : List (Text × Json) :=
  [Json.textField "foundOn" r.foundOn, Json.textField "provider" r.provider,
    Json.textField "providerTenant" r.tenant, Json.textField "externalId" r.externalId] ++
    Json.textField? "hiringCompanyName" r.hiringCompany ++
    Json.textField? "postingCompanyName" r.postingCompany ++
    Json.textField? "title" r.title

/-- The names that some fields had earlier, with the same values. -/
def aliases (r : Record) : List (Text × Json) :=
  Json.textField "source" r.foundOn :: Json.textField? "company" r.hiringCompany ++
    Json.textField? "talentAgency" r.postingCompany

/-- A record with its present and its earlier names. -/
def toJson (r : Record) : Json := .object (r.fields ++ r.aliases)

/-- The object of a record that may be missing. -/
def answer : Option Record → Json
  | some r => r.toJson
  | none => .object []

end Record

end JobPosting

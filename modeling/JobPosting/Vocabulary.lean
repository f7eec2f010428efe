import JobPosting.Text

/-!
# Vocabulary

The words that the library knows: applicant-tracking systems, staffing agencies, words about jobs that say nothing
about who hires, public suffixes of two labels, and the spellings of referral sources.
-/

namespace JobPosting

namespace Vocabulary

/-- Applicant-tracking systems, as opposed to job boards. -/
def trackingSystems : List Text :=
  ["workday", "greenhouse", "lever", "personio", "smartrecruiters", "teamtailor", "workable", "jazzhr", "ashby",
    "recruitee", "bamboohr", "icims", "jobvite", "breezyhr", "comeet", "pinpoint", "join"]

def agencyDomains : List Text :=
  ["adecco.com", "randstad.com", "manpowergroup.com", "hays.com", "tietalent.com", "aerotek.com",
    "pagepersonnel.com", "michaelpage.com", "robertwalters.com", "kornferry.com", "reedglobal.com",
    "alfredtalke.com"]

/-- Host labels about jobs and careers, in English, German, French and Polish. -/
def jobLabels : List Text :=
  ["job", "jobs", "career", "careers", "karriere", "stellen", "stellenangebote", "arbeit", "emploi", "carriere",
    "carrieres", "praca", "kariera", "oferty", "ofertapracy", "ofertypracy", "oferta"]

def doubleSuffixes : List (Text × Text) :=
  [("co", "uk"), ("com", "au"), ("com", "br"), ("co", "nz"), ("com", "sg"), ("com", "tr"), ("com", "mx"),
    ("co", "jp"), ("co", "kr"), ("com", "cn"), ("com", "hk"), ("com", "tw"), ("com", "pl")]

/-- Path words that are no identifier of a posting. -/
def pathWords : List Text :=
  ["jobs", "job", "position", "career", "careers", "vacancies", "vacancy", "listing", "listings", "apply"]

/-- Path words that are no identifier on a site nothing is known about. -/
def stopWords : List Text := ["job", "jobs", "position", "positions", "career", "careers"]

/-- Names of query values that may tell where a posting was found, the most telling first. -/
def referralKeys : List Text := ["source", "src", "utm_source", "ref", "referrer"]

/-- Spellings of referral sources, each with the name it stands for. -/
def sourceSpellings : List (Text × Text) :=
  [("li", "linkedin"), ("lnkd", "linkedin"), ("linkedin", "linkedin"),
    ("angellist", "wellfound"), ("angel", "wellfound"), ("angelco", "wellfound"), ("wellfound", "wellfound"),
    ("cvlibrary", "cv-library"), ("cv-library", "cv-library"),
    ("stackoverflowjobs", "stackoverflow"), ("stack-overflow", "stackoverflow"), ("stackoverflow", "stackoverflow"),
    ("wwr", "weworkremotely"), ("weworkremotely", "weworkremotely"),
    ("arbeitnow", "arbeitnow"), ("stepstone", "stepstone"), ("indeed", "indeed"), ("xing", "xing"),
    ("ziprecruiter", "ziprecruiter"), ("glassdoor", "glassdoor"), ("monster", "monster"),
    ("totaljobs", "totaljobs"), ("nofluffjobs", "nofluffjobs"), ("pracuj", "pracuj")]

/-- Whether a word stands in a list, whatever the case of its letters. -/
def listed (words : List Text) (word : Text) : Bool := words.any fun w => Text.SameLetters w word

end Vocabulary

def isTrackingSystem (name : Text) : Bool := Vocabulary.trackingSystems.contains name

/-- Whether a host label is only a word about jobs. -/
def isJobLabel (label : Text) : Bool := Vocabulary.listed Vocabulary.jobLabels label

/-- Whether a path segment is no identifier. -/
def isPathWord (segment : Text) : Bool := Vocabulary.listed Vocabulary.pathWords segment

/-- Whether a path segment is no identifier on a site nothing is known about. -/
def isStopWord (segment : Text) : Bool := Vocabulary.listed Vocabulary.stopWords segment

def isDoubleSuffix (second top : Text) : Bool := Vocabulary.doubleSuffixes.contains (second, top)

/-- The name that a spelling of a referral source stands for. -/
def sourceName? (spelling : Text) : Option Text := Vocabulary.sourceSpellings.lookup spelling

end JobPosting

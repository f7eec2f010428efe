import JobPosting.Provider.Registry

/-!
# Known providers

The boards and applicant-tracking systems that are known, with their hosts and layouts. No host belongs to two of them.
-/

namespace JobPosting

/-- The known providers as data: their hosts and their layouts. -/
def knownLayouts : List (List HostMatcher × Layout) :=
  [
    ([.within "weworkremotely.com"],
      ⟨"weworkremotely", .nowhere, false, .slug [.lastSegment]⟩),
    ([.within "dynamitejobs.com"],
      ⟨"dynamitejobs", .behind ["company"], false, .slugOr [.behind "remote-job", .lastSegment] "dynamitejobs"⟩),
    ([.within "linkedin.com"],
      ⟨"linkedin", .nowhere, false, .text [.behind "view", .lastSegment] .number⟩),
    ([.within "wellfound.com", .within "angel.co"],
      ⟨"wellfound", .behind ["company"], false, .slug [.behind "jobs", .lastSegment]⟩),
    ([.within "join.com"],
      ⟨"join", .behind ["companies"], true, .numberedSlug⟩),
    ([.within "remotive.com"],
      ⟨"remotive", .nowhere, false, .slug [.behind "remote-jobs", .lastSegment]⟩),
    ([.within "ziprecruiter.com"],
      ⟨"ziprecruiter", .nowhere, false, .text [.lastSegment] .notPathWord⟩),
    ([.within "indeed.com", .within "indeed.co.uk", .within "indeed.de", .within "indeed.fr",
      .within "indeed.nl", .within "indeed.es", .within "indeed.it", .within "indeed.ie",
      .within "indeed.ca"],
      ⟨"indeed", .nowhere, false, .text [.queryValue "jk", .queryValue "vjk", .lastSegment] .anything⟩),
    ([.within "stepstone.de", .within "stepstone.fr", .within "stepstone.nl",
      .within "stepstone.co.uk", .within "stepstone.com"],
      ⟨"stepstone", .nowhere, false, .text [.lastSegment] .code⟩),
    ([.within "xing.com"],
      ⟨"xing", .nowhere, false, .slug [.behind "jobs", .lastSegment]⟩),
    ([.within "glassdoor.com", .within "glassdoor.de", .within "glassdoor.co.uk",
      .within "glassdoor.fr"],
      ⟨"glassdoor", .nowhere, false, .text [.behind "job", .lastSegment] .code⟩),
    ([.within "monster.com", .within "monster.de", .within "monster.co.uk", .within "monster.fr",
      .within "monster.it"],
      ⟨"monster", .nowhere, false, .text [.lastSegment] .code⟩),
    ([.below "myworkdayjobs.com"],
      ⟨"workday", .firstLabel, true, .text [.lastSegment] .notPathWord⟩),
    ([.within "boards.greenhouse.io", .within "greenhouse.io"],
      ⟨"greenhouse", .behind ["boards"], true, .text [.behind "jobs", .lastSegment] .number⟩),
    ([.below "lever.co"],
      ⟨"lever", .hostWithout ".lever.co", true, .text [.behind "jobs", .lastSegment] .anything⟩),
    ([.below "jobs.personio.de", .below "jobs.personio.com"],
      ⟨"personio", .firstLabel, true, .text [.lastSegment] .code⟩),
    ([.only "careers.smartrecruiters.com", .only "jobs.smartrecruiters.com"],
      ⟨"smartrecruiters", .behind ["SmartRecruiters", "company"], true, .text [.behind "job", .lastSegment] .anything⟩),
    ([.below "teamtailor.com"],
      ⟨"teamtailor", .firstLabel, true, .text [.lastSegment] .anything⟩),
    ([.below "applytojob.com", .below "workable.com"],
      ⟨"workable", .firstLabelWhere ".workable.com", true, .text [.lastSegment] .anything⟩),
    ([.below "jazz.co"],
      ⟨"jazzhr", .firstLabel, true, .text [.lastSegment] .anything⟩),
    ([.below "ashbyhq.com"],
      ⟨"ashby", .firstLabel, true, .text [.lastSegment] .anything⟩),
    ([.below "recruitee.com"],
      ⟨"recruitee", .firstLabel, true, .text [.lastSegment] .anything⟩),
    ([.below "bamboohr.com"],
      ⟨"bamboohr", .firstLabel, true, .text [.lastSegment] .anything⟩),
    ([.within "careers.icims.com", .within "icims.com"],
      ⟨"icims", .nowhere, false, .text [.behind "jobs", .lastSegment] .anything⟩),
    ([.below "jobvite.com"],
      ⟨"jobvite", .firstLabelUnless "jobvite", true, .text [.lastSegment] .anything⟩),
    ([.below "breezy.hr"],
      ⟨"breezyhr", .firstLabel, true, .text [.lastSegment] .anything⟩),
    ([.below "comeet.co"],
      ⟨"comeet", .firstLabel, true, .text [.lastSegment] .anything⟩),
    ([.below "pinpoint.jobs"],
      ⟨"pinpoint", .firstLabel, true, .text [.lastSegment] .anything⟩),
    ([.within "reed.co.uk"],
      ⟨"reed", .nowhere, false, .text [.lastSegment] .anything⟩),
    ([.within "totaljobs.com", .within "totaljobs.com.au", .within "cwjobs.co.uk"],
      ⟨"totaljobs", .nowhere, false, .text [.lastSegment] .anything⟩),
    ([.within "cv-library.co.uk"],
      ⟨"cv-library", .nowhere, false, .text [.lastSegment] .anything⟩),
    ([.within "nofluffjobs.com"],
      ⟨"nofluffjobs", .nowhere, false, .text [.lastSegment] .anything⟩),
    ([.within "pracuj.pl"],
      ⟨"pracuj", .nowhere, false, .text [.lastSegment] .anything⟩)
  ]

def knownProviders : Registry := knownLayouts.map fun (hosts, layout) => Provider.ofLayout hosts layout

end JobPosting

import JobPosting.HostName

/-!
# Staffing agencies

A host at or below the domain of a staffing agency offers jobs for others. The agency is named by the first label of
its domain.
-/

namespace JobPosting

/-- A staffing agency, known by its domain. -/
structure Agency where
  domain : Text
  deriving DecidableEq

namespace Agency

def name (a : Agency) : Text := HostName.firstLabel a.domain

def ofHost? (host : Text) : Option Agency :=
  (Vocabulary.agencyDomains.find? fun domain => HostName.isWithin domain host).map Agency.mk

end Agency

end JobPosting

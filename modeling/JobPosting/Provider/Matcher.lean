import JobPosting.HostName
import JobPosting.Provider.Pattern

/-!
# Host matchers

The ways to recognize a host: one name, a domain with everything below it, or a pattern.

* `HostMatcher.recognizes` : whether a host is recognized.
* `HostMatcher.describe` : the short form in which matchers are listed.
-/

namespace JobPosting

/-- A way to recognize a host. -/
inductive HostMatcher where
  /-- This host only. -/
  | only (host : Text)
  /-- This domain, and every host below it. -/
  | within (domain : Text)
  /-- Every host in which the pattern is found. -/
  | pattern (p : Pattern)
  deriving DecidableEq

namespace HostMatcher

/-- Every host below a domain, but not the domain itself. -/
def below (domain : Text) : HostMatcher := .pattern (Pattern.below domain)

def recognizes (m : HostMatcher) (host : Text) : Bool :=
  match m with
  | .only h => host = h
  | .within domain => HostName.isWithin domain host
  | .pattern p => p.foundIn host

def describe : HostMatcher → Text
  | .only h => '=' :: h
  | .within domain => domain
  | .pattern p => '/' :: p.print ++ ['/']

end HostMatcher

end JobPosting

import JobPosting.Provider.Layout
import JobPosting.Provider.Matcher

/-!
# Registries

A registry lists providers with the hosts they are recognized by; the first provider that recognizes a host wins.

* `Provider` : a name, host matchers, and a way to read the provider's URLs.
* `Registry.find?` : the provider that a host belongs to.
* `Registry.listing` : name, kind and hosts of every provider.
-/

namespace JobPosting

structure Provider where
  name : Text
  hosts : List HostMatcher
  extract : PostingUrl → Extraction

namespace Provider

def ofLayout (hosts : List HostMatcher) (l : Layout) : Provider := ⟨l.provider, hosts, l.extract⟩

def recognizes (p : Provider) (host : Text) : Bool := p.hosts.any (·.recognizes host)

/-- Whether the provider is an applicant-tracking system rather than a board. -/
def isTracking (p : Provider) : Bool := isTrackingSystem p.name

end Provider

/-- Providers in the order in which they are asked. -/
abbrev Registry := List Provider

/-- What is listed about a provider. -/
structure Listing where
  name : Text
  kind : Text
  domains : List Text
  deriving DecidableEq

namespace Registry

/-- The first provider that recognizes a host. -/
def find? (r : Registry) (host : Text) : Option Provider := List.find? (·.recognizes host) r

def listing (r : Registry) : List Listing :=
  r.map fun p => ⟨p.name, if p.isTracking then "ats" else "board", p.hosts.map HostMatcher.describe⟩

def named? (r : Registry) (name : Text) : Option Provider := List.find? (fun p : Provider => p.name = name) r

end Registry

end JobPosting

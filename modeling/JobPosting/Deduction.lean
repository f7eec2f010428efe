import JobPosting.Provider.Known
import JobPosting.Referral
import JobPosting.Resolution

/-!
# Deduction

What a URL says about the posting it points at.

* `deduceWith` : the record of a posting URL, by a registry of providers.
* `deduce` : the record of a text; none if the text is no URL of the web.
-/

namespace JobPosting

/-- What is known about a posting URL before its provider is asked. -/
def Resolution.Context.ofUrl (u : PostingUrl) : Resolution.Context := ⟨u, Referral.ofUrl? u, Agency.ofHost? u.host⟩

/-- The record of a posting URL. -/
def deduceWith (registry : Registry) (u : PostingUrl) : Record :=
  match registry.find? u.host with
  | some p => Resolution.matched (.ofUrl u) (p.extract u)
  | none => Resolution.unmatched (.ofUrl u)

/-- The record of the posting that a text points at. -/
def deduce (t : Text) : Option Record := (PostingUrl.read? t).map (deduceWith knownProviders)

theorem deduce_of_read? {t : Text} {u : PostingUrl} (h : PostingUrl.read? t = some u) :
    deduce t = some (deduceWith knownProviders u) := by
  rw [deduce, h, Option.map_some]

end JobPosting

import JobPosting.Proofs.Filled

/-!
# Kinds of records

A record is one of three kinds, and the host of its URL tells which: it belongs to an applicant-tracking system, to a
board, or to no known provider. The kind tells where each field comes from.

* `TrackingRecord`, `BoardRecord`, `UnknownRecord` : the three kinds; the first two share `KnownRecord`.
* `Layout.known_of_extract`, `Layout.tracking_of_extract`, `Layout.board_of_extract` : what a layout says about a URL
  makes a record of its kind.
* `deduce_kinds` : the record of every posting URL is of the kind of its host.
-/

namespace JobPosting

/-! ## The three kinds -/

/-- What the records of all known providers have in common: the employer is known, and no agency posts. -/
structure KnownRecord (name : Text) (r : Record) : Prop where
  provider : r.provider = name
  hiringCompany : ∃ company, r.hiringCompany = some company ∧ company ≠ []
  postingCompany : r.postingCompany = none
  title : r.title = none

/-- The record of a posting that an applicant-tracking system shows: the system works in the background, so the posting
counts as found on the employer's own site. -/
structure TrackingRecord (u : PostingUrl) (name : Text) (r : Record) : Prop extends KnownRecord name r where
  foundOn : r.foundOn = (Referral.ofUrl? u).getD ownSite
  tenant : r.tenant ≠ []

/-- The record of a posting that a board shows: it has no tenant, and counts as found on the board. -/
structure BoardRecord (u : PostingUrl) (name : Text) (r : Record) : Prop extends KnownRecord name r where
  foundOn : r.foundOn = (Referral.ofUrl? u).getD name
  tenant : r.tenant = []

/-- A host is the domain of an agency, or lies below it. -/
def AgencyHost (domain host : Text) : Prop :=
  domain ∈ Vocabulary.agencyDomains ∧ (host = domain ∨ ∃ front, host = front ++ '.' :: domain)

/-- The record of a posting on an unknown site: an agency posts for an employer it does not tell, and every other host
that is not empty names the employer. -/
structure UnknownRecord (u : PostingUrl) (r : Record) : Prop where
  foundOn : r.foundOn = (Referral.ofUrl? u).getD ownSite
  tenant : r.tenant = []
  postingCompany : ∀ name, r.postingCompany = some name ↔
    ∃ domain, AgencyHost domain u.host ∧ name = Text.before '.' domain
  hiringCompany : r.hiringCompany = none ↔ (∃ domain, AgencyHost domain u.host) ∨ u.host = []
  title : r.title = none

/-! ## Facts about the tables -/

/-- Every known provider has a name in small letters. -/
theorem lowercase_knownLayouts : ∀ e ∈ knownLayouts,
    e.2.provider ≠ [] ∧ Text.lowercase e.2.provider = e.2.provider := by
  decide +kernel

/-- No board has tenants. -/
theorem hasTenants_knownLayouts : ∀ e ∈ knownLayouts,
    isTrackingSystem e.2.provider = false → e.2.hasTenants = false := by
  decide +kernel

/-! ## Fallbacks that never fail -/

namespace Text

theorem nonEmpty?_of_ne_nil {t : Text} (h : t ≠ []) : nonEmpty? t = some t := if_neg h

theorem Filled.or_some {a : Option Text} (ha : Filled a) {b : Text} (hb : b ≠ []) :
    ∃ t, a.or (some b) = some t ∧ t ≠ [] := by
  cases a with
  | none => exact ⟨b, rfl, hb⟩
  | some t => exact ⟨t, rfl, ha t rfl⟩

end Text

namespace Resolution

variable {c : Context}

theorem Context.hostCompany_of_host (h : c.url.host ≠ []) :
    c.hostCompany = some (HostName.company c.url.host) :=
  Text.nonEmpty?_of_ne_nil (HostName.company_ne_nil h)

theorem Context.hostEmployer_of_host (ha : c.agency = none) (h : c.url.host ≠ []) :
    c.hostEmployer = some (HostName.company c.url.host) := by
  unfold hostEmployer
  rw [ha]
  exact hostCompany_of_host h

/-- An applicant-tracking system has a tenant on every host. -/
theorem tenant_ne_nil (h : c.url.host ≠ []) (x : Extraction) {provider : Text}
    (hp : isTrackingSystem provider = true) : tenant c x provider ≠ [] := by
  unfold tenant
  split
  · rename_i t ht
    exact Text.filled_given _ t ht
  · rw [if_pos hp, Context.hostCompany_of_host h]
    obtain ⟨t, ht, hne⟩ := (Text.filled_given x.hiringCompany).or_some (HostName.company_ne_nil h)
    rw [Extraction.givenHiringCompany, ht]
    exact hne

end Resolution

/-! ## Layouts -/

namespace Layout

open Resolution

variable {l : Layout} {u : PostingUrl} {c : Context}

theorem provider_matched (hname : l.provider ≠ []) (hsmall : Text.lowercase l.provider = l.provider) :
    (matched c (l.extract u)).provider = l.provider := by
  have hx : (l.extract u).givenProvider = some l.provider := by
    change (Text.nonEmpty? l.provider).or none = some l.provider
    rw [Text.nonEmpty?_of_ne_nil hname]
    rfl
  change ((l.extract u).givenProvider.map Text.lowercase).getD ownSite = l.provider
  rw [hx]
  exact hsmall

/-- A layout makes the record of a known provider of a host that no agency owns. -/
theorem known_of_extract (hname : l.provider ≠ []) (hsmall : Text.lowercase l.provider = l.provider)
    (ha : c.agency = none) (hhost : c.url.host ≠ []) : KnownRecord l.provider (matched c (l.extract u)) where
  provider := provider_matched hname hsmall
  hiringCompany := by
    change ∃ company, (l.extract u).givenHiringCompany.or c.hostEmployer = some company ∧ company ≠ []
    rw [Context.hostEmployer_of_host ha hhost]
    exact (Text.filled_given _).or_some (HostName.company_ne_nil hhost)
  postingCompany := by
    change (none : Option Text).or (c.agency.map Agency.name) = none
    rw [ha]
    rfl
  title := rfl

/-- The layout of an applicant-tracking system makes a tracking record. -/
theorem tracking_of_extract (h : KnownRecord l.provider (matched (.ofUrl u) (l.extract u)))
    (htracking : isTrackingSystem l.provider = true) (hhost : u.host ≠ []) :
    TrackingRecord u l.provider (matched (.ofUrl u) (l.extract u)) where
  toKnownRecord := h
  foundOn := by
    change foundOn _ (matched (.ofUrl u) (l.extract u)).provider = _
    rw [h.provider]
    unfold foundOn
    rw [if_pos htracking]
    rfl
  tenant := by
    change tenant _ _ (matched (.ofUrl u) (l.extract u)).provider ≠ []
    rw [h.provider]
    exact tenant_ne_nil hhost _ htracking

/-- The layout of a board makes a board record. -/
theorem board_of_extract (h : KnownRecord l.provider (matched (.ofUrl u) (l.extract u)))
    (hboard : isTrackingSystem l.provider = false) (hten : l.hasTenants = false) :
    BoardRecord u l.provider (matched (.ofUrl u) (l.extract u)) where
  toKnownRecord := h
  foundOn := by
    change foundOn _ (matched (.ofUrl u) (l.extract u)).provider = _
    rw [h.provider]
    unfold foundOn
    rw [hboard]
    rfl
  tenant := by
    have hx : (l.extract u).givenTenant = none := by
      change Text.given (if l.hasTenants then _ else none) = none
      rw [hten]
      rfl
    change tenant _ _ (matched (.ofUrl u) (l.extract u)).provider = []
    rw [h.provider]
    unfold tenant
    rw [hx, hboard]
    rfl

end Layout

/-! ## Unknown sites -/

/-- An agency is found exactly for the hosts at or below its domain. -/
theorem agencyHost_iff {domain host : Text} : AgencyHost domain host ↔ Agency.ofHost? host = some ⟨domain⟩ := by
  rw [ofHost?_eq_some_iff, HostName.isWithin_iff]
  rfl

theorem hostEmployer_eq_none_iff {u : PostingUrl} :
    (Resolution.Context.ofUrl u).hostEmployer = none ↔ (∃ domain, AgencyHost domain u.host) ∨ u.host = [] := by
  cases ha : Agency.ofHost? u.host with
  | some a =>
    have hno : (Resolution.Context.ofUrl u).hostEmployer = none := by
      unfold Resolution.Context.hostEmployer Resolution.Context.ofUrl
      rw [ha]
    exact iff_of_true hno (.inl ⟨a.domain, agencyHost_iff.2 ha⟩)
  | none =>
    have hnone : ¬∃ domain, AgencyHost domain u.host := by
      rintro ⟨domain, hd⟩
      rw [agencyHost_iff, ha] at hd
      cases hd
    by_cases hhost : u.host = []
    · refine iff_of_true ?_ (.inr hhost)
      unfold Resolution.Context.hostEmployer Resolution.Context.ofUrl Resolution.Context.hostCompany
      dsimp only
      rw [ha, hhost, HostName.company_nil]
      rfl
    · have hsome := Resolution.Context.hostEmployer_of_host (c := .ofUrl u) ha hhost
      refine iff_of_false ?_ (not_or.2 ⟨hnone, hhost⟩)
      rw [hsome]
      exact Option.some_ne_none _

theorem unknown_unmatched (u : PostingUrl) : UnknownRecord u (Resolution.unmatched (.ofUrl u)) where
  foundOn := rfl
  tenant := rfl
  postingCompany := by
    intro name
    change (Agency.ofHost? u.host).map Agency.name = some name ↔ _
    rw [Option.map_eq_some_iff]
    constructor
    · rintro ⟨a, ha, rfl⟩
      exact ⟨a.domain, agencyHost_iff.2 ha, rfl⟩
    · rintro ⟨domain, hd, rfl⟩
      exact ⟨⟨domain⟩, agencyHost_iff.1 hd, rfl⟩
  hiringCompany := hostEmployer_eq_none_iff
  title := rfl

/-! ## All posting URLs -/

/-- The record of a posting URL, if a known provider recognizes the host. -/
theorem deduceWith_of_recognizes {u : PostingUrl} {p : Provider} (hp : p ∈ knownProviders)
    (h : p.recognizes u.host = true) :
    deduceWith knownProviders u = Resolution.matched (.ofUrl u) (p.extract u) := by
  unfold deduceWith
  rw [find?_knownProviders hp h]

/-- The record of a posting URL, if no known provider recognizes the host. -/
theorem deduceWith_of_not_recognizes {u : PostingUrl} (h : ∀ p ∈ knownProviders, p.recognizes u.host = false) :
    deduceWith knownProviders u = Resolution.unmatched (.ofUrl u) := by
  have hfind : Registry.find? knownProviders u.host = none := by
    apply List.find?_eq_none.2
    intro p hp
    rw [h p hp]
    exact Bool.false_ne_true
  unfold deduceWith
  rw [hfind]

/-- A host that a known provider recognizes is not empty, and no agency posts on it. -/
theorem known_of_recognizes {u : PostingUrl} {e : List HostMatcher × Layout} (he : e ∈ knownLayouts)
    (h : (Provider.ofLayout e.1 e.2).recognizes u.host = true) :
    u.host ≠ [] ∧ KnownRecord e.2.provider (Resolution.matched (.ofUrl u) (e.2.extract u)) := by
  have hp : Provider.ofLayout e.1 e.2 ∈ knownProviders := List.mem_map.2 ⟨e, he, rfl⟩
  have hhost : u.host ≠ [] := by
    intro hnil
    rw [hnil, not_recognizes_nil _ hp] at h
    cases h
  obtain ⟨hname, hsmall⟩ := lowercase_knownLayouts e he
  exact ⟨hhost, Layout.known_of_extract hname hsmall (ofHost?_of_recognizes hp h) hhost⟩

/-- The record of a posting URL is of the kind of its host, and carries the name of the provider that recognizes the
host, whichever it is. -/
theorem deduce_kinds {t : Text} {u : PostingUrl} (h : PostingUrl.read? t = some u) :
    ∃ r, deduce t = some r ∧
      (∀ p ∈ knownProviders, p.recognizes u.host = true → p.isTracking = true → TrackingRecord u p.name r) ∧
      (∀ p ∈ knownProviders, p.recognizes u.host = true → p.isTracking = false → BoardRecord u p.name r) ∧
      ((∀ p ∈ knownProviders, p.recognizes u.host = false) → UnknownRecord u r) := by
  refine ⟨_, deduce_of_read? h, ?_, ?_, ?_⟩
  · intro p hp hr htracking
    rw [deduceWith_of_recognizes hp hr]
    obtain ⟨e, he, rfl⟩ := List.mem_map.1 hp
    obtain ⟨hhost, hknown⟩ := known_of_recognizes he hr
    exact Layout.tracking_of_extract hknown htracking hhost
  · intro p hp hr hboard
    rw [deduceWith_of_recognizes hp hr]
    obtain ⟨e, he, rfl⟩ := List.mem_map.1 hp
    obtain ⟨-, hknown⟩ := known_of_recognizes he hr
    exact Layout.board_of_extract hknown hboard (hasTenants_knownLayouts e he hboard)
  · intro hnone
    have hfind : Registry.find? knownProviders u.host = none := by
      refine List.find?_eq_none.2 fun p hp => ?_
      rw [hnone p hp]
      exact Bool.false_ne_true
    unfold deduceWith
    rw [hfind]
    exact unknown_unmatched u

/-- A job at an applicant-tracking system, one on a board, and one at an agency. -/
theorem deduce_kinds_lever_xing_hays :
    (∃ r, deduce "https://acme.lever.co/x" = some r ∧
      TrackingRecord ⟨"acme.lever.co", ["x"], [], "https://acme.lever.co/x"⟩ "lever" r) ∧
    (∃ r, deduce "https://xing.com/jobs" = some r ∧
      BoardRecord ⟨"xing.com", ["jobs"], [], "https://xing.com/jobs"⟩ "xing" r) ∧
    ∃ r, deduce "https://uk.hays.com/" = some r ∧
      UnknownRecord ⟨"uk.hays.com", [], [], "https://uk.hays.com/"⟩ r := by
  refine ⟨?_, ?_, ?_⟩
  · have hread : PostingUrl.read? "https://acme.lever.co/x" =
        some ⟨"acme.lever.co", ["x"], [], "https://acme.lever.co/x"⟩ := by decide +kernel
    have hlever : ∃ p ∈ knownProviders,
        p.recognizes "acme.lever.co" = true ∧ p.isTracking = true ∧ p.name = "lever" := by decide +kernel
    obtain ⟨p, hp, hr, htracking, hname⟩ := hlever
    obtain ⟨r, hd, hkind, -⟩ := deduce_kinds hread
    exact ⟨r, hd, hname ▸ hkind p hp hr htracking⟩
  · have hread : PostingUrl.read? "https://xing.com/jobs" =
        some ⟨"xing.com", ["jobs"], [], "https://xing.com/jobs"⟩ := by decide +kernel
    have hxing : ∃ p ∈ knownProviders,
        p.recognizes "xing.com" = true ∧ p.isTracking = false ∧ p.name = "xing" := by decide +kernel
    obtain ⟨p, hp, hr, hboard, hname⟩ := hxing
    obtain ⟨r, hd, -, hkind, -⟩ := deduce_kinds hread
    exact ⟨r, hd, hname ▸ hkind p hp hr hboard⟩
  · have hread : PostingUrl.read? "https://uk.hays.com/" =
        some ⟨"uk.hays.com", [], [], "https://uk.hays.com/"⟩ := by decide +kernel
    have hhays : ∀ p ∈ knownProviders, p.recognizes "uk.hays.com" = false := by decide +kernel
    obtain ⟨r, hd, -, -, hkind⟩ := deduce_kinds hread
    exact ⟨r, hd, hkind hhays⟩

end JobPosting

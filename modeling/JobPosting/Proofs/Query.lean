import JobPosting.Deduction

/-!
# What the query says

Two URLs of one page that differ in nothing but the query point at the same posting. The query tells where the posting
was found, and one provider, `indeed`, also keeps the identifier of the posting in it.

* `PostingUrl.SamePage` : two URLs differ in nothing but the query.
* `Place.queryNames`, `IdRule.queryNames` : the names whose values a rule reads; it gives the same result for URLs of
  one page that agree on them (`IdRule.read_congr`).
* `Record.SamePosting` : two records agree in everything but the identifier and where the posting was found.
* `SameIndeedKeys` : two URLs agree on the identifiers that `indeed` keeps in the query.
* `deduce_samePage` : what the records of two URLs of one page have in common.
-/

namespace JobPosting

/-! ## URLs of one page -/

namespace PostingUrl

/-- Two URLs that differ in nothing but the query. -/
structure SamePage (u v : PostingUrl) : Prop where
  host : u.host = v.host
  segments : u.segments = v.segments
  href : u.hrefWithoutQuery = v.hrefWithoutQuery

variable {u v : PostingUrl}

theorem SamePage.lastSegment? (h : u.SamePage v) : u.lastSegment? = v.lastSegment? := by
  unfold PostingUrl.lastSegment?
  rw [h.segments]

theorem SamePage.segmentAfter? (h : u.SamePage v) (token : Text) : u.segmentAfter? token = v.segmentAfter? token := by
  unfold PostingUrl.segmentAfter?
  rw [h.segments]

theorem SamePage.firstLabel (h : u.SamePage v) : u.firstLabel = v.firstLabel := by
  unfold PostingUrl.firstLabel
  rw [h.host]

theorem SamePage.pageFingerprint (h : u.SamePage v) : u.pageFingerprint = v.pageFingerprint := by
  unfold PostingUrl.pageFingerprint
  rw [h.href]

end PostingUrl

theorem findSome?_congr {α β : Type} {f g : α → Option β} {l : List α} (h : ∀ a ∈ l, f a = g a) :
    l.findSome? f = l.findSome? g := by
  induction l with
  | nil => rfl
  | cons a l ih =>
    rw [List.findSome?_cons, List.findSome?_cons, h a List.mem_cons_self,
      ih fun b hb => h b (List.mem_cons_of_mem a hb)]

/-! ## Rules -/

/-- The names whose values in the query a place reads. -/
def Place.queryNames : Place → List Text
  | .lastSegment => []
  | .behind _ => []
  | .queryValue name => [name]

/-- The names whose values in the query an identifier depends on. -/
def IdRule.queryNames : IdRule → List Text
  | .text places _ => places.flatMap Place.queryNames
  | .slug places => places.flatMap Place.queryNames
  | .slugOr places _ => places.flatMap Place.queryNames
  | .numberedSlug => []

section
variable {u v : PostingUrl}

theorem Place.read?_congr (h : u.SamePage v) {p : Place}
    (hq : ∀ name ∈ p.queryNames, u.queryValue? name = v.queryValue? name) : p.read? u = p.read? v := by
  cases p with
  | lastSegment => exact h.lastSegment?
  | behind word => exact h.segmentAfter? word
  | queryValue name =>
    change Text.given (u.queryValue? name) = Text.given (v.queryValue? name)
    rw [hq name List.mem_cons_self]

theorem Place.readFirst?_congr (h : u.SamePage v) {places : List Place}
    (hq : ∀ name ∈ places.flatMap Place.queryNames, u.queryValue? name = v.queryValue? name) :
    Place.readFirst? u places = Place.readFirst? v places :=
  findSome?_congr fun p hp => Place.read?_congr h fun name hn => hq name (List.mem_flatMap.2 ⟨p, hp, hn⟩)

/-- URLs of one page name the same employer. -/
theorem EmployerRule.read_congr (h : u.SamePage v) (rule : EmployerRule) : rule.read u = rule.read v := by
  cases rule with
  | nowhere => rfl
  | behind words =>
    change (words.findSome? u.segmentAfter?).getD [] = (words.findSome? v.segmentAfter?).getD []
    rw [findSome?_congr fun word _ => h.segmentAfter? word]
  | firstLabel => exact h.firstLabel
  | firstLabelUnless own =>
    dsimp only [EmployerRule.read]
    rw [h.firstLabel]
  | firstLabelWhere domain =>
    dsimp only [EmployerRule.read]
    rw [h.firstLabel, h.host]
  | hostWithout domain =>
    dsimp only [EmployerRule.read]
    rw [h.host]

/-- URLs of one page that agree on the values that a rule reads have the same identifier. -/
theorem IdRule.read_congr (h : u.SamePage v) {rule : IdRule}
    (hq : ∀ name ∈ rule.queryNames, u.queryValue? name = v.queryValue? name) : rule.read u = rule.read v := by
  cases rule with
  | text places shape =>
    dsimp only [IdRule.read]
    rw [Place.readFirst?_congr h hq, h.pageFingerprint]
  | slug places =>
    dsimp only [IdRule.read]
    rw [Place.readFirst?_congr h hq, h.pageFingerprint]
  | slugOr places missing =>
    dsimp only [IdRule.read]
    rw [Place.readFirst?_congr h hq]
  | numberedSlug =>
    dsimp only [IdRule.read]
    rw [h.lastSegment?, h.pageFingerprint]

/-- Whatever the query says, a layout says the same about URLs of one page, apart from the identifier. -/
theorem Layout.extract_samePage (h : u.SamePage v) (l : Layout) :
    l.extract u = { l.extract v with externalId := some (l.id.read u) } := by
  unfold Layout.extract
  rw [EmployerRule.read_congr h]

end

/-! ## Records -/

/-- Two records that agree in everything but the identifier and where the posting was found. -/
structure Record.SamePosting (a b : Record) : Prop where
  provider : a.provider = b.provider
  tenant : a.tenant = b.tenant
  hiringCompany : a.hiringCompany = b.hiringCompany
  postingCompany : a.postingCompany = b.postingCompany
  title : a.title = b.title

theorem Record.SamePosting.eq {a b : Record} (h : a.SamePosting b) (hf : a.foundOn = b.foundOn)
    (hid : a.externalId = b.externalId) : a = b := by
  obtain ⟨hp, ht, hh, hc, htitle⟩ := h
  cases a
  cases b
  simp_all

namespace Resolution

/-- Two contexts of one page and the same agency; the referral sources may differ. -/
structure Context.SamePage (c d : Context) : Prop where
  url : c.url.SamePage d.url
  agency : c.agency = d.agency

theorem Context.samePage_ofUrl {u v : PostingUrl} (h : u.SamePage v) :
    (Context.ofUrl u).SamePage (Context.ofUrl v) where
  url := h
  agency := congrArg Agency.ofHost? h.host

variable {c d : Context}

theorem Context.SamePage.hostCompany (h : c.SamePage d) : c.hostCompany = d.hostCompany := by
  unfold Context.hostCompany
  rw [h.url.host]

theorem Context.SamePage.hostEmployer (h : c.SamePage d) : c.hostEmployer = d.hostEmployer := by
  unfold Context.hostEmployer
  rw [h.agency, h.hostCompany]

theorem Context.SamePage.agencyName (h : c.SamePage d) : c.agencyName = d.agencyName := by
  unfold Context.agencyName
  rw [h.agency]

/-- The identifier that the layout of the provider reads off plays no part in what the posting is. -/
theorem matched_samePosting (h : c.SamePage d) (x : Extraction) (id : Option Text) :
    (matched c { x with externalId := id }).SamePosting (matched d x) where
  provider := rfl
  tenant := by
    change tenant c _ (matched d x).provider = tenant d x (matched d x).provider
    unfold tenant
    rw [h.hostCompany]
    rfl
  hiringCompany := by
    change x.givenHiringCompany.or c.hostEmployer = x.givenHiringCompany.or d.hostEmployer
    rw [h.hostEmployer]
  postingCompany := by
    change x.givenPostingCompany.or c.agencyName = x.givenPostingCompany.or d.agencyName
    rw [h.agencyName]
  title := rfl

theorem matched_externalId (h : c.SamePage d) (x : Extraction) :
    (matched c x).externalId = (matched d x).externalId := by
  unfold matched
  dsimp only
  rw [h.url.lastSegment?, h.url.pageFingerprint]

theorem matched_foundOn (h : c.referral = d.referral) (x : Extraction) (id : Option Text) :
    (matched c { x with externalId := id }).foundOn = (matched d x).foundOn := by
  change foundOn c.referral (matched d x).provider = foundOn d.referral (matched d x).provider
  rw [h]

theorem unmatched_samePosting (h : c.SamePage d) : (unmatched c).SamePosting (unmatched d) where
  provider := by
    unfold unmatched
    rw [h.url.host]
  tenant := rfl
  hiringCompany := h.hostEmployer
  postingCompany := h.agencyName
  title := rfl

theorem unmatched_externalId (h : c.SamePage d) : (unmatched c).externalId = (unmatched d).externalId := by
  unfold unmatched
  dsimp only
  rw [h.url.segmentAfter?, h.url.lastSegment?, h.url.pageFingerprint]

theorem unmatched_foundOn (h : c.referral = d.referral) : (unmatched c).foundOn = (unmatched d).foundOn := by
  unfold unmatched
  rw [h]

end Resolution

/-! ## All known providers -/

/-- URLs that agree on the values that may tell where a posting was found have the same referral source. -/
theorem Referral.ofUrl?_congr {u v : PostingUrl}
    (hq : ∀ key ∈ Vocabulary.referralKeys, u.queryValue? key = v.queryValue? key) : ofUrl? u = ofUrl? v :=
  findSome?_congr fun key hk => by rw [hq key hk]

/-- Only one known provider has identifiers in the query. -/
theorem queryNames_knownLayouts : ∀ e ∈ knownLayouts, ∀ name ∈ e.2.id.queryNames,
    e.2.provider = "indeed" ∧ name ∈ (["jk", "vjk"] : List Text) := by
  decide +kernel

/-- On a host that `indeed` recognizes, two URLs agree on the values that may be the identifier. -/
def SameIndeedKeys (u v : PostingUrl) : Prop :=
  ∀ p ∈ knownProviders, p.name = "indeed" → p.recognizes u.host = true →
    ∀ name ∈ (["jk", "vjk"] : List Text), u.queryValue? name = v.queryValue? name

/-- The records of two URLs of one page agree in everything but where the posting was found and the identifier, in the
identifier too if the URLs agree on those that `indeed` keeps in the query, and in everything if they also have the same
referral source. -/
theorem deduceWith_samePage {u v : PostingUrl} (h : u.SamePage v) :
    (deduceWith knownProviders u).SamePosting (deduceWith knownProviders v) ∧
      (SameIndeedKeys u v →
        (deduceWith knownProviders u).externalId = (deduceWith knownProviders v).externalId) ∧
      (Referral.ofUrl? u = Referral.ofUrl? v →
        (deduceWith knownProviders u).foundOn = (deduceWith knownProviders v).foundOn) := by
  have hc := Resolution.Context.samePage_ofUrl h
  unfold deduceWith
  rw [← h.host]
  cases hfind : Registry.find? knownProviders u.host with
  | none =>
    exact ⟨Resolution.unmatched_samePosting hc, fun _ => Resolution.unmatched_externalId hc,
      fun href => Resolution.unmatched_foundOn href⟩
  | some p =>
    have hp := List.mem_of_find?_eq_some hfind
    have hr : p.recognizes u.host = true := List.find?_some (p := fun p : Provider => p.recognizes u.host) hfind
    obtain ⟨e, he, rfl⟩ := List.mem_map.1 hp
    have hx := Layout.extract_samePage h e.2
    refine ⟨?_, ?_, ?_⟩
    · change (Resolution.matched _ (e.2.extract u)).SamePosting (Resolution.matched _ (e.2.extract v))
      rw [hx]
      exact Resolution.matched_samePosting hc _ _
    · intro hkeys
      have hid : e.2.id.read u = e.2.id.read v := by
        refine IdRule.read_congr h fun name hn => ?_
        obtain ⟨hname, hjk⟩ := queryNames_knownLayouts e he name hn
        exact hkeys _ hp hname hr name hjk
      change (Resolution.matched _ (e.2.extract u)).externalId = (Resolution.matched _ (e.2.extract v)).externalId
      rw [hx, hid]
      exact Resolution.matched_externalId hc _
    · intro href
      change (Resolution.matched _ (e.2.extract u)).foundOn = (Resolution.matched _ (e.2.extract v)).foundOn
      rw [hx]
      exact Resolution.matched_foundOn href _ _

/-- Two texts that stand for URLs of one page have records that agree in everything but where the posting was found and,
if `indeed` recognizes the host and finds other identifiers in the query, the identifier. If the query also tells the
same referral source, the records are the same. -/
theorem deduce_samePage {s t : Text} {u v : PostingUrl} (hs : PostingUrl.read? s = some u)
    (ht : PostingUrl.read? t = some v) (h : u.SamePage v) :
    ∃ a b, deduce s = some a ∧ deduce t = some b ∧ a.SamePosting b ∧
      (SameIndeedKeys u v → a.externalId = b.externalId) ∧
      (SameIndeedKeys u v →
        (∀ key ∈ (["source", "src", "utm_source", "ref", "referrer"] : List Text),
          u.queryValue? key = v.queryValue? key) → a = b) := by
  obtain ⟨hposting, hid, hfound⟩ := deduceWith_samePage h
  refine ⟨_, _, deduce_of_read? hs, deduce_of_read? ht, hposting, hid, ?_⟩
  intro hkeys hrefs
  exact hposting.eq (hfound (Referral.ofUrl?_congr hrefs)) (hid hkeys)

/-- A name in the query that nothing reads makes no difference, not even on a host of `indeed`. -/
theorem deduce_samePage_indeed : deduce "https://indeed.com/v?jk=1" = deduce "https://indeed.com/v?jk=1&gclid=2" := by
  have hs : PostingUrl.read? "https://indeed.com/v?jk=1" =
      some ⟨"indeed.com", ["v"], [("jk", "1")], "https://indeed.com/v?jk=1"⟩ := by decide +kernel
  have ht : PostingUrl.read? "https://indeed.com/v?jk=1&gclid=2" =
      some ⟨"indeed.com", ["v"], [("jk", "1"), ("gclid", "2")], "https://indeed.com/v?jk=1&gclid=2"⟩ := by
    decide +kernel
  obtain ⟨a, b, ha, hb, -, -, heq⟩ := deduce_samePage hs ht ⟨rfl, rfl, by decide +kernel⟩
  rw [ha, hb, heq (fun _ _ _ _ => by decide +kernel) (by decide +kernel)]

end JobPosting

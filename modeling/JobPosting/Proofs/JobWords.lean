import JobPosting.Proofs.Kinds

/-!
# Words about jobs as names of companies

A host such as `jobs.acme.com` has labels that are just words about jobs. They are passed over when the company is read
off the host, as long as another label stands before the public suffix. The layouts of some providers take the first
label as it stands, though, and a word about jobs gets into a record only through them.

* `HostName.NamesCompany` : a host has a label that may name a company; `HostName.company_not_jobLabel` says that such a
  label is found.
* `EmployerRule.ofHost` : what a layout reads off the host alone; all else that it reads is a segment of the path.
* `jobWord_iff_ofHost` : when a word about jobs becomes the name of a company or of a tenant.
* `jobWord_jobvite` : one that does.
-/

namespace JobPosting

/-! ## Hosts -/

namespace HostName

/-- There is a label before the public suffix that is not just a word about jobs. -/
def NamesCompany (host : Text) : Prop := ∃ label ∈ beforeSuffix (labels host), label ≠ [] ∧ isJobLabel label = false

instance (host : Text) : Decidable (NamesCompany host) :=
  inferInstanceAs (Decidable (∃ label ∈ beforeSuffix (labels host), label ≠ [] ∧ isJobLabel label = false))

theorem company_not_jobLabel {host : Text} (h : NamesCompany host) : isJobLabel (company host) = false := by
  obtain ⟨label, hmem, hne, hjob⟩ := h
  unfold company
  dsimp only
  split
  · rename_i found hfound
    have hp := List.find?_some hfound
    simp only [Bool.and_eq_true, Bool.not_eq_true'] at hp
    exact hp.2
  · rename_i hnone
    have hno := List.find?_eq_none.1 hnone label (List.mem_reverse.2 hmem)
    simp [hne, hjob] at hno

end HostName

/-! ## Layouts -/

namespace EmployerRule

/-- What a rule reads off a host, whatever else the URL says. -/
def ofHost (host : Text) : EmployerRule → Text
  | nowhere => []
  | behind _ => []
  | firstLabel => HostName.firstLabel host
  | firstLabelUnless own => if HostName.firstLabel host = own then [] else HostName.firstLabel host
  | firstLabelWhere domain => if Text.containsText domain host then HostName.firstLabel host else []
  | hostWithout domain => Text.removeFirst domain host

variable {u : PostingUrl} {rule : EmployerRule}

theorem read_eq_ofHost (h : rule.ofHost u.host ≠ []) : rule.read u = rule.ofHost u.host := by
  cases rule with
  | nowhere => rfl
  | behind words => exact absurd rfl h
  | firstLabel => rfl
  | firstLabelUnless own => rfl
  | firstLabelWhere domain => rfl
  | hostWithout domain => rfl

/-- What a rule reads stands in the path, or is read off the host. -/
theorem read_mem_or (u : PostingUrl) (rule : EmployerRule) :
    rule.read u ∈ u.segments ∨ rule.read u = rule.ofHost u.host := by
  cases rule with
  | nowhere => exact .inr rfl
  | behind words =>
    rw [read]
    cases hs : words.findSome? u.segmentAfter? with
    | none => exact .inr rfl
    | some s =>
      obtain ⟨word, -, hword⟩ := List.exists_of_findSome?_eq_some hs
      exact .inl (PostingUrl.mem_of_segmentAfter? hword)
  | firstLabel => exact .inr rfl
  | firstLabelUnless own => exact .inr rfl
  | firstLabelWhere domain => exact .inr rfl
  | hostWithout domain => exact .inr rfl

end EmployerRule

/-! ## Records -/

/-- A record uses a text as the name of the company or of the tenant. -/
def Record.Names (r : Record) (name : Text) : Prop := r.hiringCompany = some name ∨ r.tenant = name

theorem not_jobLabel_nil : isJobLabel [] = false := by decide

theorem ne_nil_of_jobLabel {name : Text} (h : isJobLabel name = true) : name ≠ [] := by
  rintro rfl
  rw [not_jobLabel_nil] at h
  cases h

namespace Resolution

variable {c : Context} {u : PostingUrl} {l : Layout} {name : Text}

theorem Context.hostCompany_eq_some (h : c.hostCompany = some name) : name = HostName.company c.url.host :=
  (Text.nonEmpty?_eq_some_iff.1 h).1.symm

theorem Context.hostEmployer_eq_some (h : c.hostEmployer = some name) : name = HostName.company c.url.host := by
  unfold hostEmployer at h
  split at h
  · cases h
  · exact hostCompany_eq_some h

theorem givenHiringCompany_eq_some_iff :
    (l.extract u).givenHiringCompany = some name ↔ l.employer.read u = name ∧ name ≠ [] := by
  change Text.given (Text.nonEmpty? (l.employer.read u)) = some name ↔ _
  rw [Text.given_eq_some_iff, Text.nonEmpty?_eq_some_iff]
  simp

theorem givenTenant_eq_some (h : (l.extract u).givenTenant = some name) : l.employer.read u = name := by
  change Text.given (if l.hasTenants then Text.nonEmpty? (l.employer.read u) else none) = some name at h
  split at h
  · exact (Text.nonEmpty?_eq_some_iff.1 (Text.given_eq_some_iff.1 h).1).1
  · cases h

/-- The names in the record of a known provider are read by the layout or off the host. -/
theorem names_matched (h : (matched c (l.extract u)).Names name) (hne : name ≠ []) :
    l.employer.read u = name ∨ name = HostName.company c.url.host := by
  rcases h with h | h
  · change (l.extract u).givenHiringCompany.or c.hostEmployer = some name at h
    rcases Option.or_eq_some_iff.1 h with hx | ⟨-, hc⟩
    · exact .inl (givenHiringCompany_eq_some_iff.1 hx).1
    · exact .inr (Context.hostEmployer_eq_some hc)
  · change tenant c (l.extract u) _ = name at h
    unfold tenant at h
    split at h
    · rename_i t ht
      exact .inl ((givenTenant_eq_some ht).trans h)
    · split at h
      · cases ho : (l.extract u).givenHiringCompany.or c.hostCompany with
        | none =>
          rw [ho] at h
          exact absurd h.symm hne
        | some t =>
          rw [ho] at h
          obtain rfl : t = name := h
          rcases Option.or_eq_some_iff.1 ho with hx | ⟨-, hc⟩
          · exact .inl (givenHiringCompany_eq_some_iff.1 hx).1
          · exact .inr (Context.hostCompany_eq_some hc)
      · exact absurd h.symm hne

theorem names_unmatched (h : (unmatched c).Names name) (hne : name ≠ []) : name = HostName.company c.url.host := by
  rcases h with h | h
  · exact Context.hostEmployer_eq_some h
  · exact absurd h.symm hne

end Resolution

/-- On a host that names a company, a word about jobs that is no segment of the path becomes the name of the company or
of the tenant exactly if the layout of the provider reads it off the host. -/
theorem jobWord_iff_ofHost {t : Text} {u : PostingUrl} (h : PostingUrl.read? t = some u)
    (hnames : HostName.NamesCompany u.host) :
    ∃ r, deduce t = some r ∧ ∀ name, isJobLabel name = true → name ∉ u.segments →
      (r.Names name ↔ ∃ e ∈ knownLayouts, (Provider.ofLayout e.1 e.2).recognizes u.host = true ∧
        e.2.employer.ofHost u.host = name) := by
  refine ⟨_, deduce_of_read? h, fun name hjob hpath => ?_⟩
  have hne : name ≠ [] := ne_nil_of_jobLabel hjob
  have hcompany : name ≠ HostName.company u.host := by
    rintro rfl
    rw [HostName.company_not_jobLabel hnames] at hjob
    cases hjob
  by_cases hknown : ∃ e ∈ knownLayouts, (Provider.ofLayout e.1 e.2).recognizes u.host = true
  · constructor
    · intro hr
      obtain ⟨e, he, hrec⟩ := hknown
      rw [deduceWith_of_recognizes (List.mem_map.2 ⟨e, he, rfl⟩) hrec] at hr
      rcases Resolution.names_matched hr hne with hread | hhost
      · refine ⟨e, he, hrec, ?_⟩
        rcases e.2.employer.read_mem_or u with hmem | hof
        · exact absurd (hread ▸ hmem) hpath
        · rw [← hof, hread]
      · exact absurd hhost hcompany
    · rintro ⟨e, he, hrec, hof⟩
      rw [deduceWith_of_recognizes (List.mem_map.2 ⟨e, he, rfl⟩) hrec]
      have hread : e.2.employer.read u = name := by
        rw [← hof]
        apply EmployerRule.read_eq_ofHost
        rwa [hof]
      refine .inl ?_
      change (e.2.extract u).givenHiringCompany.or _ = some name
      rw [Resolution.givenHiringCompany_eq_some_iff.2 ⟨hread, hne⟩]
      rfl
  · have hno : ∀ p ∈ knownProviders, p.recognizes u.host = false := by
      intro p hp
      obtain ⟨e, he, rfl⟩ := List.mem_map.1 hp
      rw [← Bool.not_eq_true]
      exact fun hrec => hknown ⟨e, he, hrec⟩
    constructor
    · intro hr
      rw [deduceWith_of_not_recognizes hno] at hr
      exact absurd (Resolution.names_unmatched hr hne) hcompany
    · rintro ⟨e, he, hrec, -⟩
      exact absurd ⟨e, he, hrec⟩ hknown

/-- The first label of a host that many companies share becomes the name of the company. -/
theorem jobWord_iff_ofHost_lever : ∃ r, deduce "https://jobs.lever.co/acme/abc-123" = some r ∧ r.Names "jobs" := by
  have hread : PostingUrl.read? "https://jobs.lever.co/acme/abc-123" =
      some ⟨"jobs.lever.co", ["acme", "abc-123"], [], "https://jobs.lever.co/acme/abc-123"⟩ := by decide +kernel
  have hnames : HostName.NamesCompany "jobs.lever.co" := by decide +kernel
  have hlayout : ∃ e ∈ knownLayouts, (Provider.ofLayout e.1 e.2).recognizes "jobs.lever.co" = true ∧
      e.2.employer.ofHost "jobs.lever.co" = "jobs" := by decide +kernel
  obtain ⟨r, hr, hiff⟩ := jobWord_iff_ofHost hread hnames
  exact ⟨r, hr, (hiff "jobs" (by decide) (by decide)).2 hlayout⟩

/-- So does the first label of a host where the path names the company, which the layout has no place for. -/
theorem jobWord_jobvite :
    HostName.NamesCompany "jobs.jobvite.com" ∧ isJobLabel "jobs" = true ∧
    PostingUrl.read? "https://jobs.jobvite.com/acme/job/oAbc123" =
      some ⟨"jobs.jobvite.com", ["acme", "job", "oAbc123"], [], "https://jobs.jobvite.com/acme/job/oAbc123"⟩ ∧
    ∃ r, deduce "https://jobs.jobvite.com/acme/job/oAbc123" = some r ∧
      r.hiringCompany = some "jobs".toList ∧ r.tenant = "jobs" := by
  refine ⟨by decide +kernel, by decide, by decide +kernel, ?_⟩
  have hdeduce : deduce "https://jobs.jobvite.com/acme/job/oAbc123" =
      some ⟨ownSite, "jobvite", "jobs", "oAbc123", some "jobs".toList, none, none⟩ := by decide +kernel
  exact ⟨_, hdeduce, rfl, rfl⟩

end JobPosting

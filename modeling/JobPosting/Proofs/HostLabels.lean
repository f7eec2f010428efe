import JobPosting.Proofs.JobWords

/-!
# Labels that name a company or a provider

A host names the company by the last telling label before its public suffix, and an unknown provider by one of the first
two labels. Both can be read with positions: the labels are counted, the length of the suffix is subtracted, and labels
are taken by their numbers. No number is out of range, whatever the host.

* `HostName.isTelling` : a label that is neither empty nor just a word about jobs.
* `HostName.companyAt?`, `HostName.providerAt?` : the readings with positions, which fail if a position is out of range;
  `HostName.companyAt?_eq` and `HostName.providerAt?_eq` say that they never do.
* `HostName.company_telling` : the company is the last telling label before the public suffix.
* `HostName.provider_eq` : the provider, when no label is empty.
* `host_labels` : what both readings find.
-/

namespace JobPosting

theorem Text.head?_split (sep : Char) (t : Text) : (split sep t).head? = some (before sep t) := by
  induction t with
  | nil => rfl
  | cons c r ih =>
    by_cases hc : c = sep
    · subst hc
      simp [split, before]
    · obtain ⟨p, ps, hr, hcr⟩ := split_cons_ne hc r
      rw [hr] at ih
      rw [hcr]
      simpa [before, hc] using ih

namespace HostName

variable {host : Text}

/-! ## Suffixes -/

theorem labels_ne_nil (host : Text) : labels host ≠ [] := Text.split_ne_nil '.' host

theorem head?_labels (host : Text) : (labels host).head? = some (firstLabel host) := Text.head?_split '.' host

theorem suffixLength_le {ls : List Text} (h : ls ≠ []) : suffixLength ls ≤ ls.length := by
  have hpos := List.length_pos_iff.2 h
  unfold suffixLength
  split
  · rename_i top second rest hrev
    have hlength : ls.length = rest.length + 2 := by
      rw [← List.length_reverse, hrev]
      rfl
    split <;> omega
  · exact hpos

theorem mem_of_mem_beforeSuffix {ls : List Text} {label : Text} (h : label ∈ beforeSuffix ls) : label ∈ ls :=
  List.mem_of_mem_take h

theorem getLast?_beforeSuffix {ls : List Text} (h : suffixLength ls + 1 ≤ ls.length) :
    (beforeSuffix ls).getLast? = ls[ls.length - (suffixLength ls + 1)]? := by
  unfold beforeSuffix
  rw [List.getLast?_eq_getElem?, List.length_take, List.getElem?_take, if_pos (by omega)]
  congr 1
  omega

theorem beforeSuffix_eq_nil {ls : List Text} (h : ¬suffixLength ls + 1 ≤ ls.length) : beforeSuffix ls = [] := by
  unfold beforeSuffix
  rw [show ls.length - suffixLength ls = 0 by omega]
  rfl

/-! ## Positions -/

/-- A difference, unless it would be negative. -/
def difference? (a b : Nat) : Option Nat := if b ≤ a then some (a - b) else none

/-- The first `n` of some labels, unless there are fewer. -/
def firstOnes? (n : Nat) (ls : List Text) : Option (List Text) := if n ≤ ls.length then some (ls.take n) else none

/-- A label that tells something: it is neither empty nor just a word about jobs. -/
def isTelling (label : Text) : Bool := label ≠ [] && !isJobLabel label

theorem isTelling_iff {label : Text} : isTelling label = true ↔ label ≠ [] ∧ isJobLabel label = false := by
  simp [isTelling]

theorem isTelling_eq_false_iff {label : Text} : isTelling label = false ↔ label = [] ∨ isJobLabel label = true := by
  rw [isTelling, Bool.and_eq_false_iff, decide_eq_false_iff_not, Decidable.not_not, Bool.not_eq_false']

/-- The company of a host, read with positions: nothing is found if a position is out of range. -/
def companyAt? (host : Text) : Option Text :=
  let ls := labels host
  let leftmost := (Text.given ls.head?).getD host
  match difference? ls.length (suffixLength ls + 1) with
  | none => some leftmost
  | some stop => do
    let before ← firstOnes? (stop + 1) ls
    match before.reverse.find? isTelling with
    | some label => some label
    | none => do
      let label ← ls[stop]?
      if label = [] then some leftmost else ls[stop]?

/-- The label by which the provider is named unless it is empty; `before` stands before the public suffix. -/
def candidateAt? (ls before : List Text) : Option Text :=
  match before with
  | [] => ls[0]?
  | a :: b :: _ => some (if isJobLabel a then b else a)
  | [a] => some a

/-- The provider of an unknown site, read with positions: nothing is found if a position is out of range. -/
def providerAt? (host : Text) : Option Text :=
  let ls := labels host
  if host = [] then some ownSite
  else if ls.length = 1 then ls[0]?
  else do
    let cutoff ← difference? ls.length (suffixLength ls)
    let before ← firstOnes? cutoff ls
    let candidate ← candidateAt? ls before
    if candidate = [] then ls[0]? else some candidate

theorem difference?_of_le {a b : Nat} (h : b ≤ a) : difference? a b = some (a - b) := if_pos h

theorem difference?_of_not_le {a b : Nat} (h : ¬b ≤ a) : difference? a b = none := if_neg h

theorem firstOnes?_beforeSuffix (ls : List Text) :
    firstOnes? (ls.length - suffixLength ls) ls = some (beforeSuffix ls) := if_pos (Nat.sub_le _ _)

/-! ## The company -/

/-- The company is the last telling label, else the last label, else the first one, else the whole host. -/
theorem company_eq (host : Text) :
    company host = (((beforeSuffix (labels host)).reverse.find? isTelling).or
      (Text.given (beforeSuffix (labels host)).getLast?)).getD ((Text.given (labels host).head?).getD host) := by
  rw [← List.head?_reverse, head?_labels]
  unfold company
  dsimp only
  show (match List.find? isTelling _ with | some label => label | none => _) = _
  cases (beforeSuffix (labels host)).reverse.find? isTelling with
  | some label => rfl
  | none =>
    cases (beforeSuffix (labels host)).reverse with
    | nil => rfl
    | cons label rest =>
      cases label with
      | nil => rfl
      | cons c label => rfl

theorem companyAt?_eq (host : Text) : companyAt? host = some (company host) := by
  rw [company_eq]
  unfold companyAt?
  generalize labels host = ls
  dsimp only
  by_cases hroom : suffixLength ls + 1 ≤ ls.length
  · have hlast := getLast?_beforeSuffix hroom
    have hstop : ls.length - (suffixLength ls + 1) + 1 = ls.length - suffixLength ls := by omega
    have hget := List.getElem?_eq_getElem (show ls.length - (suffixLength ls + 1) < ls.length by omega)
    rw [difference?_of_le hroom]
    dsimp only
    rw [hstop, firstOnes?_beforeSuffix, hlast, hget]
    show (match (beforeSuffix ls).reverse.find? isTelling with | some label => _ | none => _) = _
    cases (beforeSuffix ls).reverse.find? isTelling with
    | some label => rfl
    | none =>
      cases ls[ls.length - (suffixLength ls + 1)] with
      | nil => rfl
      | cons c label => rfl
  · rw [difference?_of_not_le hroom, beforeSuffix_eq_nil hroom]
    rfl

theorem company_mem_or (host : Text) : company host ∈ labels host ∨ company host = host := by
  rw [company_eq]
  cases hfind : (beforeSuffix (labels host)).reverse.find? isTelling with
  | some label => exact .inl (mem_of_mem_beforeSuffix (List.mem_reverse.1 (List.mem_of_find?_eq_some hfind)))
  | none =>
    cases hlast : Text.given (beforeSuffix (labels host)).getLast? with
    | some label =>
      exact .inl (mem_of_mem_beforeSuffix (List.mem_of_getLast? (Text.given_eq_some_iff.1 hlast).1))
    | none =>
      cases hfirst : Text.given (labels host).head? with
      | some label => exact .inl (List.mem_of_head? (Text.given_eq_some_iff.1 hfirst).1)
      | none => exact .inr rfl

/-- The company is the last telling label before the public suffix, if there is one. -/
theorem company_telling (h : NamesCompany host) :
    ∃ front back, beforeSuffix (labels host) = front ++ company host :: back ∧
      (company host ≠ [] ∧ isJobLabel (company host) = false) ∧ ∀ label ∈ back, label = [] ∨ isJobLabel label = true := by
  rw [company_eq]
  cases hfind : (beforeSuffix (labels host)).reverse.find? isTelling with
  | none =>
    obtain ⟨label, hmem, hne, hjob⟩ := h
    exact absurd (isTelling_iff.2 ⟨hne, hjob⟩) (List.find?_eq_none.1 hfind label (List.mem_reverse.2 hmem))
  | some label =>
    obtain ⟨htelling, behind, ahead, heq, hbehind⟩ := List.find?_eq_some_iff_append.1 hfind
    have hlabels : beforeSuffix (labels host) = ahead.reverse ++ label :: behind.reverse := by
      rw [← List.reverse_reverse (beforeSuffix (labels host)), heq, List.reverse_append, List.reverse_cons,
        List.append_assoc]
      rfl
    have hpassed : ∀ other ∈ behind.reverse, other = [] ∨ isJobLabel other = true := fun other hother =>
      isTelling_eq_false_iff.1 (by simpa using hbehind other (List.mem_reverse.1 hother))
    exact ⟨ahead.reverse, behind.reverse, hlabels, isTelling_iff.1 htelling, hpassed⟩

theorem company_mem_beforeSuffix (h : NamesCompany host) : company host ∈ beforeSuffix (labels host) := by
  obtain ⟨front, back, heq, -, -⟩ := company_telling h
  rw [heq]
  exact List.mem_append_right _ List.mem_cons_self

/-! ## The provider -/

theorem providerAt?_eq (host : Text) : providerAt? host = some (provider host) := by
  have hle := suffixLength_le (labels_ne_nil host)
  unfold providerAt? provider
  by_cases hhost : host = []
  · rw [if_pos hhost, if_pos hhost]
  · rw [if_neg hhost, if_neg hhost]
    cases hls : labels host with
    | nil => exact absurd hls (labels_ne_nil host)
    | cons first rest =>
      rw [hls] at hle
      cases rest with
      | nil => rfl
      | cons second rest =>
        have hchoose : ∀ candidate : Text,
            (if candidate = [] then some first else some candidate) = some (if candidate = [] then first else candidate) :=
          fun candidate => (apply_ite some (candidate = []) first candidate).symm
        rw [if_neg (by simp), difference?_of_le hle]
        show ((firstOnes? _ _).bind _) = _
        rw [firstOnes?_beforeSuffix]
        dsimp only
        cases beforeSuffix (first :: second :: rest) with
        | nil => exact hchoose first
        | cons a before =>
          cases before with
          | nil => exact hchoose a
          | cons b before => exact hchoose (if isJobLabel a then b else a)

/-- Where no label is empty, the first label before the public suffix names the provider, or the second one if there is
one and the first is just a word about jobs. -/
theorem provider_eq (h : ∀ label ∈ labels host, label ≠ []) {a : Text} {rest : List Text}
    (hbefore : beforeSuffix (labels host) = a :: rest) :
    provider host = if isJobLabel a then rest.head?.getD a else a := by
  have hne : ∀ label ∈ a :: rest, label ≠ [] := fun label hmem => h label (mem_of_mem_beforeSuffix (hbefore ▸ hmem))
  have hhost : host ≠ [] := by
    rintro rfl
    exact h [] (by decide) rfl
  unfold provider
  rw [if_neg hhost]
  cases hls : labels host with
  | nil => exact absurd hls (labels_ne_nil host)
  | cons first others =>
    rw [hls] at hbefore
    cases others with
    | nil => cases hbefore
    | cons second others =>
      dsimp only
      rw [hbefore]
      cases rest with
      | nil =>
        rw [if_neg (hne a List.mem_cons_self)]
        exact (ite_self a).symm
      | cons b rest =>
        have hcandidate : (if isJobLabel a then b else a) ≠ [] := by
          split
          · exact hne b (List.mem_cons_of_mem a List.mem_cons_self)
          · exact hne a List.mem_cons_self
        exact if_neg hcandidate

section NoEmptyLabel

variable (h : ∀ label ∈ labels host, label ≠ []) (hne : beforeSuffix (labels host) ≠ [])

include h hne

theorem provider_mem : provider host ∈ (beforeSuffix (labels host)).take 2 := by
  obtain ⟨a, rest, hbefore⟩ := List.exists_cons_of_ne_nil hne
  rw [provider_eq h hbefore, hbefore]
  cases rest with
  | nil => simp
  | cons b rest =>
    split
    · exact List.mem_cons_of_mem a List.mem_cons_self
    · exact List.mem_cons_self

/-- The provider is a word about jobs only if there is no other choice. -/
theorem jobLabel_of_provider (hjob : isJobLabel (provider host) = true) :
    ∀ label ∈ (beforeSuffix (labels host)).take 2, isJobLabel label = true := by
  obtain ⟨a, rest, hbefore⟩ := List.exists_cons_of_ne_nil hne
  rw [provider_eq h hbefore] at hjob
  rw [hbefore]
  split at hjob
  · rename_i ha
    cases rest with
    | nil => simpa using ha
    | cons b rest =>
      intro label hlabel
      rcases List.mem_cons.1 hlabel with rfl | hlabel
      · exact ha
      · rw [List.mem_singleton.1 hlabel]
        exact hjob
  · rename_i ha
    exact absurd hjob ha

end NoEmptyLabel

end HostName

/-- No position is out of range when the company or the provider is read off a host. The company is one of its labels,
or the whole host, and not empty unless the host is; it is the last telling label before the public suffix, whenever
there is one. On a host without empty labels that has a label before the public suffix, the provider is one of the first
two of these; it is a word about jobs only if both of them are, or the only one; and it is the company if just one label
before the suffix tells something and this one is among the first two. -/
theorem host_labels (host : Text) :
    let before := HostName.beforeSuffix (HostName.labels host)
    (HostName.suffixLength (HostName.labels host) ≤ (HostName.labels host).length ∧
      HostName.companyAt? host = some (HostName.company host) ∧
      HostName.providerAt? host = some (HostName.provider host)) ∧
    (HostName.company host ∈ HostName.labels host ∨ HostName.company host = host) ∧
    (host ≠ [] → HostName.company host ≠ []) ∧
    ((∃ label ∈ before, label ≠ [] ∧ isJobLabel label = false) →
      ∃ front back, before = front ++ HostName.company host :: back ∧
        (HostName.company host ≠ [] ∧ isJobLabel (HostName.company host) = false) ∧
        ∀ label ∈ back, label = [] ∨ isJobLabel label = true) ∧
    ((∀ label ∈ HostName.labels host, label ≠ []) → before ≠ [] →
      HostName.provider host ∈ before.take 2 ∧
      (isJobLabel (HostName.provider host) = true → ∀ label ∈ before.take 2, isJobLabel label = true) ∧
      ∀ label ∈ before.take 2, isJobLabel label = false →
        (∀ other ∈ before, isJobLabel other = false → other = label) →
          HostName.provider host = HostName.company host) := by
  intro before
  refine ⟨⟨HostName.suffixLength_le (HostName.labels_ne_nil host), HostName.companyAt?_eq host,
    HostName.providerAt?_eq host⟩, HostName.company_mem_or host, HostName.company_ne_nil, HostName.company_telling,
    fun h hne => ?_⟩
  have hmem : HostName.provider host ∈ before.take 2 := HostName.provider_mem h hne
  have hjob := HostName.jobLabel_of_provider h hne
  refine ⟨hmem, hjob, fun label hlabel htelling hunique => ?_⟩
  have hin := List.mem_of_mem_take hlabel
  have hnames : HostName.NamesCompany host := ⟨label, hin, h label (HostName.mem_of_mem_beforeSuffix hin), htelling⟩
  have hcompany : HostName.company host = label :=
    hunique _ (HostName.company_mem_beforeSuffix hnames) (HostName.company_not_jobLabel hnames)
  have hprovider : isJobLabel (HostName.provider host) = false := by
    rw [Bool.eq_false_iff]
    intro hword
    rw [hjob hword label hlabel] at htelling
    cases htelling
  rw [hcompany]
  exact hunique _ (List.mem_of_mem_take hmem) hprovider

/-- A host with three labels before its public suffix, the one in the middle of which is the company and the provider. -/
theorem host_labels_bosch :
    let host : Text := "karriere.bosch.jobs.co.uk"
    let before := HostName.beforeSuffix (HostName.labels host)
    before = ["karriere", "bosch", "jobs"].map String.toList ∧ (∀ label ∈ HostName.labels host, label ≠ []) ∧
      HostName.company host ≠ [] ∧ (∃ front back, before = front ++ HostName.company host :: back ∧
        ∀ label ∈ back, label = [] ∨ isJobLabel label = true) ∧ HostName.provider host = HostName.company host := by
  intro host before
  have hfull : ∀ label ∈ HostName.labels host, label ≠ [] := by decide
  obtain ⟨-, -, hne, hlast, hprovider⟩ := host_labels host
  obtain ⟨front, back, heq, -, hback⟩ := hlast ⟨"bosch", by decide, by decide, by decide⟩
  obtain ⟨-, -, hsame⟩ := hprovider hfull (by decide)
  exact ⟨by decide, hfull, hne (by decide), ⟨front, back, heq, hback⟩,
    hsame "bosch" (by decide) (by decide) (by decide)⟩

end JobPosting

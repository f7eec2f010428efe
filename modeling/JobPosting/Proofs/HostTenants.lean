import JobPosting.Proofs.Kinds
import Mathlib.Data.List.Infix

/-!
# Tenants in hosts

Two layouts look for a domain in the host, to cut it off or to tell one domain from another. They look from the left and
take it wherever it stands, whereas the provider is recognized by the end of the host. The two agree as long as the
domain does not also stand in what the customer may choose.

* `Text.Unbordered` : a text of which no other part stands at both ends, so that its occurrences do not overlap.
* `Text.removeFirst_append` : the first occurrence is cut out, and all else stays.
* `Text.EndsInCopies`, `Text.removeFirst_append_self_iff` : when cutting out the first occurrence leaves what stands
  before the last one.
* `host_tenants` : the tenants that the hosts of `lever` and `workable` carry.
-/

namespace JobPosting

namespace Text

/-! ## Occurrences -/

theorem containsText_iff {needle t : Text} : containsText needle t = true ↔ needle <:+: t := by
  induction t with
  | nil => rw [containsText, List.isEmpty_iff, List.infix_nil]
  | cons c r ih => rw [containsText, Bool.or_eq_true, ih, List.isPrefixOf_iff_prefix, List.infix_cons_iff]

/-- No part of the text stands at both of its ends, apart from nothing and the whole. -/
structure Unbordered (d : Text) : Prop where
  ne_nil : d ≠ []
  border : ∀ s ∈ d.inits, s <:+ d → s = [] ∨ s = d

variable {d front rest t : Text}

/-- A text stands somewhere in two that are put together if it stands in one of them, unless it may stand across. -/
theorem infix_append_iff_left (hback : ¬d <:+: t) (hacross : ∀ s ∈ t.inits, s <:+ d → s = []) :
    d <:+: front ++ t ↔ d <:+: front := by
  rw [List.infix_append_iff]
  refine ⟨?_, .inl⟩
  rintro (h | h | ⟨x, s, rfl, hx, hs⟩)
  · exact h
  · exact absurd h hback
  · rw [hacross s ((List.mem_inits s t).2 hs) (List.suffix_append x s), List.append_nil]
    exact hx.isInfix

theorem exists_first (hd : d ≠ []) (h : d <:+: t) : ∃ front rest, ¬d <:+: front ∧ t = front ++ (d ++ rest) := by
  obtain ⟨front, rest, rfl⟩ := h
  induction hn : front.length using Nat.strong_induction_on generalizing front rest with
  | _ n ih =>
    by_cases hfront : d <:+: front
    · obtain ⟨earlier, between, rfl⟩ := hfront
      have hpos := List.length_pos_iff.2 hd
      simp only [List.length_append] at hn
      obtain ⟨first, others, hno, heq⟩ := ih earlier.length (by omega) earlier (between ++ d ++ rest) rfl
      exact ⟨first, others, hno, by simpa using heq⟩
    · exact ⟨front, rest, hfront, by simp⟩

namespace Unbordered

variable (hd : Unbordered d)

include hd

/-- A text does not stand across the beginning of one of its occurrences. -/
theorem not_prefix (h : ¬d <:+: front) (hne : front ≠ []) : ¬d <+: front ++ (d ++ rest) := by
  rintro ⟨r, heq⟩
  rcases List.append_eq_append_iff.1 heq with ⟨s, hfront, -⟩ | ⟨s, hdeq, hs⟩
  · exact h ⟨[], s, by rw [hfront]; rfl⟩
  · have hlength := congrArg List.length hdeq
    have hpos := List.length_pos_iff.2 hne
    rw [List.length_append] at hlength
    have hprefix : s <+: d := List.prefix_of_prefix_length_le ⟨r, hs.symm⟩ (List.prefix_append d rest) (by omega)
    rcases hd.border s ((List.mem_inits s d).2 hprefix) ⟨front, hdeq.symm⟩ with rfl | rfl
    · rw [List.append_nil] at hdeq
      exact h (hdeq ▸ List.infix_refl d)
    · omega

theorem removeFirst_append (h : ¬d <:+: front) (rest : Text) : removeFirst d (front ++ (d ++ rest)) = front ++ rest := by
  induction front with
  | nil =>
    obtain ⟨c, r, rfl⟩ := List.exists_cons_of_ne_nil hd.ne_nil
    have hstrip : stripPrefix? (c :: r) (c :: (r ++ rest)) = some rest := stripPrefix?_eq_some_iff.2 rfl
    rw [List.nil_append, List.cons_append, removeFirst, hstrip]
    rfl
  | cons c front ih =>
    have hstrip : stripPrefix? d (c :: front ++ (d ++ rest)) = none := by
      rw [Option.eq_none_iff_forall_ne_some]
      intro r hr
      exact hd.not_prefix h (List.cons_ne_nil c front) ⟨r, (stripPrefix?_eq_some_iff.1 hr).symm⟩
    rw [List.cons_append] at hstrip ⊢
    rw [removeFirst, hstrip]
    exact congrArg (c :: ·) (ih fun hfound => h (hfound.trans (List.suffix_cons c front).isInfix))

/-- What can be put in front of the text as well as behind it consists of copies of it. -/
theorem append_comm_iff : rest ++ d = d ++ rest ↔ ∃ n, rest = (List.replicate n d).flatten := by
  constructor
  · intro h
    induction hn : rest.length using Nat.strong_induction_on generalizing rest with
    | _ n ih =>
      rcases List.append_eq_append_iff.1 h with ⟨s, hdeq, heq⟩ | ⟨s, hrest, heq⟩
      · have hborder := hd.border rest ((List.mem_inits rest d).2 ⟨s, hdeq.symm⟩) ⟨s, heq.symm⟩
        rcases hborder with rfl | rfl
        · exact ⟨0, rfl⟩
        · exact ⟨1, by simp⟩
      · have hpos := List.length_pos_iff.2 hd.ne_nil
        have hlength := congrArg List.length hrest
        rw [List.length_append] at hlength
        obtain ⟨m, rfl⟩ := ih s.length (by omega) (heq.symm.trans hrest) rfl
        exact ⟨m + 1, by rw [hrest, List.replicate_succ, List.flatten_cons]⟩
  · rintro ⟨n, rfl⟩
    induction n with
    | zero => simp
    | succ n ih => rw [List.replicate_succ, List.flatten_cons, List.append_assoc, ih]

end Unbordered

/-- A text in which another one stands nowhere, apart from copies of it at the end. -/
def EndsInCopies (d t : Text) : Prop := ∃ front n, ¬d <:+: front ∧ t = front ++ (List.replicate n d).flatten

/-- What is left of a text with `d` behind it, when the first `d` is cut out, is that text exactly if no `d` stands in it
apart from copies at its end. -/
theorem removeFirst_append_self_iff (hd : Unbordered d) : removeFirst d (t ++ d) = t ↔ EndsInCopies d t := by
  constructor
  · intro h
    obtain ⟨front, rest, hno, heq⟩ := exists_first hd.ne_nil (List.suffix_append t d).isInfix
    rw [heq, hd.removeFirst_append hno] at h
    subst h
    have hcomm : rest ++ d = d ++ rest := List.append_cancel_left (by rw [← heq, List.append_assoc])
    obtain ⟨n, rfl⟩ := hd.append_comm_iff.1 hcomm
    exact ⟨front, n, hno, rfl⟩
  · rintro ⟨front, n, hno, rfl⟩
    rw [List.append_assoc, hd.append_comm_iff.2 ⟨n, rfl⟩, hd.removeFirst_append hno]

end Text

/-! ## Layouts -/

namespace Extraction

/-- An extraction names this company and tenant, or neither of them. -/
def NamesEmployer (x : Extraction) (name : Option Text) : Prop := x.tenant = name ∧ x.hiringCompany = name

variable {x : Extraction} {t p : Text}

theorem NamesEmployer.some_iff (h : x.NamesEmployer (Text.nonEmpty? t)) (hp : p ≠ []) :
    x.NamesEmployer (some p) ↔ t = p := by
  constructor
  · intro hsome
    exact (Text.nonEmpty?_eq_some_iff.1 (h.1.symm.trans hsome.1)).1
  · rintro rfl
    rwa [Text.nonEmpty?_of_ne_nil hp] at h

theorem NamesEmployer.none_iff (h : x.NamesEmployer (Text.nonEmpty? t)) : x.NamesEmployer none ↔ t = [] := by
  constructor
  · intro hnone
    by_contra hne
    have hsome := h.1.symm.trans hnone.1
    rw [Text.nonEmpty?_of_ne_nil hne] at hsome
    cases hsome
  · rintro rfl
    exact h

end Extraction

namespace Layout

variable {l : Layout} (htenants : l.hasTenants = true) (u : PostingUrl)

include htenants

theorem namesEmployer_extract : (l.extract u).NamesEmployer (Text.nonEmpty? (l.employer.read u)) :=
  ⟨if_pos htenants, rfl⟩

end Layout

/-! ## The two layouts -/

/-- The domain that the layout of `lever` cuts off. -/
def leverDomain : Text := ".lever.co"

/-- The domain by which the layout of `workable` tells that the host carries a tenant. -/
def workableDomain : Text := ".workable.com"

/-- The other domain of `workable`, the hosts of which carry no tenant. -/
def applyDomain : Text := ".applytojob.com"

theorem unbordered_leverDomain : Text.Unbordered leverDomain where
  ne_nil := by decide
  border := by decide

/-- The domains of `workable` do not stand across each other's beginning. -/
theorem infix_append_applyDomain {front : Text} : workableDomain <:+: front ++ applyDomain ↔ workableDomain <:+: front :=
  Text.infix_append_iff_left (by decide) (by decide)

/-- The layout of `lever` names the employer by the host without the first occurrence of its domain. -/
theorem exists_lever : ∃ lever, Registry.named? knownProviders "lever" = some lever ∧
    ∀ u : PostingUrl, (lever.extract u).NamesEmployer (Text.nonEmpty? (Text.removeFirst leverDomain u.host)) :=
  ⟨.ofLayout _ _, rfl, Layout.namesEmployer_extract rfl⟩

/-- The layout of `workable` names the employer by the first label of a host in which its domain stands. -/
theorem exists_workable : ∃ workable, Registry.named? knownProviders "workable" = some workable ∧
    ∀ u : PostingUrl, (workable.extract u).NamesEmployer
      (Text.nonEmpty? (if Text.containsText workableDomain u.host then u.firstLabel else [])) :=
  ⟨.ofLayout _ _, rfl, Layout.namesEmployer_extract rfl⟩

/-- What the layouts read off a host that ends in one of their domains, with `p` in front of it. The layout of `lever`
names `p` exactly if its domain does not stand in `p`, apart from copies at the end; on every host it cuts out the first
occurrence of the domain. On a host below its second domain the layout of `workable` names nobody exactly if the first
one does not stand in `p`, or the first label is empty; otherwise it names this label, as it does on every host below
the first domain. -/
theorem host_tenants (u : PostingUrl) (p : Text) :
    (∃ lever, Registry.named? knownProviders "lever" = some lever ∧
      (u.host = p ++ leverDomain → p ≠ [] →
        ((lever.extract u).NamesEmployer (some p) ↔ Text.EndsInCopies leverDomain p)) ∧
      ∀ front rest, ¬leverDomain <:+: front → u.host = front ++ (leverDomain ++ rest) →
        (lever.extract u).NamesEmployer (Text.nonEmpty? (front ++ rest))) ∧
    ∃ workable, Registry.named? knownProviders "workable" = some workable ∧
      (u.host = p ++ applyDomain →
        ((workable.extract u).NamesEmployer none ↔ ¬workableDomain <:+: p ∨ u.firstLabel = []) ∧
        (workableDomain <:+: p → (workable.extract u).NamesEmployer (Text.nonEmpty? u.firstLabel))) ∧
      (u.host = p ++ workableDomain → u.firstLabel ≠ [] →
        (workable.extract u).NamesEmployer (some u.firstLabel)) := by
  obtain ⟨lever, hlever, hcut⟩ := exists_lever
  obtain ⟨workable, hworkable, hlabel⟩ := exists_workable
  have hcut := hcut u
  have hlabel := hlabel u
  refine ⟨⟨lever, hlever, fun hhost hp => ?_, fun front rest hno hhost => ?_⟩,
    workable, hworkable, fun hhost => ?_, fun hhost hfirst => ?_⟩
  · rw [← Text.removeFirst_append_self_iff unbordered_leverDomain, ← hhost]
    exact hcut.some_iff hp
  · rwa [hhost, unbordered_leverDomain.removeFirst_append hno] at hcut
  · have hcontains : Text.containsText workableDomain u.host = true ↔ workableDomain <:+: p := by
      rw [Text.containsText_iff, hhost, infix_append_applyDomain]
    refine ⟨?_, fun hinside => ?_⟩
    · rw [hlabel.none_iff, ← hcontains]
      split
      · rename_i hinside
        exact (or_iff_right (not_not_intro hinside)).symm
      · rename_i hno
        exact iff_of_true rfl (.inl hno)
    · rwa [if_pos (hcontains.2 hinside)] at hlabel
  · have hcontains : Text.containsText workableDomain u.host = true := by
      rw [Text.containsText_iff, hhost]
      exact (List.suffix_append p workableDomain).isInfix
    rwa [if_pos hcontains, Text.nonEmpty?_of_ne_nil hfirst] at hlabel

def rootOf (host : Text) : PostingUrl := ⟨host, [], [], "https://".toList ++ host ++ "/".toList⟩

/-- A tenant that ends in the domain is read as it is; and a host below each domain of the other provider. -/
theorem host_tenants_acme :
    (∃ lever, Registry.named? knownProviders "lever" = some lever ∧
      (lever.extract (rootOf "acme.lever.co.lever.co")).NamesEmployer (some "acme.lever.co")) ∧
    (∃ workable, Registry.named? knownProviders "workable" = some workable ∧
      (workable.extract (rootOf "acme.applytojob.com")).NamesEmployer none) ∧
    ∃ workable, Registry.named? knownProviders "workable" = some workable ∧
      (workable.extract (rootOf "acme.workable.com")).NamesEmployer (some "acme") := by
  have hcopies : Text.EndsInCopies leverDomain "acme.lever.co" := ⟨"acme", 1, by decide, by decide⟩
  obtain ⟨⟨lever, hlever, htwice, -⟩, -⟩ := host_tenants (rootOf "acme.lever.co.lever.co") "acme.lever.co"
  obtain ⟨-, workable, hworkable, happly, -⟩ := host_tenants (rootOf "acme.applytojob.com") "acme"
  obtain ⟨-, workable', hworkable', -, hbelow⟩ := host_tenants (rootOf "acme.workable.com") "acme"
  exact ⟨⟨lever, hlever, (htwice (by decide) (by decide)).2 hcopies⟩,
    ⟨workable, hworkable, (happly (by decide)).1.2 (.inl (by decide))⟩,
    workable', hworkable', hbelow (by decide) (by decide)⟩

/-- What a layout says about the posting URL that a text stands for, together with the host. -/
def extraction? (name t : Text) : Option (Text × Extraction) :=
  (PostingUrl.read? t).bind fun u => (Registry.named? knownProviders name).map fun p => (u.host, p.extract u)

/-- A tenant in which the domain stands before more letters loses it and keeps the letters, and a host below the domain
without tenants has one if the other domain stands in front. -/
theorem host_tenants_inside :
    (extraction? "lever" "https://acme.lever.com.lever.co/jobs/1").map (fun x => (x.1, x.2.tenant, x.2.hiringCompany)) =
      some ("acme.lever.com".toList ++ leverDomain, some "acmem.lever.co".toList, some "acmem.lever.co".toList) ∧
    (extraction? "workable" "https://acme.workable.com.applytojob.com/apply/1").map
        (fun x => (x.1, x.2.tenant, x.2.hiringCompany)) =
      some ("acme.workable.com".toList ++ applyDomain, some "acme".toList, some "acme".toList) := by
  decide +kernel

end JobPosting

import JobPosting.Deduction
import JobPosting.Proofs.Recognition
import Mathlib.Data.List.Find

/-!
# Precedence

The first provider that recognizes a host wins. Among the known ones there is never a second: the tables of providers
and of agencies share no host, so the order in which providers are asked decides nothing.

* `Registry.find?_perm`, `deduceWith_perm` : the order of providers makes no difference on a host that at most one of
  them recognizes.
* `countP_knownProviders_le`, `countP_agencyDomains_le` : no host belongs to two entries of one table.
* `tables_do_not_compete` : no host belongs to two entries of both tables together, and what follows from it.
-/

namespace JobPosting

/-! ## Order of providers -/

section
variable {r s : Registry} {host : Text}

theorem Registry.find?_perm (h : r.Perm s) (hone : {p ∈ r | p.recognizes host = true}.Subsingleton) :
    r.find? host = s.find? host :=
  List.find?_eq_find?_of_perm h hone

/-- The order of providers makes no difference to a URL whose host at most one of them recognizes. -/
theorem deduceWith_perm {u : PostingUrl} (h : r.Perm s)
    (hone : {p ∈ r | p.recognizes u.host = true}.Subsingleton) : deduceWith r u = deduceWith s u := by
  unfold deduceWith
  rw [Registry.find?_perm h hone]

end

/-! ## One entry for each host -/

theorem countP_le_one_of_pairwise {α : Type} {p : α → Bool} {l : List α}
    (h : l.Pairwise fun a b => p a = true → p b = false) : l.countP p ≤ 1 := by
  induction l with
  | nil => exact Nat.zero_le 1
  | cons a l ih =>
    rw [List.pairwise_cons] at h
    by_cases ha : p a = true
    · have hrest : l.countP p = 0 := by
        rw [List.countP_eq_zero]
        intro b hb
        simp [h.1 b hb ha]
      rw [List.countP_cons_of_pos ha, hrest]
    · rw [List.countP_cons_of_neg ha]
      exact ih h.2

theorem countP_knownProviders_le (host : Text) : knownProviders.countP (·.recognizes host) ≤ 1 :=
  countP_le_one_of_pairwise (pairwise_knownProviders host)

theorem countP_agencyDomains_le (host : Text) :
    Vocabulary.agencyDomains.countP (HostName.isWithin · host) ≤ 1 := by
  apply countP_le_one_of_pairwise
  exact apart_agencies.imp fun hde hd => HostMatcher.not_recognizes_both hde hd

theorem countP_agencyDomains_of_recognizes {p : Provider} (hp : p ∈ knownProviders) {host : Text}
    (h : p.recognizes host = true) : Vocabulary.agencyDomains.countP (HostName.isWithin · host) = 0 := by
  have hnone := ofHost?_of_recognizes hp h
  rw [Agency.ofHost?, Option.map_eq_none_iff, List.find?_eq_none] at hnone
  exact List.countP_eq_zero.2 hnone

theorem subsingleton_knownProviders (host : Text) :
    {p ∈ knownProviders | p.recognizes host = true}.Subsingleton := by
  rintro p ⟨hp, hpr⟩ q ⟨hq, hqr⟩
  have hfind := (find?_knownProviders hp hpr).symm.trans (find?_knownProviders hq hqr)
  exact Option.some.inj hfind

/-! ## Both tables -/

/-- The tables do not compete. Of the 33 known providers and the domains of the 12 agencies, at most one recognizes a
host; so the known providers may be asked in any order without any record being another one, and a host of a known
provider never counts as that of an agency. -/
theorem tables_do_not_compete (host : Text) :
    knownProviders.length = 33 ∧ Vocabulary.agencyDomains.length = 12 ∧
    knownProviders.countP (·.recognizes host) + Vocabulary.agencyDomains.countP (HostName.isWithin · host) ≤ 1 ∧
    (∀ registry : Registry, registry.Perm knownProviders →
      ∀ u, deduceWith registry u = deduceWith knownProviders u) ∧
    (∀ p ∈ knownProviders, p.recognizes host = true → Agency.ofHost? host = none) := by
  refine ⟨rfl, rfl, ?_, ?_, fun p hp h => ofHost?_of_recognizes hp h⟩
  · by_cases h : ∃ p ∈ knownProviders, p.recognizes host = true
    · obtain ⟨p, hp, hr⟩ := h
      rw [countP_agencyDomains_of_recognizes hp hr]
      exact countP_knownProviders_le host
    · have hnone : knownProviders.countP (·.recognizes host) = 0 := by
        rw [List.countP_eq_zero]
        intro p hp hr
        exact h ⟨p, hp, hr⟩
      rw [hnone, Nat.zero_add]
      exact countP_agencyDomains_le host
  · intro registry hperm u
    exact (deduceWith_perm hperm.symm (subsingleton_knownProviders u.host)).symm

/-- Asked in reverse order, the known providers say the same about a posting of the fifteenth of them. -/
theorem tables_do_not_compete_lever :
    let u : PostingUrl := ⟨"acme.lever.co", ["1"], [], "https://acme.lever.co/1"⟩
    knownProviders.reverse.map Provider.name ≠ knownProviders.map Provider.name ∧
      deduceWith knownProviders.reverse u = deduceWith knownProviders u ∧
      (∃ p ∈ knownProviders, p.recognizes u.host = true) ∧ Agency.ofHost? u.host = none := by
  intro u
  have hlever : ∃ p ∈ knownProviders, p.recognizes u.host = true := by decide +kernel
  obtain ⟨-, -, -, horder, hagency⟩ := tables_do_not_compete u.host
  refine ⟨by decide +kernel, horder _ (List.reverse_perm _) u, hlever, ?_⟩
  obtain ⟨p, hp, hr⟩ := hlever
  exact hagency p hp hr

end JobPosting

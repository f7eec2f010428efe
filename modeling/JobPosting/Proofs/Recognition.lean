import JobPosting.Agency
import JobPosting.Provider.Known

/-!
# Recognizing hosts

Every known matcher recognizes hosts of one domain only, and the domains of different providers and of the staffing
agencies do not overlap, so that the order in which they are asked makes no difference.

* `Pattern.foundIn_iff` : a pattern of characters and the end of the text is found in the texts that end so.
* `HostMatcher.domain?` : the domain of a matcher; it recognizes no host outside (`HostMatcher.isWithin_of_recognizes`).
* `HostMatcher.apart` : two matchers whose domains do not overlap have no host in common (`not_recognizes_both`).
* `find?_knownProviders` : the known provider that recognizes a host is the one that is found.
* `ofHost?_eq_some_iff` : an agency is found exactly for the hosts of its domain.
* `ofHost?_of_recognizes` : a host of a known provider belongs to no agency.
-/

namespace JobPosting

/-! ## Patterns for ends of texts -/

namespace Pattern

/-- The characters of a pattern that consists of characters and the end of the text. -/
def literalEnd? : Pattern → Option Text
  | [.sign .last] => some []
  | .sign (.letter c) :: r => (literalEnd? r).map (c :: ·)
  | _ => none

theorem ends_nil (pattern : Pattern) : ends pattern [] = [] := by
  induction pattern with
  | nil => rfl
  | cons part r ih => exact ih

theorem ends_literal {pattern : Pattern} {t : Text} (h : literalEnd? pattern = some t) (p : Spot) :
    (ends pattern [p]).isEmpty = false ↔ p.rest = t := by
  induction pattern generalizing t p with
  | nil => cases h
  | cons part r ih =>
    obtain ⟨b, rest⟩ := p
    unfold literalEnd? at h
    split at h
    · rename_i hr
      cases h
      obtain ⟨rfl, rfl⟩ := List.cons.inj hr
      cases rest with
      | nil => simp [ends, Part.ends, Sign.step?]
      | cons d s => simp [ends, Part.ends, Sign.step?]
    · rename_i c _ hr
      obtain ⟨rfl, rfl⟩ := List.cons.inj hr
      obtain ⟨u, hu, rfl⟩ := Option.map_eq_some_iff.1 h
      cases rest with
      | nil =>
        change (ends _ []).isEmpty = false ↔ _
        simp [ends_nil]
      | cons d s =>
        by_cases hd : d = c
        · subst hd
          have hstep : ends (.sign (.letter d) :: r) [⟨b, d :: s⟩] = ends r [⟨false, s⟩] := by
            simp [ends, Part.ends, Sign.step?]
          rw [hstep, ih hu]
          simp
        · have hstep : ends (.sign (.letter c) :: r) [⟨b, d :: s⟩] = ends r [] := by
            simp [ends, Part.ends, Sign.step?, hd]
          rw [hstep, ends_nil]
          simp [hd]
    · cases h

theorem exists_spot {b : Bool} {t s : Text} : (∃ p ∈ spots b t, p.rest = s) ↔ s <:+ t := by
  induction t generalizing b with
  | nil => simp [spots, eq_comm]
  | cons c t ih =>
    rw [List.suffix_cons_iff, ← ih (b := false), spots]
    simp [eq_comm]

/-- A pattern of characters and the end of the text is found in the texts that end in these characters. -/
theorem foundIn_iff {pattern : Pattern} {s : Text} (h : literalEnd? pattern = some s) (t : Text) :
    pattern.foundIn t = true ↔ s <:+ t := by
  rw [← exists_spot (b := true), foundIn, List.any_eq_true]
  simp only [Bool.not_eq_true', ends_literal h]

end Pattern

/-! ## Domains of matchers -/

namespace HostName

/-- The hosts below a domain are those within it, apart from the domain itself. -/
theorem suffix_iff_isWithin {domain host : Text} :
    '.' :: domain <:+ host ↔ isWithin domain host = true ∧ host ≠ domain := by
  rw [isWithin_iff]
  constructor
  · rintro ⟨front, rfl⟩
    refine ⟨.inr ⟨front, rfl⟩, fun heq => ?_⟩
    have hlength := congrArg List.length heq
    rw [List.length_append, List.length_cons] at hlength
    omega
  · rintro ⟨rfl | ⟨front, rfl⟩, hne⟩
    · exact absurd rfl hne
    · exact List.suffix_append _ _

end HostName

namespace HostMatcher

/-- The domain that every host of a matcher lies within, if the matcher is one of the usual ones. -/
def domain? : HostMatcher → Option Text
  | .only host => some host
  | .within domain => some domain
  | .pattern p =>
    match p.literalEnd? with
    | some ('.' :: domain) => some domain
    | _ => none

theorem isWithin_of_recognizes {m : HostMatcher} {domain host : Text} (hd : m.domain? = some domain)
    (h : m.recognizes host = true) : HostName.isWithin domain host = true := by
  cases m with
  | only host' =>
    cases hd
    obtain rfl : host = domain := of_decide_eq_true h
    exact HostName.isWithin_iff.2 (.inl rfl)
  | within domain' =>
    cases hd
    exact h
  | pattern p =>
    unfold domain? at hd
    dsimp only at hd
    split at hd
    · rename_i hp
      cases hd
      obtain ⟨front, rfl⟩ := (Pattern.foundIn_iff hp host).1 h
      exact HostName.isWithin_iff.2 (.inr ⟨front, rfl⟩)
    · cases hd

/-- Whether the domains of two matchers do not overlap: neither lies within the other. -/
def apart (m n : HostMatcher) : Bool :=
  match m.domain?, n.domain? with
  | some d, some e => !HostName.isWithin d e && !HostName.isWithin e d
  | _, _ => false

/-- Matchers whose domains do not overlap have no host in common. -/
theorem not_recognizes_both {m n : HostMatcher} (h : m.apart n = true) {host : Text}
    (hm : m.recognizes host = true) : n.recognizes host = false := by
  cases hn : n.recognizes host with
  | false => rfl
  | true =>
    exfalso
    unfold apart at h
    split at h
    · rename_i d e hd he
      simp only [Bool.and_eq_true, Bool.not_eq_true'] at h
      rcases HostName.isWithin_or_isWithin (isWithin_of_recognizes hd hm) (isWithin_of_recognizes he hn) with hw | hw
      · exact absurd hw (by simp [h.1])
      · exact absurd hw (by simp [h.2])
    · cases h

end HostMatcher

/-! ## Known providers -/

/-- No matcher of one known provider overlaps with a matcher of another one. -/
theorem apart_knownLayouts :
    knownLayouts.Pairwise fun a b => ∀ m ∈ a.1, ∀ n ∈ b.1, HostMatcher.apart m n = true := by
  decide +kernel

/-- No matcher of a known provider overlaps with the domain of an agency. -/
theorem apart_agencyDomains : ∀ e ∈ knownLayouts, ∀ m ∈ e.1, ∀ domain ∈ Vocabulary.agencyDomains,
    HostMatcher.apart m (.within domain) = true := by
  decide +kernel

/-- No two agencies have domains that overlap. -/
theorem apart_agencies : Vocabulary.agencyDomains.Pairwise fun d e =>
    HostMatcher.apart (.within d) (.within e) = true := by
  decide +kernel

/-- An element that alone passes a test is the one that is found. -/
theorem find?_eq_some_of_pairwise {α : Type} {p : α → Bool} {l : List α}
    (hl : l.Pairwise fun a b => p a = true → p b = false) {a : α} (ha : a ∈ l) (hp : p a = true) :
    l.find? p = some a := by
  induction l with
  | nil => cases ha
  | cons b l ih =>
    rw [List.pairwise_cons] at hl
    rcases List.mem_cons.1 ha with rfl | ha
    · exact List.find?_cons_of_pos hp
    · have hb : p b = false := by
        cases hb : p b with
        | false => rfl
        | true => exact absurd hp (by simp [hl.1 a ha hb])
      rw [List.find?_cons_of_neg (by simp [hb])]
      exact ih hl.2 ha

/-- At most one known provider recognizes a host. -/
theorem pairwise_knownProviders (host : Text) :
    knownProviders.Pairwise fun p q => p.recognizes host = true → q.recognizes host = false := by
  refine List.pairwise_map.2 (apart_knownLayouts.imp fun hab hp => ?_)
  obtain ⟨m, hm, hmr⟩ := List.any_eq_true.1 hp
  exact List.any_eq_false.2 fun n hn => by
    simp [HostMatcher.not_recognizes_both (hab m hm n hn) hmr]

/-- The known provider that recognizes a host is the one that is found. -/
theorem find?_knownProviders {p : Provider} (hp : p ∈ knownProviders) {host : Text} (h : p.recognizes host = true) :
    Registry.find? knownProviders host = some p :=
  find?_eq_some_of_pairwise (pairwise_knownProviders host) hp h

theorem not_recognizes_nil : ∀ p ∈ knownProviders, p.recognizes [] = false := by
  decide +kernel

/-- The agency of a host, if there is one, is the only one whose domain the host lies within. -/
theorem ofHost?_eq_some_iff {host : Text} {a : Agency} :
    Agency.ofHost? host = some a ↔ a.domain ∈ Vocabulary.agencyDomains ∧ HostName.isWithin a.domain host = true := by
  unfold Agency.ofHost?
  rw [Option.map_eq_some_iff]
  constructor
  · rintro ⟨d, hd, rfl⟩
    exact ⟨List.mem_of_find?_eq_some hd, List.find?_some (p := fun d => HostName.isWithin d host) hd⟩
  · rintro ⟨hm, hw⟩
    have hl : Vocabulary.agencyDomains.Pairwise fun d e =>
        HostName.isWithin d host = true → HostName.isWithin e host = false :=
      apart_agencies.imp fun hde hd => HostMatcher.not_recognizes_both hde hd
    exact ⟨a.domain, find?_eq_some_of_pairwise hl hm hw, rfl⟩

/-- A host that a known provider recognizes belongs to no agency. -/
theorem ofHost?_of_recognizes {p : Provider} (hp : p ∈ knownProviders) {host : Text}
    (h : p.recognizes host = true) : Agency.ofHost? host = none := by
  obtain ⟨e, he, rfl⟩ := List.mem_map.1 hp
  obtain ⟨m, hm, hmr⟩ := List.any_eq_true.1 h
  cases ha : Agency.ofHost? host with
  | none => rfl
  | some a =>
    obtain ⟨had, haw⟩ := ofHost?_eq_some_iff.1 ha
    have hno := HostMatcher.not_recognizes_both (apart_agencyDomains e he m hm a.domain had) hmr
    exact absurd haw (by simpa [HostMatcher.recognizes] using hno)

end JobPosting

import JobPosting.Proofs.Recognition
import JobPosting.Proofs.Visible
import Mathlib.Data.List.Find

/-!
# Leading www labels

A posting URL drops one leading `www` label of its host. No more than one: a host with several of them keeps the others,
and nothing is left of a host that is no more than such a label. Domains and agencies are recognized behind any number of
these labels, and so are providers, except by those matchers that tell a domain from the hosts below it.

* `HostName.underWww` : a host behind some `www` labels; `HostName.withoutWww_underWww` drops one of them.
* `HostName.isWithin_underWww` : the labels make no difference to the domains that a host lies within.
* `HostMatcher.edge?` : the host at which it makes a difference to a matcher whether labels stand in front.
* `posting_host_www` : the host of a posting URL, and what `www` labels have a say in.
-/

namespace JobPosting

/-! ## Labels in front of a host -/

namespace HostName

/-- A host behind `n` labels `www`. -/
def underWww (n : Nat) (host : Text) : Text := (List.replicate n "www.".toList).flatten ++ host

theorem underWww_succ (n : Nat) (host : Text) : underWww (n + 1) host = "www.".toList ++ underWww n host := by
  unfold underWww
  rw [List.replicate_succ, List.flatten_cons, List.append_assoc]

theorem withoutWww_underWww {host : Text} (h : ¬"www.".toList <+: host) (n : Nat) :
    withoutWww (underWww n host) = underWww (n - 1) host := by
  cases n with
  | zero => exact withoutWww_eq_self h
  | succ n => rw [underWww_succ, withoutWww_append, Nat.add_sub_cancel]

theorem withoutWww_eq_nil_iff {host : Text} (h : host ≠ []) : withoutWww host = [] ↔ host = "www." := by
  by_cases hwww : "www.".toList <+: host
  · obtain ⟨rest, rfl⟩ := hwww
    rw [withoutWww_append]
    exact ⟨fun hnil => by rw [hnil]; rfl, fun heq => List.append_cancel_left heq⟩
  · rw [withoutWww_eq_self hwww]
    exact iff_of_false h fun heq => hwww (heq ▸ List.prefix_refl _)

theorem www_prefix_withoutWww_iff {host : Text} :
    "www.".toList <+: withoutWww host ↔ "www.www.".toList <+: host := by
  by_cases hwww : "www.".toList <+: host
  · obtain ⟨rest, rfl⟩ := hwww
    rw [withoutWww_append]
    exact (List.prefix_append_right_inj "www.".toList).symm
  · rw [withoutWww_eq_self hwww]
    exact iff_of_false hwww fun htwice => hwww (.trans ⟨"www.".toList, rfl⟩ htwice)

theorem labels_underWww_succ (n : Nat) (host : Text) :
    labels (underWww (n + 1) host) = "www".toList :: labels (underWww n host) := by
  rw [underWww_succ]
  exact labels_append "www" (underWww n host)

/-- A host lies within the same domains whatever number of `www` labels stands in front of it. -/
theorem isWithin_underWww {domain : Text} (h : "www".toList ∉ labels domain) (n : Nat) (host : Text) :
    isWithin domain (underWww n host) = isWithin domain host := by
  induction n with
  | zero => rfl
  | succ n ih =>
    rw [← ih, Bool.eq_iff_iff, isWithin_iff_labels, isWithin_iff_labels, labels_underWww_succ, List.suffix_cons_iff]
    have hne : labels domain ≠ "www".toList :: labels (underWww n host) := fun heq => h (heq ▸ List.mem_cons_self)
    exact or_iff_right hne

/-- A domain without `www` labels stands behind some of them only if there are none. -/
theorem underWww_eq_iff {domain : Text} (h : "www".toList ∉ labels domain) (n : Nat) (host : Text) :
    underWww n host = domain ↔ n = 0 ∧ host = domain := by
  constructor
  · rintro rfl
    cases n with
    | zero => exact ⟨rfl, rfl⟩
    | succ n =>
      rw [labels_underWww_succ] at h
      exact absurd List.mem_cons_self h
  · rintro ⟨rfl, rfl⟩
    rfl

end HostName

/-! ## Recognizing hosts behind labels -/

namespace HostMatcher

/-- The host at which it makes a difference whether labels stand in front: a matcher for one host only recognizes it
without them, and one for the hosts below a domain recognizes the domain with them. -/
def edge? : HostMatcher → Option Text
  | .only host => some host
  | .within _ => none
  | .pattern p => (pattern p).domain?

variable {m : HostMatcher} {domain : Text}

/-- A matcher sees no more of a host than whether it is the matcher's domain and whether it lies within it. -/
theorem recognizes_congr (hd : m.domain? = some domain) {x y : Text}
    (hwithin : HostName.isWithin domain x = HostName.isWithin domain y)
    (hedge : m.edge? = some domain → (x = domain ↔ y = domain)) : m.recognizes x = m.recognizes y := by
  cases m with
  | only host =>
    cases hd
    exact decide_eq_decide.2 (hedge rfl)
  | within domain' =>
    cases hd
    exact hwithin
  | pattern p =>
    have hsame := hedge hd
    unfold domain? at hd
    dsimp only at hd
    split at hd
    · rename_i hp
      cases hd
      have hends : ∀ host, (pattern p).recognizes host = true ↔ HostName.isWithin domain host = true ∧ host ≠ domain :=
        fun host => (Pattern.foundIn_iff hp host).trans HostName.suffix_iff_isWithin
      rw [Bool.eq_iff_iff, hends, hends, hwithin, Ne, Ne, hsame]
    · cases hd

theorem recognizes_underWww (hd : m.domain? = some domain) (hwww : "www".toList ∉ HostName.labels domain) {host : Text}
    {a b : Nat} (hedge : m.edge? = some host → (a = 0 ↔ b = 0)) :
    m.recognizes (HostName.underWww a host) = m.recognizes (HostName.underWww b host) := by
  refine recognizes_congr hd ?_ fun he => ?_
  · rw [HostName.isWithin_underWww hwww, HostName.isWithin_underWww hwww]
  · rw [HostName.underWww_eq_iff hwww, HostName.underWww_eq_iff hwww]
    exact and_congr_left fun heq => hedge (heq ▸ he)

end HostMatcher

/-- The hosts at which `www` labels make a difference to a known provider. -/
def knownEdges : List Text := knownLayouts.flatMap fun e => e.1.filterMap HostMatcher.edge?

/-- Every known matcher has a domain, and no `www` label is part of it. -/
theorem domain?_knownLayouts : ∀ e ∈ knownLayouts, ∀ m ∈ e.1,
    (m.domain?.any fun domain => (HostName.labels domain).all (· ≠ "www".toList)) = true := by
  decide +kernel

theorem not_mem_labels_agencyDomains : ∀ domain ∈ Vocabulary.agencyDomains, "www".toList ∉ HostName.labels domain := by
  decide +kernel

/-- At each of these hosts the provider is recognized either without a label in front or with one. -/
theorem recognizes_edge : ∀ e ∈ knownLayouts, ∀ m ∈ e.1, ∀ host ∈ m.edge?,
    e.1.any (·.recognizes host) = !e.1.any (·.recognizes (HostName.underWww 1 host)) := by
  decide +kernel

theorem recognizes_knownProviders {p : Provider} (hp : p ∈ knownProviders) {host : Text} {a b : Nat}
    (h : host ∈ knownEdges → (a = 0 ↔ b = 0)) :
    p.recognizes (HostName.underWww a host) = p.recognizes (HostName.underWww b host) := by
  obtain ⟨e, he, rfl⟩ := List.mem_map.1 hp
  have hmatcher : ∀ m ∈ e.1, m.recognizes (HostName.underWww a host) = m.recognizes (HostName.underWww b host) := by
    intro m hm
    obtain ⟨domain, hd, hlabels⟩ := (Option.any_eq_true _ _).1 (domain?_knownLayouts e he m hm)
    have hwww : "www".toList ∉ HostName.labels domain := fun hmem => by simpa using List.all_eq_true.1 hlabels _ hmem
    refine HostMatcher.recognizes_underWww hd hwww fun hedge => h ?_
    exact List.mem_flatMap.2 ⟨e, he, List.mem_filterMap.2 ⟨m, hm, hedge⟩⟩
  show e.1.any _ = e.1.any _
  rw [Bool.eq_iff_iff, List.any_eq_true, List.any_eq_true]
  exact exists_congr fun m => and_congr_right fun hm => by rw [hmatcher m hm]

theorem recognizes_iff_find? {p : Provider} (hp : p ∈ knownProviders) {host : Text} :
    p.recognizes host = true ↔ Registry.find? knownProviders host = some p :=
  ⟨find?_knownProviders hp, List.find?_some (p := fun q : Provider => q.recognizes host)⟩

/-- At these hosts it makes a difference which provider is found that a label stands in front. -/
theorem find?_knownEdges {host : Text} (h : host ∈ knownEdges) :
    Registry.find? knownProviders host ≠ Registry.find? knownProviders (HostName.underWww 1 host) := by
  obtain ⟨e, he, hmem⟩ := List.mem_flatMap.1 h
  obtain ⟨m, hm, hedge⟩ := List.mem_filterMap.1 hmem
  obtain ⟨p, hp, hdiffer⟩ : ∃ p ∈ knownProviders, p.recognizes host = !p.recognizes (HostName.underWww 1 host) :=
    ⟨_, List.mem_map_of_mem he, recognizes_edge e he m hm host hedge⟩
  intro heq
  have hsame : p.recognizes host = p.recognizes (HostName.underWww 1 host) := by
    rw [Bool.eq_iff_iff, recognizes_iff_find? hp, recognizes_iff_find? hp, heq]
  rw [hsame] at hdiffer
  exact Bool.not_ne_self _ hdiffer.symm

/-- Behind two numbers of `www` labels the same provider is found, unless the host is one at which the labels make a
difference and only one of the numbers is zero. -/
theorem find?_underWww_iff {host : Text} {a b : Nat} :
    Registry.find? knownProviders (HostName.underWww a host) =
      Registry.find? knownProviders (HostName.underWww b host) ↔ (host ∈ knownEdges → (a = 0 ↔ b = 0)) := by
  refine ⟨fun hfind hedge => ?_, fun h => List.find?_congr fun p hp => recognizes_knownProviders hp h⟩
  have hone : ∀ n, Registry.find? knownProviders (HostName.underWww (n + 1) host) =
      Registry.find? knownProviders (HostName.underWww 1 host) :=
    fun n => List.find?_congr fun p hp => recognizes_knownProviders hp fun _ => by simp
  have hdiffer := find?_knownEdges hedge
  cases a with
  | zero =>
    cases b with
    | zero => exact Iff.rfl
    | succ b => exact absurd (hfind.trans (hone b)) hdiffer
  | succ a =>
    cases b with
    | zero => exact absurd (hfind.symm.trans (hone a)) hdiffer
    | succ b => exact iff_of_false (Nat.succ_ne_zero a) (Nat.succ_ne_zero b)

theorem ofHost?_underWww (n : Nat) (host : Text) : Agency.ofHost? (HostName.underWww n host) = Agency.ofHost? host := by
  unfold Agency.ofHost?
  refine congrArg (Option.map Agency.mk) (List.find?_congr fun domain hdomain => ?_)
  exact HostName.isWithin_underWww (not_mem_labels_agencyDomains domain hdomain) n host

/-! ## Hosts of posting URLs -/

/-- The host of a URL of the web is not empty, and its posting URL has that host in small letters without one leading
`www` label. What is left is empty only for the host `www.`, and it begins with another such label exactly if the host
begins with two of them. URLs whose hosts only differ in how many of these labels stand in front belong to the same
agency; and they are found to be of the same provider unless the rest of the host is one at which the labels make a
difference and just one of the two posting URLs has kept some. -/
theorem posting_host_www {t : Text} {w : Url} (h : Url.read t = .ok (some w)) :
    let host := Text.lower w.host
    let u := PostingUrl.ofUrl w
    PostingUrl.read? t = some u ∧ w.host ≠ [] ∧
    (u.host = [] ↔ host = "www.") ∧ ("www.".toList <+: u.host ↔ "www.www.".toList <+: host) ∧
    ∀ (w' : Url) (bare : Text) (m n : Nat), ¬"www.".toList <+: bare →
      host = HostName.underWww m bare → Text.lower w'.host = HostName.underWww n bare →
        let u' := PostingUrl.ofUrl w'
        Agency.ofHost? u.host = Agency.ofHost? u'.host ∧
        (Registry.find? knownProviders u.host = Registry.find? knownProviders u'.host ↔
          (bare ∈ knownEdges → (m ≤ 1 ↔ n ≤ 1))) := by
  intro host u
  obtain ⟨name, hname⟩ := Url.exists_read_host h
  have hne : w.host ≠ [] := (Host.of_read hname).1
  have hhost : host ≠ [] := fun hnil => hne (List.map_eq_nil_iff.1 hnil)
  refine ⟨PostingUrl.read?_eq_some_iff.2 ⟨w, h, rfl⟩, hne, HostName.withoutWww_eq_nil_iff hhost,
    HostName.www_prefix_withoutWww_iff, ?_⟩
  intro w' bare m n hbare hm hn u'
  have hu : u.host = HostName.underWww (m - 1) bare := by
    rw [← HostName.withoutWww_underWww hbare, ← hm]
    rfl
  have hu' : u'.host = HostName.underWww (n - 1) bare := by
    rw [← HostName.withoutWww_underWww hbare, ← hn]
    rfl
  rw [hu, hu', ofHost?_underWww, ofHost?_underWww, find?_underWww_iff, Nat.sub_eq_zero_iff_le, Nat.sub_eq_zero_iff_le]
  exact ⟨rfl, Iff.rfl⟩

/-- Of three labels two are left, and the provider is found as it is without any. -/
theorem posting_host_www_indeed :
    let w : Url := ⟨.https, [], "www.www.www.indeed.com", none, ["viewjob"], some "jk=1", none⟩
    let u := PostingUrl.ofUrl w
    Url.read "https://WWW.www.www.Indeed.com/viewjob?jk=1" = .ok (some w) ∧ u.host = "www.www.indeed.com" ∧
      Registry.find? knownProviders u.host =
        Registry.find? knownProviders (PostingUrl.ofUrl { w with host := "indeed.com" }).host := by
  intro w u
  have hread : Url.read "https://WWW.www.www.Indeed.com/viewjob?jk=1" = .ok (some w) := by decide +kernel
  obtain ⟨-, -, -, -, hlabels⟩ := posting_host_www hread
  obtain ⟨-, hfind⟩ := hlabels { w with host := "indeed.com" } "indeed.com" 3 0 (by decide) (by decide) (by decide)
  have hedge : "indeed.com".toList ∉ knownEdges := by decide +kernel
  exact ⟨hread, by decide, hfind.2 fun hmem => absurd hmem hedge⟩

/-- Nothing is left of a host that is one label; and a host with two labels keeps one, which makes it a host of the
provider's customers where the host with one label is the provider's own. -/
theorem posting_host_www_twice :
    (PostingUrl.read? "https://www./jobs/1").map PostingUrl.host = some [] ∧
    (PostingUrl.read? "https://www.www.lever.co/acme/1").map PostingUrl.host = some "www.lever.co".toList ∧
    (PostingUrl.read? "https://www.lever.co/acme/1").map PostingUrl.host = some "lever.co".toList ∧
    (Registry.find? knownProviders "www.lever.co").map Provider.name = some "lever".toList ∧
    (Registry.find? knownProviders "lever.co").map Provider.name = none := by
  decide +kernel

end JobPosting

import JobPosting.Proofs.Recognition

/-!
# Domains end at labels

Hosts are compared from their ends, as texts; but what counts are labels. A host lies within a domain exactly if its last
labels are those of the domain, so that a name that only looks like the domain is none of its hosts, and domains are
ordered like lists by their ends. The patterns of the known providers are no different: each is the written form of the
hosts below a domain.

* `HostName.labels_inj` : a host can be told from its labels.
* `Pattern.foundIn_below_iff` : which hosts lie below a domain.
* `Pattern.writtenBelow` : the written form of a pattern for the hosts below a domain; `Pattern.print_below` and
  `Pattern.read_writtenBelow` say that it is written and read so.
* `Pattern.exists_below` : the patterns of the known providers.
* `label_boundaries` : all of this, of hosts and labels.
-/

namespace JobPosting

namespace HostName

variable {d e host : Text}

theorem labels_inj : labels d = labels e ↔ d = e :=
  ⟨Text.split_inj, congrArg labels⟩

theorem isWithin_self (host : Text) : isWithin host host = true := isWithin_iff.2 (.inl rfl)

theorem isWithin_trans (hd : isWithin d e = true) (he : isWithin e host = true) : isWithin d host = true := by
  rw [isWithin_iff_labels] at hd he ⊢
  exact hd.trans he

theorem isWithin_antisymm (hd : isWithin d e = true) (he : isWithin e d = true) : d = e := by
  rw [isWithin_iff_labels] at hd he
  exact labels_inj.1 (hd.eq_of_length_le he.length_le)

end HostName

/-! ## Patterns for the hosts below a domain -/

namespace Pattern

theorem literalEnd?_below (domain : Text) : literalEnd? (below domain) = some ('.' :: domain) := by
  unfold below
  induction ('.' :: domain : Text) with
  | nil => rfl
  | cons c r ih =>
    rw [List.map_cons, List.cons_append, literalEnd?, ih]
    rfl

/-- A pattern of characters and the end of the text is told by these characters. -/
theorem eq_of_literalEnd? {pattern : Pattern} {t : Text} (h : literalEnd? pattern = some t) :
    pattern = t.map (fun c => .sign (.letter c)) ++ [.sign .last] := by
  induction pattern generalizing t with
  | nil => cases h
  | cons part r ih =>
    unfold literalEnd? at h
    split at h
    · rename_i hr
      cases h
      exact hr
    · rename_i c _ hr
      obtain ⟨rfl, rfl⟩ := List.cons.inj hr
      obtain ⟨u, hu, rfl⟩ := Option.map_eq_some_iff.1 h
      rw [ih hu, List.map_cons, List.cons_append]
    · cases h

/-- The pattern for the hosts below a domain is found in a host exactly if the labels of the domain are its last ones,
and not all. -/
theorem foundIn_below_iff {domain host : Text} :
    (below domain).foundIn host = true ↔
      HostName.labels domain <:+ HostName.labels host ∧ HostName.labels domain ≠ HostName.labels host := by
  rw [foundIn_iff (literalEnd?_below domain), HostName.suffix_iff_isWithin, HostName.isWithin_iff_labels,
    Ne, Ne, HostName.labels_inj, eq_comm]

/-! ### Written form -/

/-- The characters with a meaning of their own in written patterns, points apart: those of the patterns here, and the marks
of repetitions, classes and counts, of which there are none. -/
def specials : Text := "\\^$()|*+?[]\x7b\x7d"

/-- The written form of the pattern for the hosts below a domain. -/
def writtenBelow (domain : Text) : Text :=
  "\\.".toList ++ domain.flatMap (fun c => if c = '.' then ['\\', '.'] else [c]) ++ ['$']

theorem print_below (domain : Text) : (below domain).print = writtenBelow domain := by
  have hletters : ∀ t : Text, print (t.map fun c => .sign (.letter c)) =
      t.flatMap fun c => if c = '.' then ['\\', '.'] else [c] := by
    intro t
    induction t with
    | nil => rfl
    | cons c t ih =>
      rw [List.flatMap_cons, ← ih]
      rfl
  rw [below, print, List.flatMap_append]
  rw [show (List.map (fun c => Part.sign (.letter c)) ('.' :: domain)).flatMap printPart = _ from hletters _]
  rfl

theorem readSigns_letter {c : Char} (h : c ∉ specials) (r : Text) :
    readSigns ((if c = '.' then ['\\', '.'] else [c]) ++ r) = .inl (.letter c) :: readSigns r := by
  by_cases hc : c = '.'
  · rw [if_pos hc, hc]
    rfl
  · have hne : ∀ d ∈ specials, c ≠ d := fun d hd => (ne_of_mem_of_not_mem hd h).symm
    have hchoice : c ≠ '(' ∧ c ≠ ')' ∧ c ≠ '|' := ⟨hne _ (by decide), hne _ (by decide), hne _ (by decide)⟩
    rw [if_neg hc, List.singleton_append, readSigns]
    · simp [hc, hne '^' (by decide), hne '$' (by decide), hchoice]
    · exact fun _ _ hescape _ => hne _ (by decide) hescape

/-- Signs outside a choice are parts of their own. -/
theorem foldl_step_inl (signs : List Sign) (parts : List Part) :
    (signs.map Sum.inl).foldl Open.step ⟨parts, none⟩ = ⟨(signs.map Part.sign).reverse ++ parts, none⟩ := by
  induction signs generalizing parts with
  | nil => rfl
  | cons s signs ih =>
    rw [List.map_cons, List.foldl_cons]
    change (signs.map Sum.inl).foldl Open.step ⟨.sign s :: parts, none⟩ = _
    rw [ih, List.map_cons, List.reverse_cons, List.append_assoc]
    rfl

theorem read_writtenBelow {domain : Text} (h : ∀ c ∈ domain, c ∉ specials) :
    read (writtenBelow domain) = below domain := by
  have hletters : readSigns (domain.flatMap (fun c => if c = '.' then ['\\', '.'] else [c]) ++ ['$']) =
      (domain.map Sign.letter ++ [Sign.last]).map .inl := by
    induction domain with
    | nil => rfl
    | cons c t ih =>
      obtain ⟨hc, ht⟩ := List.forall_mem_cons.1 h
      rw [List.flatMap_cons, List.append_assoc, readSigns_letter hc, ih ht]
      rfl
  have hsigns : readSigns (writtenBelow domain) =
      ((Sign.letter '.' :: domain.map Sign.letter) ++ [Sign.last]).map .inl := by
    rw [writtenBelow, List.append_assoc]
    exact congrArg (.inl (.letter '.') :: ·) hletters
  rw [read, hsigns, foldl_step_inl]
  simp [below]

/-! ### Patterns of the known providers -/

/-- Small letters of ASCII, points and hyphens. -/
def isDomainChar (c : Char) : Bool := c.isLower || c = '.' || c = '-'

theorem not_mem_specials {c : Char} (h : isDomainChar c = true) : c ∉ specials := by
  have hall : ∀ d ∈ specials, isDomainChar d = false := by decide
  intro hc
  rw [hall c hc] at h
  cases h

/-- Every known matcher has a domain of such characters. -/
theorem domain?_isDomainChar : ∀ e ∈ knownLayouts, ∀ m ∈ e.1, (m.domain?.any (List.all · isDomainChar)) = true := by
  decide +kernel

/-- Every pattern of a known provider is one for the hosts below a domain. -/
theorem exists_below {p : Provider} (hp : p ∈ knownProviders) {pattern : Pattern} (h : .pattern pattern ∈ p.hosts) :
    ∃ domain : Text, (∀ c ∈ domain, c ∉ specials) ∧ pattern = below domain := by
  obtain ⟨e, he, rfl⟩ := List.mem_map.1 hp
  obtain ⟨domain, hdomain, hall⟩ := (Option.any_eq_true _ _).1 (domain?_isDomainChar e he _ h)
  refine ⟨domain, fun c hc => not_mem_specials (List.all_eq_true.1 hall c hc), ?_⟩
  unfold HostMatcher.domain? at hdomain
  dsimp only at hdomain
  split at hdomain
  · rename_i hend
    cases hdomain
    exact eq_of_literalEnd? hend
  · cases hdomain

end Pattern

/-! ## Hosts and labels -/

/-- Hosts are compared label by label. A host lies within a domain exactly if the labels of the domain are its last ones,
so that every host lies within itself, a host within a domain lies within whatever the domain lies within, no two hosts lie
within each other, and of two domains that a host lies within one lies within the other. Each pattern of a known provider
is the written form, with the points escaped, of the hosts below a domain, and is found in a host exactly if the labels of
the domain are its last ones, and not all. -/
theorem label_boundaries :
    (∀ domain host : Text, HostName.isWithin domain host = true ↔ HostName.labels domain <:+ HostName.labels host) ∧
    (∀ host : Text, HostName.isWithin host host = true) ∧
    (∀ d e host : Text, HostName.isWithin d e = true → HostName.isWithin e host = true →
      HostName.isWithin d host = true) ∧
    (∀ d e : Text, HostName.isWithin d e = true → HostName.isWithin e d = true → d = e) ∧
    (∀ d e host : Text, HostName.isWithin d host = true → HostName.isWithin e host = true →
      HostName.isWithin d e = true ∨ HostName.isWithin e d = true) ∧
    (∀ domain host : Text, (∀ c ∈ domain, c ∉ Pattern.specials) →
      ((Pattern.read (Pattern.writtenBelow domain)).foundIn host = true ↔
        HostName.labels domain <:+ HostName.labels host ∧ HostName.labels domain ≠ HostName.labels host)) ∧
    ∀ p ∈ knownProviders, ∀ pattern, .pattern pattern ∈ p.hosts → ∃ domain : Text,
      pattern.print = Pattern.writtenBelow domain ∧ Pattern.read pattern.print = pattern ∧
      ∀ host, (HostMatcher.pattern pattern).recognizes host = true ↔
        HostName.labels domain <:+ HostName.labels host ∧ HostName.labels domain ≠ HostName.labels host := by
  refine ⟨fun _ _ => HostName.isWithin_iff_labels, HostName.isWithin_self, fun _ _ _ => HostName.isWithin_trans,
    fun _ _ => HostName.isWithin_antisymm, fun _ _ _ => HostName.isWithin_or_isWithin, fun domain host hplain => ?_,
    fun p hp pattern hpattern => ?_⟩
  · rw [Pattern.read_writtenBelow hplain]
    exact Pattern.foundIn_below_iff
  · obtain ⟨domain, hplain, rfl⟩ := Pattern.exists_below hp hpattern
    refine ⟨domain, Pattern.print_below domain, ?_, fun host => Pattern.foundIn_below_iff⟩
    rw [Pattern.print_below, Pattern.read_writtenBelow hplain]

/-- A name that only looks like a domain, the domain itself, and a host with nothing but an empty label more. -/
theorem label_boundaries_lever :
    (HostName.isWithin "lever.co" "jobs.acme.lever.co" = true ∧ HostName.isWithin "lever.co" "notlever.co" = false ∧
      HostName.isWithin "acme.lever.co" "lever.co" = false ∧
      (HostName.isWithin "lever.co" "acme.lever.co" = true ∨ HostName.isWithin "acme.lever.co" "lever.co" = true)) ∧
    ∃ p ∈ knownProviders, ∃ pattern, .pattern pattern ∈ p.hosts ∧ Pattern.read "\\.lever\\.co$" = pattern ∧
      pattern.foundIn ".lever.co" = true ∧ pattern.foundIn "lever.co" = false ∧ pattern.foundIn "notlever.co" = false := by
  obtain ⟨hlabels, -, htrans, hanti, hrelated, hwritten, hknown⟩ := label_boundaries
  have hinner : HostName.isWithin "acme.lever.co" "jobs.acme.lever.co" = true := (hlabels _ _).2 (by decide)
  have houter : HostName.isWithin "lever.co" "acme.lever.co" = true := (hlabels _ _).2 (by decide)
  refine ⟨⟨htrans _ _ _ houter hinner, Bool.eq_false_iff.2 fun h => absurd ((hlabels _ _).1 h) (by decide),
    Bool.eq_false_iff.2 fun h => absurd (hanti _ _ houter h) (by decide),
    hrelated _ _ _ (htrans _ _ _ houter hinner) hinner⟩, ?_⟩
  have hlever : ∃ p ∈ knownProviders, .pattern (Pattern.below "lever.co") ∈ p.hosts := by decide +kernel
  obtain ⟨p, hp, hmem⟩ := hlever
  obtain ⟨-, -, hread, -⟩ := hknown p hp _ hmem
  have hfound : ∀ host : Text, (Pattern.below "lever.co").foundIn host = true ↔ _ :=
    fun host => hwritten "lever.co" host (by decide)
  refine ⟨p, hp, _, hmem, hread, (hfound _).2 (by decide), ?_, ?_⟩
  · exact Bool.eq_false_iff.2 fun h => absurd ((hfound _).1 h) (by decide)
  · exact Bool.eq_false_iff.2 fun h => absurd ((hfound _).1 h) (by decide)

end JobPosting

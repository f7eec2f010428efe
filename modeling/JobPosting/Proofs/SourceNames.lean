import JobPosting.Proofs.DomainLetters
import JobPosting.Referral

/-!
# Names of referral sources

The name of a referral source is in small letters and has no point in it. It is the first label of a host, or what stands
before the first point of a text that is no URL, and in the second case it may end in blanks or read as a URL itself: the
value is trimmed and read as a URL before the point is looked for, and not again. A name without blanks at its ends that
is no URL stands for itself.

* `Referral.site_eq_self_or` : the site of a value is the value itself or the host of a URL.
* `Referral.IsPlain` : a text that neither trimming nor reading it as a URL changes.
* `Referral.sourceOf?_eq_self_iff` : the plain names are those that stand for themselves.
* `Referral.sourceOf?_again` : what a name of a source consists of, and what it stands for itself.
-/

namespace JobPosting.Referral

/-! ## Sites -/

theorem site_eq_self_or (text : Text) :
    site text = text ∨ ∃ u, Url.read text = .ok (some u) ∧ site text = u.host := by
  unfold site
  split
  · split
    · rename_i u hu
      exact .inr ⟨u, hu, rfl⟩
    · exact .inl rfl
  · exact .inl rfl

/-- Only a text with a slash begins like a URL. -/
theorem site_eq_self_of_not_mem {text : Text} (h : '/' ∉ text) : site text = text := by
  unfold site
  rw [if_neg]
  intro hbegins
  obtain ⟨beginning, hmem, hbegin⟩ := List.any_eq_true.1 hbegins
  have hslash : ∀ b ∈ urlBeginnings, '/' ∈ b := by decide
  exact h ((List.isPrefixOf_iff_prefix.1 hbegin).subset (hslash beginning hmem))

/-! ## Plain texts -/

/-- A text that neither trimming nor reading it as a URL changes. -/
structure IsPlain (text : Text) : Prop where
  trim : Text.trim text = text
  site : site text = text

/-- The label of a site that names a source. -/
def label (host : Text) : Text := HostName.firstLabel (HostName.withoutWww host)

theorem mem_of_mem_label {host : Text} {c : Char} (hc : c ∈ label host) : c ∈ host :=
  HostName.mem_of_mem_withoutWww (List.takeWhile_subset _ hc)

theorem point_not_mem_label (host : Text) : '.' ∉ label host := Text.not_mem_before '.' _

theorem label_eq_self {text : Text} (h : '.' ∉ text) : label text = text := by
  have hwww : ¬"www.".toList <+: text := fun hbegin => h (hbegin.subset (by decide))
  unfold label HostName.firstLabel
  rw [HostName.withoutWww_eq_self hwww, Text.before_eq_self h]

theorem isPlain_label_host {text : Text} {u : Url} (h : Url.read text = .ok (some u)) : IsPlain (label u.host) := by
  obtain ⟨name, hname⟩ := Url.exists_read_host h
  have hblank : ∀ c ∈ label u.host, isBlank c = false := fun c hc =>
    Text.isBlank_eq_false_of_isVisible (Host.visible_of_read hname c (mem_of_mem_label hc))
  constructor
  · refine Text.trim_eq_self_iff.2 ⟨fun hhead => ?_, fun hlast => ?_⟩
    · obtain ⟨c, hc, hb⟩ := Option.map_eq_some_iff.1 hhead
      rw [hblank c (List.mem_of_head? hc)] at hb
      cases hb
    · obtain ⟨c, hc, hb⟩ := Option.map_eq_some_iff.1 hlast
      rw [hblank c (List.mem_of_getLast? hc)] at hb
      cases hb
  · exact site_eq_self_of_not_mem fun hmem => (Host.unmarked_of_read hname).not_mem rfl (mem_of_mem_label hmem)

/-- The usual name of a source whose first label is this. -/
def usual (base : Text) : Text := (sourceName? base).getD base

theorem sourceOf?_eq_some_iff {value name : Text} :
    sourceOf? value = some name ↔
      label (site (Text.lowercase (Text.trim value))) ≠ [] ∧
        usual (label (site (Text.lowercase (Text.trim value)))) = name := by
  unfold sourceOf?
  rw [Option.map_eq_some_iff]
  constructor
  · rintro ⟨base, hbase, rfl⟩
    obtain ⟨rfl, hne⟩ := Text.nonEmpty?_eq_some_iff.1 hbase
    exact ⟨hne, rfl⟩
  · rintro ⟨hne, rfl⟩
    exact ⟨_, Text.nonEmpty?_eq_some_iff.2 ⟨rfl, hne⟩, rfl⟩

/-- The usual names are names as they should be, and they stand for themselves. -/
theorem sourceSpellings_usual : ∀ e ∈ Vocabulary.sourceSpellings,
    e.2 ≠ [] ∧ '.' ∉ e.2 ∧ (∀ c ∈ e.2, isSmall c = true) ∧ Text.trim e.2 = e.2 ∧ site e.2 = e.2 ∧ usual e.2 = e.2 := by
  decide +kernel

/-- What the name of a source is made of: it is a usual name, or a label that has none. -/
theorem usual_cases (base : Text) :
    usual base = base ∨
      usual base ≠ [] ∧ '.' ∉ usual base ∧ (∀ c ∈ usual base, isSmall c = true) ∧ IsPlain (usual base) ∧
        usual (usual base) = usual base := by
  cases h : sourceName? base with
  | none =>
    left
    rw [usual, h]
    rfl
  | some name =>
    right
    obtain ⟨front, back, hl, -⟩ := List.lookup_eq_some_iff.1 h
    have hmem : (base, name) ∈ Vocabulary.sourceSpellings := hl ▸ List.mem_append_right front List.mem_cons_self
    obtain ⟨hne, hpoint, hsmall, htrim, hsite, husual⟩ := sourceSpellings_usual (base, name) hmem
    have hname : usual base = name := by
      rw [usual, h]
      rfl
    rw [hname]
    exact ⟨hne, hpoint, hsmall, ⟨htrim, hsite⟩, husual⟩

/-! ## Names -/

theorem isSmall_of_mem_site {value : Text} {c : Char} (hc : c ∈ site (Text.lowercase (Text.trim value))) :
    isSmall c = true := by
  obtain hsame | ⟨u, hu, hhost⟩ := site_eq_self_or (Text.lowercase (Text.trim value))
  · rw [hsame] at hc
    exact Text.isSmall_of_mem_lowercase hc
  · rw [hhost] at hc
    obtain ⟨name, hname⟩ := Url.exists_read_host hu
    exact Host.isSmall_of_read hname hc

/-- A name of a source: not empty, in small letters, and without points. -/
structure IsName (name : Text) : Prop where
  ne_nil : name ≠ []
  point : '.' ∉ name
  small : ∀ c ∈ name, isSmall c = true

variable {value name : Text}

theorem isName_of_sourceOf? (h : sourceOf? value = some name) : IsName name := by
  obtain ⟨hne, rfl⟩ := sourceOf?_eq_some_iff.1 h
  obtain hbase | ⟨hne', hpoint, hsmall, -⟩ := usual_cases (label (site (Text.lowercase (Text.trim value))))
  · rw [hbase]
    exact ⟨hne, point_not_mem_label _, fun c hc => isSmall_of_mem_site (mem_of_mem_label hc)⟩
  · exact ⟨hne', hpoint, hsmall⟩

theorem usual_usual (base : Text) : usual (usual base) = usual base := by
  obtain hbase | ⟨-, -, -, -, husual⟩ := usual_cases base
  · rw [hbase, hbase]
  · exact husual

/-- The plain names are those that stand for themselves. -/
theorem sourceOf?_eq_self_iff (h : sourceOf? value = some name) : sourceOf? name = some name ↔ IsPlain name := by
  have hname := isName_of_sourceOf? h
  have htrimmed : ∀ c ∈ Text.trim name, c ∈ name := fun c hc => (Text.trim_sublist name).subset hc
  have hlower : Text.lowercase (Text.trim name) = Text.trim name :=
    Text.lowercase_eq_self fun c hc => hname.small c (htrimmed c hc)
  constructor
  · intro hagain
    obtain ⟨-, husual⟩ := sourceOf?_eq_some_iff.1 hagain
    rw [hlower] at husual
    obtain hbase | ⟨-, -, -, hplain, -⟩ := usual_cases (label (site (Text.trim name)))
    · rw [hbase] at husual
      obtain hsame | ⟨u, hu, hhost⟩ := site_eq_self_or (Text.trim name)
      · rw [hsame, label_eq_self fun hmem => hname.point (htrimmed _ hmem)] at husual
        exact ⟨husual, by rwa [husual] at hsame⟩
      · rw [← husual, hhost]
        exact isPlain_label_host hu
    · rwa [husual] at hplain
  · intro hplain
    obtain ⟨-, husual⟩ := sourceOf?_eq_some_iff.1 h
    refine sourceOf?_eq_some_iff.2 ?_
    rw [hlower, hplain.trim, hplain.site, label_eq_self hname.point, ← husual, usual_usual]
    exact ⟨husual ▸ hname.ne_nil, rfl⟩

/-- A value without points, or one that is read as a URL, has a plain name. -/
theorem isPlain_of_sourceOf? (h : sourceOf? value = some name)
    (hvalue : '.' ∉ value ∨ site (Text.lowercase (Text.trim value)) ≠ Text.lowercase (Text.trim value)) :
    IsPlain name := by
  obtain ⟨-, rfl⟩ := sourceOf?_eq_some_iff.1 h
  obtain hbase | ⟨-, -, -, hplain, -⟩ := usual_cases (label (site (Text.lowercase (Text.trim value))))
  · rw [hbase]
    obtain hsame | ⟨u, hu, hhost⟩ := site_eq_self_or (Text.lowercase (Text.trim value))
    · have hpoint : '.' ∉ Text.lowercase (Text.trim value) := fun hmem =>
        hvalue.elim (fun hno => hno ((Text.trim_sublist value).subset (Text.point_mem_lowercaseAfter.1 hmem)))
          fun hne => hne hsame
      rw [hsame, label_eq_self hpoint]
      exact ⟨Text.trim_lowercase_trim value, hsame⟩
    · rw [hhost]
      exact isPlain_label_host hu
  · exact hplain

/-- The name of a source is not empty, has no point, and is in small letters. It stands for itself exactly if it has no
blanks at its ends and is not read as a URL; that is so if the value has no point, or is read as a URL. What a name
stands for, if it is anything, stands for itself. -/
theorem sourceOf?_again (h : sourceOf? value = some name) :
    let text := Text.lowercase (Text.trim value)
    name ≠ [] ∧ '.' ∉ name ∧ Text.lowercase name = name ∧
    (sourceOf? name = some name ↔ Text.trim name = name ∧ site name = name) ∧
    ('.' ∉ value ∨ site text ≠ text → Text.trim name = name ∧ sourceOf? name = some name) ∧
    ∀ again, sourceOf? name = some again → Text.trim again = again ∧ sourceOf? again = some again := by
  intro text
  have hname := isName_of_sourceOf? h
  refine ⟨hname.ne_nil, hname.point, Text.lowercase_eq_self hname.small, ?_, fun hvalue => ?_, fun again hagain => ?_⟩
  · exact (sourceOf?_eq_self_iff h).trans
      ⟨fun hplain => ⟨hplain.trim, hplain.site⟩, fun ⟨htrim, hsite⟩ => ⟨htrim, hsite⟩⟩
  · have hplain := isPlain_of_sourceOf? h hvalue
    exact ⟨hplain.trim, (sourceOf?_eq_self_iff h).2 hplain⟩
  · have hplain := isPlain_of_sourceOf? hagain (.inl hname.point)
    exact ⟨hplain.trim, (sourceOf?_eq_self_iff hagain).2 hplain⟩

/-- The host of a URL, and a name that goes by another one. -/
theorem sourceOf?_again_lnkd :
    let value : Text := " HTTPS://www.LNKD.in/x "
    sourceOf? value = some "linkedin".toList ∧ Text.lowercase "linkedin" = "linkedin".toList ∧
      sourceOf? "linkedin" = some "linkedin".toList := by
  intro value
  have hsource : sourceOf? value = some "linkedin".toList := by decide +kernel
  obtain ⟨-, -, hlower, -, hagain, -⟩ := sourceOf?_again hsource
  exact ⟨hsource, hlower, (hagain (.inr (by decide +kernel))).2⟩

/-- A blank in front of the first point is left at the end of the name, or as all of it, and what is no URL because of
its port is one without it. -/
theorem sourceOf?_again_blank :
    (sourceOf? "linkedin .com" = some "linkedin ".toList ∧ Text.trim "linkedin " ≠ "linkedin ".toList ∧
      sourceOf? "linkedin " = some "linkedin".toList) ∧
    (sourceOf? "www. .b" = some " ".toList ∧ Text.IsBlank " " ∧ sourceOf? " " = none) ∧
    sourceOf? "https://linkedin.com:port/x" = some "https://linkedin".toList ∧
      sourceOf? "https://linkedin" = some "linkedin".toList := by
  decide +kernel

end JobPosting.Referral

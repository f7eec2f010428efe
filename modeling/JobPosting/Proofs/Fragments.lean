import JobPosting.Proofs.Identifiers
import JobPosting.Proofs.Inversion

/-!
# Fragments

What stands behind a `#` is read as the fragment of a URL and stays at the end of its written form. Host, segments and
query do not depend on it, and so no field of a record does but the identifier: where nothing in the URL identifies the
posting, the fingerprint of the page does, and a page without a query is fingerprinted together with its fragment.

* `Url.of_readWeb`, `Url.exists_readWeb` : what the parts of a URL of the web are read from.
* `Url.read_fragment` : a text with a fragment is the URL of the text before it, with the fragment.
* `PostingUrl.read?_fragment` : the posting URLs of the two texts differ in nothing but their written form.
* `PostingUrl.ownId?` : the identifier in the path or the query; the written form has no say in it.
* `deduceWith_ownId?`, `deduceWith_href` : all that the written form of a URL has a say in is the identifier, and only by
  its fingerprint.
* `deduce_fragment` : what the records of the two texts have in common.
* `deduce_fragment_careers` : a fragment that makes another identifier.
-/

namespace JobPosting

/-! ## Dropping what stands first -/

theorem dropWhile_append_cons {α : Type} {p : α → Bool} {c : α} (hc : p c = false) (s t : List α) :
    (s ++ c :: t).dropWhile p = s.dropWhile p ++ c :: t := by
  induction s with
  | nil => simp [hc]
  | cons a s ih =>
    by_cases ha : p a = true
    · simpa [ha] using ih
    · simp [ha]

theorem mem_dropWhile {α : Type} {p : α → Bool} {c : α} (hc : p c = false) {t : List α} (h : c ∈ t) :
    c ∈ t.dropWhile p := by
  obtain ⟨a, b, rfl⟩ := List.append_of_mem h
  rw [dropWhile_append_cons hc]
  exact List.mem_append_right _ List.mem_cons_self

theorem reverse_dropWhile_reverse {α : Type} {p : α → Bool} {t : List α} (h : ∀ c ∈ t.getLast?, p c = false) :
    (t.reverse.dropWhile p).reverse = t := by
  cases hl : t.getLast? with
  | none =>
    rw [List.getLast?_eq_none_iff.1 hl]
    rfl
  | some c =>
    obtain ⟨s, rfl⟩ := List.getLast?_eq_some_iff.1 hl
    have hc : p c = false := h c hl
    simp [hc]

namespace Text

/-- What stands before the first separator does not depend on what follows it. -/
theorem before_append_sep (sep : Char) (a b : Text) : before sep (a ++ sep :: b) = before sep a := by
  induction a with
  | nil => simp [before]
  | cons c a ih =>
    by_cases hc : c = sep
    · simp [before, hc]
    · simpa [before, hc] using ih

theorem cut?_eq_none {sep : Char} {t : Text} (h : sep ∉ t) : cut? sep t = none := by
  rw [Option.eq_none_iff_forall_ne_some]
  rintro ⟨a, b⟩ hab
  obtain ⟨rfl, -⟩ := cut?_eq_some_iff.1 hab
  exact h (List.mem_append_right a List.mem_cons_self)

theorem exists_cut? {sep : Char} {t : Text} (h : sep ∈ t) : ∃ a b, cut? sep t = some (a, b) := by
  obtain ⟨a, b, rfl, ha⟩ := List.eq_append_cons_of_mem h
  exact ⟨a, b, cut?_eq_some_iff.2 ⟨rfl, ha⟩⟩

end Text

/-! ## Reading -/

namespace Url

variable {u f : Text} {w : Url}

/-- What is left of the end of a URL: margins are dropped behind it, and line breaks everywhere. -/
def stripEnd (t : Text) : Text := (t.reverse.dropWhile isMargin).reverse.filter (!isBreak ·)

/-- The encoded fragment of a URL that ends in this text. -/
def fragmentOf (t : Text) : Text := Text.percentEncode fragmentSet (stripEnd t)

/-- What is left of the front of a URL: margins are dropped before it, and line breaks everywhere. -/
def stripFront (t : Text) : Text := (t.dropWhile isMargin).filter (!isBreak ·)

/-- Line breaks are margins that are dropped inside a text as well. -/
theorem isMargin_of_isBreak {c : Char} (h : isBreak c = true) : isMargin c = true := by
  simp only [isBreak, Bool.or_eq_true, decide_eq_true_eq] at h
  rcases h with (rfl | rfl) | rfl <;> decide

theorem strip_mark {mark : Char} (hm : isMargin mark = false) (hb : isBreak mark = false) (t f : Text) :
    strip (t ++ mark :: f) = stripFront t ++ mark :: stripEnd f := by
  unfold strip stripFront stripEnd
  rw [dropWhile_append_cons hm, List.reverse_append, List.reverse_cons, List.append_assoc, List.singleton_append,
    dropWhile_append_cons hm]
  simp [hb]

theorem strip_eq_stripFront (hend : ∀ c ∈ u.getLast?, isMargin c = false) : strip u = stripFront u := by
  have hfront : ∀ c ∈ (u.dropWhile isMargin).getLast?, isMargin c = false := by
    intro c hc
    obtain ⟨s, hs⟩ := List.dropWhile_suffix (l := u) isMargin
    apply hend
    rw [← hs, List.getLast?_append, Option.mem_def.1 hc]
    rfl
  unfold strip stripFront
  rw [reverse_dropWhile_reverse hfront]

theorem not_mem_strip {c : Char} (h : c ∉ u) : c ∉ strip u := by
  intro hc
  apply h
  have hmem := List.mem_reverse.1 (List.mem_filter.1 hc).1
  exact List.dropWhile_subset _ (List.mem_reverse.1 (List.dropWhile_subset _ hmem))

theorem mem_strip {c : Char} (hm : isMargin c = false) (hb : isBreak c = false) (h : c ∈ u) : c ∈ strip u := by
  unfold strip
  rw [List.mem_filter, List.mem_reverse]
  exact ⟨mem_dropWhile hm (List.mem_reverse.2 (mem_dropWhile hm h)), by simp [hb]⟩

/-! ### The scheme -/

/-- A scheme stands before the first colon, and has characters of its own kind only. -/
theorem of_cutScheme? {t scheme rest : Text} (h : cutScheme? t = some (scheme, rest)) :
    ∃ s, t = s ++ ':' :: rest ∧ ∀ c ∈ s, isSchemeChar c = true := by
  unfold cutScheme? at h
  split at h
  · rename_i c s rest' hcut
    split at h
    · rename_i hs
      simp only [Bool.and_eq_true, List.all_eq_true] at hs
      cases h
      refine ⟨c :: s, (Text.cut?_eq_some_iff.1 hcut).1, fun d hd => ?_⟩
      rcases List.mem_cons.1 hd with rfl | hd
      · simp [isSchemeChar, hs.1]
      · exact hs.2 d hd
    · cases h
  · cases h

/-- A mark that stands in no scheme, and everything behind it, plays no part in how the scheme is cut off. -/
theorem cutScheme?_mark {mark : Char} (hne : mark ≠ ':') (hmark : isSchemeChar mark = false) (t f : Text) :
    cutScheme? (t ++ mark :: f) = (cutScheme? t).map fun (scheme, rest) => (scheme, rest ++ mark :: f) := by
  by_cases hcolon : ':' ∈ t
  · obtain ⟨a, b, hab⟩ := Text.exists_cut? hcolon
    obtain ⟨ht, ha⟩ := Text.cut?_eq_some_iff.1 hab
    have hcut : Text.cut? ':' (t ++ mark :: f) = some (a, b ++ mark :: f) :=
      Text.cut?_eq_some_iff.2 ⟨by simp [ht], ha⟩
    unfold cutScheme?
    rw [hab, hcut]
    cases a with
    | nil => rfl
    | cons c s =>
      dsimp only
      split <;> rfl
  · -- A colon behind the mark has the mark before it, which stands in no scheme.
    have hnone : cutScheme? t = none := by
      unfold cutScheme?
      rw [Text.cut?_eq_none hcolon]
    rw [hnone, Option.map_none, Option.eq_none_iff_forall_ne_some]
    rintro ⟨scheme, rest⟩ h
    obtain ⟨s, hs, hchars⟩ := of_cutScheme? h
    have hno : mark ∉ s := fun hmem => absurd (hchars mark hmem) (by simp [hmark])
    rcases List.append_eq_append_iff.1 hs with ⟨b, rfl, hb⟩ | ⟨b, rfl, hb⟩
    · cases b with
      | nil => exact hne (List.cons.inj hb).1
      | cons d b =>
        obtain ⟨rfl, -⟩ := List.cons.inj hb
        exact hno (List.mem_append_right t List.mem_cons_self)
    · cases b with
      | nil => exact hne (List.cons.inj hb).1.symm
      | cons d b =>
        obtain ⟨rfl, -⟩ := List.cons.inj hb
        exact hcolon (List.mem_append_right s List.mem_cons_self)

/-! ### The whole -/

theorem cutPart_of_not_mem {mark : Char} {t : Text} (h : mark ∉ t) : cutPart mark t = (t, none) := by
  unfold cutPart
  rw [Text.cut?_eq_none h]

theorem cutPart_append {mark : Char} {t : Text} (h : mark ∉ t) (r : Text) :
    cutPart mark (t ++ mark :: r) = (t, some r) := by
  unfold cutPart
  rw [Text.cut?_eq_some_iff.2 ⟨rfl, h⟩]

theorem readWeb_fragment (scheme : WebScheme) (front : Text) (query : Option Text) (g : Text) :
    readWeb scheme front query (some g) =
      (readWeb scheme front query none).map fun w =>
        { w with fragment := some (Text.percentEncode fragmentSet g) } := by
  unfold readWeb
  dsimp only
  cases readAuthority (authorityOf (front.dropWhile Path.isSlash)) <;> rfl

/-- What the parts of a URL of the web are read from. -/
theorem of_readWeb {scheme : WebScheme} {front : Text} {query fragment : Option Text}
    (h : readWeb scheme front query fragment = .ok w) :
    (∃ portNumber, readAuthority (authorityOf (front.dropWhile Path.isSlash)) =
      .ok (w.credentials, w.host, portNumber)) ∧
    w.path = Path.read ((front.dropWhile Path.isSlash).dropWhile (!Path.isSlash ·)) ∧
    w.query = query.map (Text.percentEncode querySet) ∧ w.fragment = fragment.map (Text.percentEncode fragmentSet) := by
  unfold readWeb at h
  obtain ⟨⟨credentials, host, portNumber⟩, hauthority, hw⟩ := of_bind_eq_ok h
  cases hw
  exact ⟨⟨portNumber, hauthority⟩, rfl, rfl, rfl⟩

/-- A text that is read as a URL of the web has a scheme of the web. -/
theorem exists_readWeb {t : Text} (h : read t = .ok (some w)) :
    ∃ scheme rest web, cutScheme? (strip t) = some (scheme, rest) ∧ webScheme? scheme = some web ∧
      readWeb web (cutPart '?' (cutPart '#' rest).1).1 (cutPart '?' (cutPart '#' rest).1).2 (cutPart '#' rest).2 =
        .ok w := by
  unfold read at h
  split at h
  · cases h
  · rename_i scheme rest hcut
    dsimp only at h
    split at h
    · rename_i web hweb
      obtain ⟨w', hw, hsame⟩ := of_map_eq_ok h
      cases hsame
      exact ⟨scheme, rest, web, hcut, hweb, hw⟩
    · obtain ⟨_, -, hnone⟩ := of_map_eq_ok h
      cases hnone

/-- A text with a fragment is the URL of the text before it, with the fragment. -/
theorem read_fragment (hu : '#' ∉ u) (hend : ∀ c ∈ u.getLast?, isMargin c = false) (f : Text) :
    read (u ++ '#' :: f) = (read u).map (Option.map fun w => { w with fragment := some (fragmentOf f) }) := by
  unfold read
  rw [strip_mark (by decide) (by decide), ← strip_eq_stripFront hend, cutScheme?_mark (by decide) (by decide)]
  cases hs : cutScheme? (strip u) with
  | none => rfl
  | some p =>
    obtain ⟨scheme, rest⟩ := p
    have hrest : '#' ∉ rest := by
      obtain ⟨s, hstrip, -⟩ := of_cutScheme? hs
      intro hmem
      apply not_mem_strip hu
      rw [hstrip]
      exact List.mem_append_right s (List.mem_cons_of_mem _ hmem)
    dsimp only [Option.map_some]
    rw [cutPart_append hrest, cutPart_of_not_mem hrest]
    dsimp only
    cases webScheme? scheme with
    | none =>
      dsimp only
      cases checkOther scheme (cutPart '?' rest).1 <;> rfl
    | some web =>
      dsimp only
      rw [readWeb_fragment]
      cases readWeb web (cutPart '?' rest).1 (cutPart '?' rest).2 none <;> rfl

/-- A text without `#` is a URL without a fragment, and a question mark in it begins the query. -/
theorem of_read (hu : '#' ∉ u) (h : read u = .ok (some w)) :
    w.fragment = none ∧ ('?' ∈ u → ∃ query, w.query = some query) := by
  obtain ⟨scheme, rest, web, hcut, -, hw⟩ := exists_readWeb h
  obtain ⟨s, hstrip, hchars⟩ := of_cutScheme? hcut
  have hrest : '#' ∉ rest := by
    intro hmem
    apply not_mem_strip hu
    rw [hstrip]
    exact List.mem_append_right s (List.mem_cons_of_mem _ hmem)
  rw [cutPart_of_not_mem hrest] at hw
  obtain ⟨-, -, hquery, hfragment⟩ := of_readWeb hw
  refine ⟨hfragment, fun hmark => ?_⟩
  have hmem : '?' ∈ rest := by
    have hmem := mem_strip (by decide) (by decide) hmark
    rw [hstrip] at hmem
    rcases List.mem_append.1 hmem with hmem | hmem
    · exact absurd (hchars '?' hmem) (by decide)
    · exact (List.mem_cons.1 hmem).resolve_left (by decide)
  obtain ⟨front, query, hq⟩ := Text.exists_cut? hmem
  refine ⟨Text.percentEncode querySet query, ?_⟩
  rw [hquery, cutPart, hq]
  rfl

theorem print_of_fragment (hw : w.fragment = none) (g : Text) :
    print { w with fragment := some g } = w.print ++ '#' :: g := by
  unfold print
  rw [hw]
  simp [printPart]

/-- Of a URL with a query, the part before the first question mark does not depend on the fragment. -/
theorem before_print_fragment {query : Text} (hw : w.fragment = none) (hq : w.query = some query) (g : Text) :
    Text.before '?' (w.print ++ '#' :: g) = Text.before '?' w.print := by
  have hprint : ∃ front, w.print = front ++ '?' :: query := by
    unfold print
    rw [hw, hq]
    exact ⟨_, List.append_nil _⟩
  obtain ⟨front, hfront⟩ := hprint
  rw [hfront, List.append_assoc, List.cons_append, Text.before_append_sep, Text.before_append_sep]

end Url

/-! ## Posting URLs -/

namespace PostingUrl

variable {u f : Text}

/-- The posting URL of a text with a fragment is that of the text before it, but for the written form, which has the
fragment at its end; it has the same part before a question mark if the text has one. -/
theorem read?_fragment (hu : '#' ∉ u) (hend : ∀ c ∈ u.getLast?, Url.isMargin c = false) (f : Text) :
    (read? u = none ∧ read? (u ++ '#' :: f) = none) ∨
    ∃ p, read? u = some p ∧ read? (u ++ '#' :: f) = some { p with href := p.href ++ '#' :: Url.fragmentOf f } ∧
      ('?' ∈ u → Text.before '?' (p.href ++ '#' :: Url.fragmentOf f) = p.hrefWithoutQuery) := by
  have hread := Url.read_fragment hu hend f
  unfold read? read
  cases h : Url.read u with
  | error e =>
    rw [h] at hread
    rw [hread]
    exact .inl ⟨rfl, rfl⟩
  | ok o =>
    cases o with
    | none =>
      rw [h] at hread
      rw [hread]
      exact .inl ⟨rfl, rfl⟩
    | some w =>
      obtain ⟨hfragment, hquery⟩ := Url.of_read hu h
      rw [h] at hread
      rw [hread]
      refine .inr ⟨ofUrl w, rfl, ?_, fun hmark => ?_⟩
      · have hprint := Url.print_of_fragment hfragment (Url.fragmentOf f)
        change some (ofUrl _) = some _
        rw [← show Url.print _ = (ofUrl w).href ++ _ from hprint]
        rfl
      · obtain ⟨query, hq⟩ := hquery hmark
        exact Url.before_print_fragment hfragment hq _

end PostingUrl

/-! ## What the written form has a say in -/

section
variable (u : PostingUrl)

theorem Place.readFirst?_href (places : List Place) (href : Text) :
    Place.readFirst? { u with href } places = Place.readFirst? u places := by
  have hread : ∀ p : Place, p.read? { u with href } = p.read? u := by
    intro p
    cases p <;> rfl
  unfold Place.readFirst?
  rw [funext hread]

theorem EmployerRule.read_href (rule : EmployerRule) (href : Text) : rule.read { u with href } = rule.read u := by
  cases rule <;> rfl

/-- The identifier that a rule finds in the path or the query. -/
def IdRule.find? (u : PostingUrl) : IdRule → Option Text
  | .text places shape => (Place.readFirst? u places).filter shape.accepts
  | .slug places => (Place.readFirst? u places).map fingerprint
  | .slugOr places missing => some (fingerprint ((Place.readFirst? u places).getD missing))
  | .numberedSlug => numberedSlugId? (u.lastSegment?.getD [])

theorem IdRule.read_eq (rule : IdRule) : rule.read u = (rule.find? u).getD u.pageFingerprint := by
  cases rule <;> rfl

theorem IdRule.find?_href (rule : IdRule) (href : Text) : rule.find? { u with href } = rule.find? u := by
  cases rule with
  | text places shape => rw [find?, find?, Place.readFirst?_href]
  | slug places => rw [find?, find?, Place.readFirst?_href]
  | slugOr places missing => rw [find?, find?, Place.readFirst?_href]
  | numberedSlug => rfl

theorem Layout.extract_href (l : Layout) (href : Text) :
    l.extract { u with href } = { l.extract u with externalId := some (l.id.read { u with href }) } := by
  unfold Layout.extract
  rw [EmployerRule.read_href]

/-- The layout of the known provider that recognizes the host. -/
def PostingUrl.layout? : Option Layout :=
  (knownLayouts.find? fun e => (Provider.ofLayout e.1 e.2).recognizes u.host).map (·.2)

/-- The identifier in the path or the query: what the layout of a known provider finds there, and on any other site the
segment behind `job`, or else the last one unless it says nothing. -/
def PostingUrl.ownId? : Option Text :=
  match u.layout? with
  | some l => l.id.find? u
  | none => (u.segmentAfter? "job").or (u.lastSegment?.filter (!isStopWord ·))

theorem PostingUrl.ownId?_href (href : Text) : ownId? { u with href } = u.ownId? := by
  have hlayout : layout? { u with href } = u.layout? := rfl
  unfold ownId?
  rw [hlayout]
  cases u.layout? with
  | none => rfl
  | some l => exact l.id.find?_href u href

theorem deduceWith_layout? : deduceWith knownProviders u =
    match u.layout? with
    | some l => Resolution.matched (.ofUrl u) (l.extract u)
    | none => Resolution.unmatched (.ofUrl u) := by
  have hfind : Registry.find? knownProviders u.host =
      (knownLayouts.find? fun e => (Provider.ofLayout e.1 e.2).recognizes u.host).map fun e => Provider.ofLayout e.1 e.2 :=
    List.find?_map
  unfold deduceWith PostingUrl.layout?
  rw [hfind]
  cases knownLayouts.find? fun e => (Provider.ofLayout e.1 e.2).recognizes u.host with
  | none => rfl
  | some e => rfl

/-- No field of a record but the identifier depends on the written form of the URL. -/
theorem deduceWith_href (href : Text) : deduceWith knownProviders { u with href } =
    { deduceWith knownProviders u with externalId := (deduceWith knownProviders { u with href }).externalId } := by
  have hlayout : PostingUrl.layout? { u with href } = u.layout? := rfl
  rw [deduceWith_layout?, deduceWith_layout?, hlayout]
  cases u.layout? with
  | none => rfl
  | some l =>
    dsimp only
    rw [Layout.extract_href]
    rfl

end

/-- The identifier is the one in the path or the query, or else the fingerprint of the page. -/
theorem deduceWith_ownId? {t : Text} {u : PostingUrl} (h : PostingUrl.read? t = some u) :
    (deduceWith knownProviders u).externalId = u.ownId?.getD u.pageFingerprint := by
  rw [deduceWith_layout?]
  unfold PostingUrl.ownId?
  cases u.layout? with
  | none => rfl
  | some l => exact (Resolution.externalId_matched h).trans (IdRule.read_eq u l.id)

/-! ## Records -/

/-- A fragment behind a text without one changes no field of the record but the identifier. An identifier that is found
in the path or the query stays. If there is none, both identifiers are fingerprints of the page, of which the second one
includes the fragment, unless the text has a question mark. -/
theorem deduce_fragment {u : Text} (hu : '#' ∉ u) (hend : ∀ c ∈ u.getLast?, Url.isMargin c = false) (f : Text) :
    (deduce u = none ∧ deduce (u ++ '#' :: f) = none) ∨
    ∃ a p id, PostingUrl.read? u = some p ∧
      PostingUrl.read? (u ++ '#' :: f) = some { p with href := p.href ++ '#' :: Url.fragmentOf f } ∧
      deduce u = some a ∧ deduce (u ++ '#' :: f) = some { a with externalId := id } ∧
      ('?' ∈ u → id = a.externalId) ∧
      (∀ found, p.ownId? = some found → a.externalId = found ∧ id = found) ∧
      (p.ownId? = none → a.externalId = fingerprint (Text.before '?' p.href) ∧
        id = fingerprint (Text.before '?' (p.href ++ '#' :: Url.fragmentOf f))) := by
  rcases PostingUrl.read?_fragment hu hend f with ⟨hnone, hnone'⟩ | ⟨p, hp, hq, hpage⟩
  · left
    unfold deduce
    rw [hnone, hnone']
    exact ⟨rfl, rfl⟩
  · right
    let q : PostingUrl := { p with href := p.href ++ '#' :: Url.fragmentOf f }
    have ha : (deduceWith knownProviders p).externalId = p.ownId?.getD p.pageFingerprint := deduceWith_ownId? hp
    have hid : (deduceWith knownProviders q).externalId = p.ownId?.getD q.pageFingerprint := by
      rw [deduceWith_ownId? hq, PostingUrl.ownId?_href]
    refine ⟨_, p, (deduceWith knownProviders q).externalId, hp, hq, deduce_of_read? hp, ?_, fun hmark => ?_,
      fun found hfound => ?_, fun hnone => ?_⟩
    · rw [deduce_of_read? hq]
      exact congrArg some (deduceWith_href p _)
    · have hsame : q.pageFingerprint = p.pageFingerprint := congrArg fingerprint (hpage hmark)
      rw [ha, hid, hsame]
    · rw [ha, hid, hfound]
      exact ⟨rfl, rfl⟩
    · rw [ha, hid, hnone]
      exact ⟨rfl, rfl⟩

/-- Behind a query, a fragment makes no difference. -/
theorem deduce_fragment_query :
    let u : Text := "https://example.com/careers?src=xing"
    '#' ∉ u ∧ u.getLast? = some 'g' ∧ deduce (u ++ '#' :: "apply?".toList) = deduce u := by
  intro u
  have hu : '#' ∉ u := by decide
  have hlast : u.getLast? = some 'g' := by decide
  have hend : ∀ c ∈ u.getLast?, Url.isMargin c = false := by
    rw [hlast]
    rintro c ⟨⟩
    rfl
  refine ⟨hu, hlast, ?_⟩
  rcases deduce_fragment hu hend "apply?" with ⟨hnone, hnone'⟩ | ⟨a, p, id, -, -, ha, hb, hmark, -⟩
  · rw [hnone, hnone']
  · rw [ha, hb, hmark (by decide)]

/-- The page of a company's openings has another identifier with a fragment. -/
theorem deduce_fragment_careers :
    let u : Text := "https://example.com/careers"
    '#' ∉ u ∧ u.getLast? = some 's' ∧
      (deduce u).map Record.externalId = some (fingerprint "https://example.com/careers") ∧
      (deduce (u ++ '#' :: "apply".toList)).map Record.externalId =
        some (fingerprint "https://example.com/careers#apply") ∧
      deduce (u ++ '#' :: "apply".toList) ≠ deduce u := by
  decide +kernel

end JobPosting

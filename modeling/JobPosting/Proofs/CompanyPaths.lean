import JobPosting.Proofs.Fragments
import JobPosting.Proofs.Identifiers
import JobPosting.Proofs.Kinds
import JobPosting.Proofs.UrlParts

/-!
# Paths with a company and a posting

Some layouts put the company behind one word of the path and the posting behind another one. A URL in such a layout is
read back as it was written, and the company is found whatever it is called. The posting is found behind the first
segment that is the second word in any letter case, and so a company of that name hides it.

* `PostingUrl.read?_plain` : a host and segments without any special character are read back as written.
* `PostingUrl.segmentAfter?_second` : what is found behind the second word.
* `CompanyLayout.deduce` : the record of a URL in such a layout.
* `deduce_companyUrls` : the records of postings in three such layouts, and which postings of a company share one
  identifier.
* `deduce_companyUrls_clash` : companies that are called like the second word.
-/

namespace JobPosting

/-! ## Plain paths -/

/-- Nothing is encoded if no character has to be. -/
theorem Text.percentEncode_eq_self {set : Char → Bool} {t : Text} (h : ∀ c ∈ t, set c = false) :
    percentEncode set t = t := by
  induction t with
  | nil => rfl
  | cons c r ih =>
    have hr : percentEncode set r = r := ih fun d hd => h d (List.mem_cons_of_mem _ hd)
    show (if set c then _ else [c]) ++ percentEncode set r = c :: r
    rw [h c List.mem_cons_self, hr]
    rfl

namespace Path

/-- A segment that is written as it is read: nothing in it is encoded, and it is not made of dots. -/
structure IsPlain (s : Text) : Prop where
  encoded : ∀ c ∈ s, Url.pathSet c = false
  slash : ∀ c ∈ s, isSlash c = false
  here : isHere s = false
  above : isAbove s = false

variable {s : Text} {segments : List Text}

theorem foldl_step_of_isPlain (h : ∀ s ∈ segments, IsPlain s) (before : List Text) :
    segments.foldl step before = before ++ segments := by
  induction segments generalizing before with
  | nil => rw [List.foldl_nil, List.append_nil]
  | cons s segments ih =>
    have hs := h s List.mem_cons_self
    have hstep : step before s = before ++ [s] := by
      unfold step
      rw [hs.above, hs.here, Text.percentEncode_eq_self hs.encoded]
      rfl
    rw [List.foldl_cons, hstep, ih fun t ht => h t (List.mem_cons_of_mem _ ht), List.append_assoc]
    rfl

theorem finish_of_isPlain (h : IsPlain s) (before : List Text) : finish before s = before ++ [s] := by
  unfold finish
  rw [h.above, h.here, Text.percentEncode_eq_self h.encoded]
  rfl

theorem IsPlain.not_mem (h : IsPlain s) : '/' ∉ s := fun hmem => absurd (h.slash _ hmem) (by decide)

theorem pieces_of_not_mem {t : Text} (h : '\\' ∉ t) : pieces t = Text.split '/' t := by
  have hmap : t.map (fun c => if c = '\\' then '/' else c) = t.map id := by
    apply List.map_congr_left
    intro c hc
    rw [if_neg]
    · rfl
    · rintro rfl
      exact h hc
  unfold pieces
  rw [hmap, List.map_id]

/-- A plain path is read back as it was written. -/
theorem read_printPath (h : ∀ s ∈ segments, IsPlain s) (hne : segments ≠ []) :
    read (Url.printPath segments) = segments := by
  obtain ⟨s, rest, rfl⟩ := List.exists_cons_of_ne_nil hne
  have hs := h s List.mem_cons_self
  have hrest : ∀ t ∈ rest, IsPlain t := fun t ht => h t (List.mem_cons_of_mem _ ht)
  have hback : '\\' ∉ s ++ Url.printPath rest := by
    intro hmem
    rcases List.mem_append.1 hmem with hmem | hmem
    · exact absurd (hs.slash _ hmem) (by decide)
    · obtain hslash | ⟨t, ht, hmem⟩ := Url.mem_printPath hmem
      · exact absurd hslash (by decide)
      · exact absurd ((hrest t ht).slash _ hmem) (by decide)
  have hpieces : pieces ((Url.printPath (s :: rest)).drop 1) = s :: rest :=
    (pieces_of_not_mem hback).trans (Url.split_printPath (fun t ht => (hrest t ht).not_mem) hs.not_mem)
  have hlast : ∃ before last, s :: rest = before ++ [last] :=
    ⟨_, _, (List.dropLast_concat_getLast (List.cons_ne_nil s rest)).symm⟩
  obtain ⟨before, last, hsplit⟩ := hlast
  unfold read
  rw [hpieces, hsplit]
  rw [hsplit] at h
  have hbefore : ∀ t ∈ before, IsPlain t := fun t ht => h t (List.mem_append_left _ ht)
  dsimp only
  rw [List.dropLast_concat, foldl_step_of_isPlain hbefore, List.getLastD_concat,
    finish_of_isPlain (h last (List.mem_append_right _ List.mem_cons_self)), List.nil_append]

end Path

/-! ## Plain URLs -/

namespace Url

/-- A character that plays no part in how a URL is cut. -/
def isOrdinary (c : Char) : Bool := !isMargin c && c != '#' && c != '?'

theorem strip_of_isOrdinary {t : Text} (h : ∀ c ∈ t, isOrdinary c = true) : strip t = t := by
  have hmargin : ∀ c ∈ t, isMargin c = false := by
    intro c hc
    have hord := h c hc
    simp only [isOrdinary, Bool.and_eq_true, Bool.not_eq_true'] at hord
    exact hord.1.1
  have hbreak : ∀ c ∈ t, (!isBreak c) = true := by
    intro c hc
    cases hb : isBreak c with
    | false => rfl
    | true => exact absurd (isMargin_of_isBreak hb) (by simp [hmargin c hc])
  rw [strip_eq_stripFront fun c hc => hmargin c (List.mem_of_getLast? hc), stripFront]
  cases t with
  | nil => rfl
  | cons c r =>
    rw [List.dropWhile_cons_of_neg (by simp [hmargin c List.mem_cons_self]), List.filter_eq_self.2 hbreak]

/-- A host that is read as it is written, without credentials and port number. -/
structure IsPlainHost (host : Text) : Prop where
  nonempty : host ≠ []
  ordinary : ∀ c ∈ host, isOrdinary c = true
  slash : ∀ c ∈ host, Path.isSlash c = false
  authority : readAuthority host = .ok ([], host, none)

instance (host : Text) : Decidable (IsPlainHost host) :=
  decidable_of_iff (host ≠ [] ∧ (∀ c ∈ host, isOrdinary c = true) ∧ (∀ c ∈ host, Path.isSlash c = false) ∧
      readAuthority host = .ok ([], host, none))
    ⟨fun ⟨nonempty, ordinary, slash, authority⟩ => ⟨nonempty, ordinary, slash, authority⟩,
      fun h => ⟨h.nonempty, h.ordinary, h.slash, h.authority⟩⟩

variable {host : Text} {segments : List Text}

theorem readWeb_plain (hhost : IsPlainHost host) (hs : ∀ s ∈ segments, Path.IsPlain s) (hne : segments ≠ []) :
    readWeb .https ("//" ++ (host ++ printPath segments)) none none =
      .ok ⟨.https, [], host, none, segments, none, none⟩ := by
  have hfront : ("//" ++ (host ++ printPath segments) : Text).dropWhile Path.isSlash = host ++ printPath segments := by
    show (host ++ printPath segments).dropWhile Path.isSlash = _
    obtain ⟨c, r, rfl⟩ := List.exists_cons_of_ne_nil hhost.nonempty
    exact List.dropWhile_cons_of_neg (by simp [hhost.slash c List.mem_cons_self])
  have hhead : ∀ c ∈ (printPath segments).head?, (!Path.isSlash c) = false := by
    obtain ⟨s, rest, rfl⟩ := List.exists_cons_of_ne_nil hne
    intro c hc
    cases hc
    rfl
  have hslash : ∀ c ∈ host, (!Path.isSlash c) = true := fun c hc => by rw [hhost.slash c hc]; rfl
  obtain ⟨htake, hdrop⟩ := takeWhile_dropWhile_append hslash hhead
  unfold readWeb
  dsimp only
  rw [hfront, authorityOf, htake, hdrop, hhost.authority, Path.read_printPath hs hne]
  rfl

/-- The characters that have to be encoded in a path are those that are not ordinary, and some more. -/
theorem isOrdinary_of_pathSet {c : Char} (h : pathSet c = false) : isOrdinary c = true := by
  simp only [pathSet, fragmentSet, isControlOrWide, Bool.or_eq_false_iff, decide_eq_false_iff_not, List.contains_cons,
    beq_eq_false_iff_ne, ne_eq] at h
  obtain ⟨⟨⟨hcontrol, -⟩, hblank, -⟩, hfragment, hquery, -⟩ := h
  have hne : c.toNat ≠ 0x20 := by
    intro hc
    apply hblank
    rw [← Char.ofNat_toNat c, hc]
  have hmargin : isMargin c = false := by
    rw [isMargin, decide_eq_false_iff_not]
    omega
  simp [isOrdinary, hmargin, hfragment, hquery]

theorem isOrdinary_of_mem_plain (hhost : IsPlainHost host) (hs : ∀ s ∈ segments, Path.IsPlain s) {c : Char}
    (hc : c ∈ host ++ printPath segments) : isOrdinary c = true := by
  rcases List.mem_append.1 hc with hc | hc
  · exact hhost.ordinary c hc
  · obtain rfl | ⟨s, hmem, hc⟩ := mem_printPath hc
    · decide
    · exact isOrdinary_of_pathSet ((hs s hmem).encoded c hc)

/-- A character that is not ordinary stands nowhere in a plain URL. -/
theorem not_mem_plain (hhost : IsPlainHost host) (hs : ∀ s ∈ segments, Path.IsPlain s) {front : Text}
    (hfront : ∀ c ∈ front, isOrdinary c = true) {mark : Char} (hmark : isOrdinary mark = false) :
    mark ∉ front ++ (host ++ printPath segments) := by
  intro hmem
  have hc := (List.mem_append.1 hmem).elim (hfront mark) (isOrdinary_of_mem_plain hhost hs)
  rw [hmark] at hc
  cases hc

theorem read_plain (hhost : IsPlainHost host) (hs : ∀ s ∈ segments, Path.IsPlain s) (hne : segments ≠ []) :
    read ("https://" ++ (host ++ printPath segments)) =
      .ok (some ⟨.https, [], host, none, segments, none, none⟩) := by
  have hscheme : ∀ c ∈ ("https://" : Text), isOrdinary c = true := by decide
  have hslashes : ∀ c ∈ ("//" : Text), isOrdinary c = true := by decide
  have hstrip : strip ("https://" ++ (host ++ printPath segments)) = "https://" ++ (host ++ printPath segments) :=
    strip_of_isOrdinary fun c hc => (List.mem_append.1 hc).elim (hscheme c) (isOrdinary_of_mem_plain hhost hs)
  have hcut : cutScheme? ("https://" ++ (host ++ printPath segments)) =
      some ("https".toList, "//" ++ (host ++ printPath segments)) := rfl
  have hweb : webScheme? "https" = some .https := by decide
  unfold read
  rw [hstrip, hcut]
  dsimp only
  rw [cutPart_of_not_mem (not_mem_plain hhost hs hslashes (by decide))]
  dsimp only
  rw [cutPart_of_not_mem (not_mem_plain hhost hs hslashes (by decide)), hweb]
  dsimp only
  rw [readWeb_plain hhost hs hne]
  rfl

end Url

namespace PostingUrl

/-- A plain URL is read back as it was written. -/
theorem read?_plain {host : Text} {segments : List Text} (hhost : Url.IsPlainHost host)
    (hs : ∀ s ∈ segments, Path.IsPlain s) (hfilled : ∀ s ∈ segments, s ≠ []) (hne : segments ≠ []) :
    read? ("https://" ++ (host ++ Url.printPath segments)) =
      some ⟨HostName.withoutWww (Text.lower host), segments, [], "https://" ++ (host ++ Url.printPath segments)⟩ := by
  refine read?_eq_some_iff.2 ⟨_, Url.read_plain hhost hs hne, ?_⟩
  have hsegments : segments.filter (· ≠ []) = segments := by
    rw [List.filter_eq_self]
    intro s hs
    exact decide_eq_true (hfilled s hs)
  unfold ofUrl
  dsimp only
  have hquery : Text.formPairs (Option.getD none []) = [] := rfl
  rw [hsegments, hquery]
  have hprint : Url.print ⟨.https, [], host, none, segments, none, none⟩ =
      "https://" ++ (host ++ Url.printPath segments) := by
    show "https".toList ++ "://".toList ++ [] ++ host ++ [] ++ Url.printPath segments ++ [] ++ [] = _
    rw [List.append_nil, List.append_nil, List.append_nil, List.append_nil, List.append_assoc]
    rfl
  rw [hprint]

end PostingUrl

/-! ## Slugs -/

def Text.isSlugChar (c : Char) : Bool := isLetter c || isDigit c || c = '_' || c = '-'

/-- A text of letters, digits, underscores and hyphens that is not empty. -/
def IsSlug (t : Text) : Prop := t ≠ [] ∧ ∀ c ∈ t, Text.isSlugChar c = true

instance (t : Text) : Decidable (IsSlug t) := inferInstanceAs (Decidable (t ≠ [] ∧ ∀ c ∈ t, Text.isSlugChar c = true))

theorem Text.toNat_of_isSlugChar {c : Char} (h : isSlugChar c = true) : c.toNat < 0x80 := by
  simp only [isSlugChar, isLetter, isDigit, Bool.or_eq_true, Bool.and_eq_true, decide_eq_true_eq, Char.le_def,
    UInt32.le_iff_toNat_le] at h
  show c.val.toNat < 0x80
  rcases h with ((((⟨-, h⟩ | ⟨-, h⟩) | ⟨-, h⟩) | rfl) | rfl)
  · exact Nat.lt_of_le_of_lt h (by decide)
  · exact Nat.lt_of_le_of_lt h (by decide)
  · exact Nat.lt_of_le_of_lt h (by decide)
  · decide
  · decide

/-- No character of a slug is encoded, is a slash, or can stand at the beginning of a segment of dots. -/
theorem Text.slugChar_plain {c : Char} (h : isSlugChar c = true) :
    Url.pathSet c = false ∧ Path.isSlash c = false ∧ c.toLower ≠ '.' ∧ c.toLower ≠ '%' := by
  exact forall_ascii
    (P := fun c =>
      isSlugChar c = true → Url.pathSet c = false ∧ Path.isSlash c = false ∧ c.toLower ≠ '.' ∧ c.toLower ≠ '%')
    (by decide +kernel) (toNat_of_isSlugChar h) h

theorem IsSlug.isPlain {t : Text} (h : IsSlug t) : Path.IsPlain t := by
  obtain ⟨hne, hchars⟩ := h
  obtain ⟨c, r, rfl⟩ := List.exists_cons_of_ne_nil hne
  obtain ⟨-, -, hdot, hpercent⟩ := Text.slugChar_plain (hchars c List.mem_cons_self)
  have hfirst : ∀ d ∈ (Text.lower (c :: r)).head?, d ≠ '.' ∧ d ≠ '%' := by
    intro d hd
    cases hd
    exact ⟨hdot, hpercent⟩
  have hnone : ∀ l : List Text, (∀ s ∈ l, s.head? = some '.' ∨ s.head? = some '%') →
      l.contains (Text.lower (c :: r)) = false := by
    intro l hl
    rw [Bool.eq_false_iff, ne_eq, List.contains_iff_mem]
    intro hmem
    rcases hl _ hmem with hd | hd
    · exact (hfirst _ hd).1 rfl
    · exact (hfirst _ hd).2 rfl
  exact {
    encoded := fun d hd => (Text.slugChar_plain (hchars d hd)).1
    slash := fun d hd => (Text.slugChar_plain (hchars d hd)).2.1
    here := hnone _ (by decide)
    above := hnone _ (by decide) }

/-! ## What stands behind the words -/

namespace PostingUrl

variable {u : PostingUrl} {v w c d : Text}

theorem segmentAfter?_first (hu : u.segments = [v, c, w, d]) : u.segmentAfter? v = some c := by
  unfold segmentAfter?
  rw [hu, List.dropWhile_cons_of_neg (by simp [Text.SameLetters])]

/-- A company that is called like the second word is taken for it, and the second word for the posting. -/
theorem segmentAfter?_second (hu : u.segments = [v, c, w, d]) (hne : ¬Text.SameLetters v w) :
    u.segmentAfter? w = some (if Text.SameLetters c w then w else d) := by
  unfold segmentAfter?
  rw [hu, List.dropWhile_cons_of_pos (by simpa using hne)]
  by_cases hc : Text.SameLetters c w
  · rw [List.dropWhile_cons_of_neg (by simpa using hc), if_pos hc]
  · rw [List.dropWhile_cons_of_pos (by simpa using hc), List.dropWhile_cons_of_neg (by simp [Text.SameLetters]),
      if_neg hc]

end PostingUrl

/-! ## Records -/

theorem Referral.ofUrl?_eq_none {u : PostingUrl} (hquery : u.query = []) : Referral.ofUrl? u = none := by
  unfold Referral.ofUrl?
  rw [List.findSome?_eq_none_iff]
  intro key _
  rw [PostingUrl.queryValue?, hquery]
  rfl

/-- The tenant is the employer in the layouts with tenants, and is left out in the others. -/
theorem Resolution.tenant_of_given {l : Layout} {x : Extraction} {c : Resolution.Context} {company : Text}
    (htenants : l.hasTenants = isTrackingSystem l.provider)
    (hx : x.givenTenant = if l.hasTenants then some company else none) :
    Resolution.tenant c x l.provider = if l.hasTenants then company else [] := by
  unfold Resolution.tenant
  rw [hx, ← htenants]
  cases l.hasTenants with
  | true => rfl
  | false => rfl

/-- The record of a URL without a query whose layout names the employer. -/
theorem Layout.matched_of_employer {l : Layout} {u : PostingUrl} {company id : Text} (hname : l.provider ≠ [])
    (hsmall : Text.lowercase l.provider = l.provider) (hagency : Agency.ofHost? u.host = none) (hquery : u.query = [])
    (hemployer : l.employer.read u = company) (hcompany : company ≠ [])
    (htenants : l.hasTenants = isTrackingSystem l.provider) (hid : l.id.read u = id) (hne : id ≠ []) :
    Resolution.matched (.ofUrl u) (l.extract u) =
      { foundOn := Resolution.foundOn none l.provider
        provider := l.provider
        tenant := if l.hasTenants then company else []
        externalId := id
        hiringCompany := some company
        postingCompany := none
        title := none } := by
  have hp := Layout.provider_matched (l := l) (u := u) (c := .ofUrl u) hname hsmall
  have hreferral := Referral.ofUrl?_eq_none hquery
  have hgiven : Text.nonEmpty? company = some company := if_neg hcompany
  have hx : l.extract u =
      ⟨some l.provider, if l.hasTenants then some company else none, some id, some company, none, none, none⟩ := by
    unfold Layout.extract
    rw [hemployer, hgiven, hid]
    rfl
  have hprovider : ((l.extract u).givenProvider.map Text.lowercase).getD ownSite = l.provider := hp
  have hgivenId : (l.extract u).givenId = some id := by
    rw [hx]
    exact if_neg hne
  have hgivenCompany : (l.extract u).givenHiringCompany = some company := by
    rw [hx]
    exact hgiven
  have htenant : Resolution.tenant (.ofUrl u) (l.extract u) l.provider = if l.hasTenants then company else [] := by
    apply Resolution.tenant_of_given htenants
    rw [hx]
    cases l.hasTenants with
    | true => exact hgiven
    | false => rfl
  have hposting : (Resolution.Context.ofUrl u).agencyName = none := by
    show (Agency.ofHost? u.host).map Agency.name = none
    rw [hagency]
    rfl
  unfold Resolution.matched
  dsimp only
  rw [hprovider, hgivenId, hgivenCompany, htenant, hposting, show (Resolution.Context.ofUrl u).referral = none from hreferral,
    hx]
  rfl

/-- A URL of this host whose path has the company behind one word and the posting behind another. -/
def companyUrl (host v company w posting : Text) : Text :=
  "https://" ++ (host ++ Url.printPath [v, company, w, posting])

/-- What such a URL says. -/
def companyPosting (host v company w posting : Text) : PostingUrl :=
  ⟨host, [v, company, w, posting], [], companyUrl host v company w posting⟩

/-- What is known of a layout, its host and the two words. -/
structure CompanyLayout (e : List HostMatcher × Layout) (host v w : Text) : Prop where
  known : e ∈ knownLayouts
  plain : Url.IsPlainHost host
  spelling : HostName.withoutWww (Text.lower host) = host
  recognizes : (Provider.ofLayout e.1 e.2).recognizes host = true
  employer : e.2.employer = .behind [v]
  tenants : e.2.hasTenants = isTrackingSystem e.2.provider
  slugs : IsSlug v ∧ IsSlug w
  apart : ¬Text.SameLetters v w

instance (e : List HostMatcher × Layout) (host v w : Text) : Decidable (CompanyLayout e host v w) :=
  decidable_of_iff (e ∈ knownLayouts ∧ Url.IsPlainHost host ∧ HostName.withoutWww (Text.lower host) = host ∧
      (Provider.ofLayout e.1 e.2).recognizes host = true ∧ e.2.employer = .behind [v] ∧
      e.2.hasTenants = isTrackingSystem e.2.provider ∧ (IsSlug v ∧ IsSlug w) ∧ ¬Text.SameLetters v w)
    ⟨fun ⟨known, plain, spelling, recognizes, employer, tenants, slugs, apart⟩ =>
        ⟨known, plain, spelling, recognizes, employer, tenants, slugs, apart⟩,
      fun h => ⟨h.known, h.plain, h.spelling, h.recognizes, h.employer, h.tenants, h.slugs, h.apart⟩⟩

variable {e : List HostMatcher × Layout} {host v w c d : Text}

theorem CompanyLayout.deduce (h : CompanyLayout e host v w) (hc : IsSlug c) (hd : IsSlug d) :
    deduce (companyUrl host v c w d) = some
      { foundOn := Resolution.foundOn none e.2.provider
        provider := e.2.provider
        tenant := if e.2.hasTenants then c else []
        externalId := e.2.id.read (companyPosting host v c w d)
        hiringCompany := some c
        postingCompany := none
        title := none } := by
  have hslugs : ∀ s ∈ [v, c, w, d], IsSlug s := by
    simp [h.slugs, hc, hd]
  have hread : PostingUrl.read? (companyUrl host v c w d) = some (companyPosting host v c w d) := by
    have hplain := PostingUrl.read?_plain h.plain (fun s hs => (hslugs s hs).isPlain) (fun s hs => (hslugs s hs).1)
      (List.cons_ne_nil _ _)
    rw [h.spelling] at hplain
    exact hplain
  have hp : Provider.ofLayout e.1 e.2 ∈ knownProviders := List.mem_map.2 ⟨e, h.known, rfl⟩
  obtain ⟨hname, hsmall⟩ := lowercase_knownLayouts e h.known
  have hemployer : e.2.employer.read (companyPosting host v c w d) = c := by
    rw [h.employer]
    show ([v].findSome? (companyPosting host v c w d).segmentAfter?).getD [] = c
    rw [List.findSome?_cons, PostingUrl.segmentAfter?_first rfl]
    rfl
  have hid := IdRule.read_ne_nil (PostingUrl.segments_ne_nil hread) e.2.id
  rw [deduce_of_read? hread, deduceWith_of_recognizes hp h.recognizes]
  exact congrArg some
    (Layout.matched_of_employer hname hsmall (ofHost?_of_recognizes hp h.recognizes) rfl hemployer hc.1 h.tenants rfl hid)

/-- The identifier is looked for behind the second word first. -/
theorem CompanyLayout.readFirst? (h : CompanyLayout e host v w) (places : List Place) :
    Place.readFirst? (companyPosting host v c w d) (.behind w :: places) =
      some (if Text.SameLetters c w then w else d) := by
  rw [Place.readFirst?_cons]
  show ((companyPosting host v c w d).segmentAfter? w).or _ = _
  rw [PostingUrl.segmentAfter?_second rfl h.apart]
  rfl

theorem CompanyLayout.pageFingerprint (h : CompanyLayout e host v w) (hc : IsSlug c) (hd : IsSlug d) :
    (companyPosting host v c w d).pageFingerprint = fingerprint (companyUrl host v c w d) := by
  have hplain : ∀ s ∈ [v, c, w, d], Path.IsPlain s := by
    simp [h.slugs.1.isPlain, h.slugs.2.isPlain, hc.isPlain, hd.isPlain]
  have hmark : '?' ∉ companyUrl host v c w d := Url.not_mem_plain h.plain hplain (by decide) (by decide)
  exact congrArg fingerprint (Text.before_eq_self hmark)

theorem dynamitejobs_companyLayout :
    CompanyLayout ([.within "dynamitejobs.com"], ⟨"dynamitejobs", .behind ["company"], false,
      .slugOr [.behind "remote-job", .lastSegment] "dynamitejobs"⟩) "dynamitejobs.com" "company" "remote-job" := by
  decide +kernel

theorem wellfound_companyLayout :
    CompanyLayout ([.within "wellfound.com", .within "angel.co"], ⟨"wellfound", .behind ["company"], false,
      .slug [.behind "jobs", .lastSegment]⟩) "wellfound.com" "company" "jobs" := by
  decide +kernel

theorem greenhouse_companyLayout :
    CompanyLayout ([.within "boards.greenhouse.io", .within "greenhouse.io"], ⟨"greenhouse", .behind ["boards"], true,
      .text [.behind "jobs", .lastSegment] .number⟩) "boards.greenhouse.io" "boards" "jobs" := by
  decide +kernel

/-! ## Three layouts -/

def dynamitejobsUrl (company slug : Text) : Text :=
  "https://dynamitejobs.com/company/" ++ company ++ "/remote-job/" ++ slug

def wellfoundUrl (company slug : Text) : Text := "https://wellfound.com/company/" ++ company ++ "/jobs/" ++ slug

def greenhouseUrl (company number : Text) : Text :=
  "https://boards.greenhouse.io/boards/" ++ company ++ "/jobs/" ++ number

theorem companyUrl_eq {front middle : Text} (hfront : front = "https://" ++ (host ++ '/' :: (v ++ ['/'])))
    (hmiddle : middle = '/' :: (w ++ ['/'])) (c d : Text) :
    front ++ c ++ middle ++ d = companyUrl host v c w d := by
  subst hfront hmiddle
  unfold companyUrl
  generalize "https://".toList = scheme
  simp [Url.printPath]

theorem dynamitejobsUrl_eq (c d : Text) :
    dynamitejobsUrl c d = companyUrl "dynamitejobs.com" "company" c "remote-job" d :=
  companyUrl_eq (by decide) (by decide) c d

theorem wellfoundUrl_eq (c d : Text) : wellfoundUrl c d = companyUrl "wellfound.com" "company" c "jobs" d :=
  companyUrl_eq (by decide) (by decide) c d

theorem greenhouseUrl_eq (c d : Text) : greenhouseUrl c d = companyUrl "boards.greenhouse.io" "boards" c "jobs" d :=
  companyUrl_eq (by decide) (by decide) c d

theorem deduce_dynamitejobsUrl (hc : IsSlug c) (hd : IsSlug d) :
    deduce (dynamitejobsUrl c d) = some ⟨"dynamitejobs", "dynamitejobs", [],
      fingerprint (if Text.SameLetters c "remote-job" then "remote-job" else d), some c, none, none⟩ := by
  have hid : (IdRule.slugOr [.behind "remote-job", .lastSegment] "dynamitejobs").read
      (companyPosting "dynamitejobs.com" "company" c "remote-job" d) =
      fingerprint (if Text.SameLetters c "remote-job" then "remote-job" else d) := by
    show fingerprint ((Place.readFirst? _ _).getD _) = _
    rw [dynamitejobs_companyLayout.readFirst?]
    rfl
  rw [dynamitejobsUrl_eq, dynamitejobs_companyLayout.deduce hc hd, hid]
  rfl

theorem deduce_wellfoundUrl (hc : IsSlug c) (hd : IsSlug d) :
    deduce (wellfoundUrl c d) = some ⟨"wellfound", "wellfound", [],
      fingerprint (if Text.SameLetters c "jobs" then "jobs" else d), some c, none, none⟩ := by
  have hid : (IdRule.slug [.behind "jobs", .lastSegment]).read
      (companyPosting "wellfound.com" "company" c "jobs" d) =
      fingerprint (if Text.SameLetters c "jobs" then "jobs" else d) := by
    show ((Place.readFirst? _ _).map fingerprint).getD _ = _
    rw [wellfound_companyLayout.readFirst?]
    rfl
  rw [wellfoundUrl_eq, wellfound_companyLayout.deduce hc hd, hid]
  rfl

theorem deduce_greenhouseUrl (hc : IsSlug c) (hd : IsSlug d) (hnumber : IsNumber d) :
    deduce (greenhouseUrl c d) = some ⟨ownSite, "greenhouse", c,
      if Text.SameLetters c "jobs" then fingerprint (greenhouseUrl c d) else d, some c, none, none⟩ := by
  have hid : (IdRule.text [.behind "jobs", .lastSegment] .number).read
      (companyPosting "boards.greenhouse.io" "boards" c "jobs" d) =
      if Text.SameLetters c "jobs" then fingerprint (greenhouseUrl c d) else d := by
    show ((Place.readFirst? _ _).filter Shape.number.accepts).getD (PostingUrl.pageFingerprint _) = _
    rw [greenhouse_companyLayout.readFirst?, greenhouse_companyLayout.pageFingerprint hc hd, ← greenhouseUrl_eq]
    by_cases hjobs : Text.SameLetters c "jobs"
    · rw [if_pos hjobs, if_pos hjobs]
      rfl
    · rw [if_neg hjobs, if_neg hjobs, Option.filter_some, if_pos (Shape.accepts_number_iff.2 hnumber)]
      rfl
  rw [greenhouseUrl_eq, greenhouse_companyLayout.deduce hc hd, hid, ← greenhouseUrl_eq]
  rfl

/-! ## All companies -/

instance (t : Text) : Decidable (IsNumber t) := inferInstanceAs (Decidable (6 ≤ t.length ∧ ∀ c ∈ t, Text.isDigit c = true))

def deducedId? (t : Text) : Option Text := (deduce t).map Record.externalId

theorem deducedId?_of_deduce {t : Text} {r : Record} (h : deduce t = some r) : deducedId? t = some r.externalId := by
  rw [deducedId?, h, Option.map_some]

theorem ite_eq_ite_iff {α : Type} {p : Prop} [Decidable p] {w a b : α} :
    (if p then w else a) = (if p then w else b) ↔ p ∨ a = b := by
  by_cases hp : p
  · simp [hp]
  · simp [hp]

/-- In three layouts the company is found whatever it is called, and so is the posting, unless the company is called
like the word that the posting stands behind: then the boards take that word for the posting, so that all postings of
the company share one identifier, and the applicant-tracking system falls back to the fingerprint of the page. -/
theorem deduce_companyUrls (hc : IsSlug c) (hd : IsSlug d) :
    deduce (dynamitejobsUrl c d) = some ⟨"dynamitejobs", "dynamitejobs", [],
      fingerprint (if Text.SameLetters c "remote-job" then "remote-job" else d), some c, none, none⟩ ∧
    deduce (wellfoundUrl c d) = some ⟨"wellfound", "wellfound", [],
      fingerprint (if Text.SameLetters c "jobs" then "jobs" else d), some c, none, none⟩ ∧
    (IsNumber d → deduce (greenhouseUrl c d) = some ⟨ownSite, "greenhouse", c,
      if Text.SameLetters c "jobs" then fingerprint (greenhouseUrl c d) else d, some c, none, none⟩) ∧
    ∀ e, IsSlug e →
      (deducedId? (dynamitejobsUrl c d) = deducedId? (dynamitejobsUrl c e) ↔
        Text.SameLetters c "remote-job" ∨ fingerprint d = fingerprint e) ∧
      (deducedId? (wellfoundUrl c d) = deducedId? (wellfoundUrl c e) ↔
        Text.SameLetters c "jobs" ∨ fingerprint d = fingerprint e) ∧
      (IsNumber d → IsNumber e → (deducedId? (greenhouseUrl c d) = deducedId? (greenhouseUrl c e) ↔
        if Text.SameLetters c "jobs" then fingerprint (greenhouseUrl c d) = fingerprint (greenhouseUrl c e)
        else d = e)) := by
  refine ⟨deduce_dynamitejobsUrl hc hd, deduce_wellfoundUrl hc hd, deduce_greenhouseUrl hc hd, fun e he => ⟨?_, ?_, ?_⟩⟩
  · rw [deducedId?_of_deduce (deduce_dynamitejobsUrl hc hd), deducedId?_of_deduce (deduce_dynamitejobsUrl hc he),
      Option.some.injEq, apply_ite fingerprint, apply_ite fingerprint, ite_eq_ite_iff]
  · rw [deducedId?_of_deduce (deduce_wellfoundUrl hc hd), deducedId?_of_deduce (deduce_wellfoundUrl hc he),
      Option.some.injEq, apply_ite fingerprint, apply_ite fingerprint, ite_eq_ite_iff]
  · intro hnd hne
    rw [deducedId?_of_deduce (deduce_greenhouseUrl hc hd hnd), deducedId?_of_deduce (deduce_greenhouseUrl hc he hne),
      Option.some.injEq]
    dsimp only
    split
    · exact Iff.rfl
    · exact Iff.rfl

theorem deduce_companyUrls_acme :
    IsSlug "acme" ∧ IsSlug "123456" ∧ deduce (greenhouseUrl "acme" "123456") =
      some ⟨ownSite, "greenhouse", "acme", "123456", some "acme".toList, none, none⟩ := by
  have hcompany : IsSlug "acme" := by decide
  have hslug : IsSlug "123456" := by decide
  have hnumber : IsNumber "123456" := by decide
  obtain ⟨-, -, hdeduce, -⟩ := deduce_companyUrls hcompany hslug
  exact ⟨hcompany, hslug, hdeduce hnumber⟩

/-- A company called Jobs has one identifier for all of its postings on Wellfound, though the fingerprints of their
slugs differ. -/
theorem deduce_companyUrls_clash :
    IsSlug "jobs" ∧ IsSlug "remote-job" ∧ IsSlug "2981234-backend-engineer" ∧ IsSlug "2981235-cook" ∧
      deduce (wellfoundUrl "jobs" "2981234-backend-engineer") =
        some ⟨"wellfound", "wellfound", [], fingerprint "jobs", some "jobs".toList, none, none⟩ ∧
      deducedId? (wellfoundUrl "jobs" "2981234-backend-engineer") ≠ some (fingerprint "2981234-backend-engineer") ∧
      deducedId? (wellfoundUrl "jobs" "2981234-backend-engineer") = deducedId? (wellfoundUrl "jobs" "2981235-cook") ∧
      fingerprint "2981234-backend-engineer" ≠ fingerprint "2981235-cook" ∧
      deducedId? (dynamitejobsUrl "remote-job" "2981235-cook") ≠ some (fingerprint "2981235-cook") ∧
      deducedId? (greenhouseUrl "jobs" "123456") ≠ some "123456".toList := by
  decide +kernel

end JobPosting

import JobPosting.Deduction
import JobPosting.Proofs.Recognition

/-!
# Filled records

Whatever the layout of a provider says, or fails to say, about a URL, the fields that a record always has are not
empty, and those that it may lack are not there if they would be empty.

* `Text.Filled` : a text that may be missing is not empty; the operations of a chain of fallbacks keep it so.
* `Resolution.Context.Filled` : the sources of a record outside the extraction are filled.
* `Record.Filled` : the record is filled, as `Resolution.matched_filled` and `Resolution.unmatched_filled` show.
* `deduced_filled` : every record of a posting URL is filled, by any registry.
-/

namespace JobPosting

/-! ## Texts that may be missing -/

namespace Text

/-- A text that may be missing, but is not empty if it is there. -/
def Filled (o : Option Text) : Prop := ∀ t, o = some t → t ≠ []

theorem filled_none : Filled none := by
  intro t h
  cases h

theorem filled_nonEmpty? (t : Text) : Filled (nonEmpty? t) := fun _ h => ne_nil_of_nonEmpty? h

theorem filled_given (o : Option Text) : Filled (given o) := by
  cases o with
  | none => exact filled_none
  | some t => exact filled_nonEmpty? t

theorem Filled.or {a b : Option Text} (ha : Filled a) (hb : Filled b) : Filled (a.or b) := by
  cases a with
  | none => exact hb
  | some t => exact ha

theorem Filled.filter {o : Option Text} (h : Filled o) (p : Text → Bool) : Filled (o.filter p) := by
  intro t ht
  rw [Option.filter_eq_some_iff] at ht
  exact h t ht.1

theorem Filled.map {o : Option Text} (h : Filled o) {f : Text → Text} (hf : ∀ t, t ≠ [] → f t ≠ []) :
    Filled (o.map f) := by
  intro t ht
  obtain ⟨u, hu, rfl⟩ := Option.map_eq_some_iff.1 ht
  exact hf u (h u hu)

theorem Filled.getD {o : Option Text} (h : Filled o) {d : Text} (hd : d ≠ []) : o.getD d ≠ [] := by
  cases o with
  | none => exact hd
  | some t => exact h t rfl

theorem filled_findSome? {α : Type} {f : α → Option Text} {l : List α} (h : ∀ a ∈ l, Filled (f a)) :
    Filled (l.findSome? f) := by
  intro t ht
  obtain ⟨a, ha, hat⟩ := List.exists_of_findSome?_eq_some ht
  exact h a ha t hat

/-! ## Small letters -/

theorem smallForm_ne_nil (c : Char) : smallForm c ≠ [] := by
  unfold smallForm
  split
  · exact List.cons_ne_nil _ _
  · split <;> exact List.cons_ne_nil _ _

theorem lowercase_ne_nil {t : Text} (h : t ≠ []) : lowercase t ≠ [] := by
  obtain ⟨c, r, rfl⟩ := List.exists_cons_of_ne_nil h
  unfold lowercase lowercaseAfter
  refine List.append_ne_nil_of_left_ne_nil ?_ _
  split
  · exact List.cons_ne_nil _ _
  · exact smallForm_ne_nil c

end Text

/-! ## Posting URLs -/

namespace PostingUrl

/-- A text is a posting URL exactly if it is a URL of the web. -/
theorem read?_eq_some_iff {t : Text} {u : PostingUrl} :
    read? t = some u ↔ ∃ w, Url.read t = .ok (some w) ∧ ofUrl w = u := by
  unfold read? read
  split
  · rename_i w hw
    simp [Except.toOption, hw]
  · rename_i hw
    simp [Except.toOption, hw]
  · rename_i cause hw
    simp [Except.toOption, hw]

theorem segments_ne_nil {t : Text} {u : PostingUrl} (h : read? t = some u) : ∀ s ∈ u.segments, s ≠ [] := by
  obtain ⟨w, -, rfl⟩ := read?_eq_some_iff.1 h
  intro s hs
  have hf := (List.mem_filter.1 hs).2
  simpa using hf

variable {u : PostingUrl}

theorem filled_lastSegment? (h : ∀ s ∈ u.segments, s ≠ []) : Text.Filled u.lastSegment? :=
  fun s hs => h s (List.mem_of_getLast? hs)

theorem mem_of_segmentAfter? {token s : Text} (h : u.segmentAfter? token = some s) : s ∈ u.segments := by
  unfold segmentAfter? at h
  split at h
  · rename_i rest hdrop
    cases h
    have hs : s ∈ u.segments.dropWhile fun s => ¬Text.SameLetters s token := by
      rw [hdrop]
      exact List.mem_cons_of_mem _ List.mem_cons_self
    exact List.dropWhile_subset _ hs
  · cases h

theorem filled_segmentAfter? (h : ∀ s ∈ u.segments, s ≠ []) (token : Text) : Text.Filled (u.segmentAfter? token) :=
  fun s hs => h s (mem_of_segmentAfter? hs)

end PostingUrl

/-! ## Referral sources and agencies -/

/-- No spelling of a referral source stands for the empty name. -/
theorem filled_sourceName? (spelling : Text) : Text.Filled (sourceName? spelling) := by
  have hnames : ∀ e ∈ Vocabulary.sourceSpellings, e.2 ≠ [] := by decide +kernel
  intro name h
  obtain ⟨front, back, hl, -⟩ := List.lookup_eq_some_iff.1 h
  refine hnames (spelling, name) ?_
  rw [hl]
  exact List.mem_append_right _ List.mem_cons_self

theorem Referral.filled_sourceOf? (value : Text) : Text.Filled (sourceOf? value) :=
  (Text.filled_nonEmpty? _).map fun name hn => (filled_sourceName? name).getD hn

theorem Referral.filled_ofUrl? (u : PostingUrl) : Text.Filled (ofUrl? u) := by
  refine Text.filled_findSome? fun key _ source hs => ?_
  obtain ⟨value, -, hv⟩ := Option.bind_eq_some_iff.1 hs
  exact filled_sourceOf? value source hv

theorem Agency.name_ne_nil {host : Text} {a : Agency} (h : Agency.ofHost? host = some a) : a.name ≠ [] := by
  have hnames : ∀ domain ∈ Vocabulary.agencyDomains, HostName.firstLabel domain ≠ [] := by decide +kernel
  exact hnames a.domain (ofHost?_eq_some_iff.1 h).1

theorem ownSite_ne_nil : ownSite ≠ [] := by decide

/-! ## Records -/

/-- The fields that a record always has are not empty, and the others are not empty if they are there. -/
structure Record.Filled (r : Record) : Prop where
  foundOn : r.foundOn ≠ []
  provider : r.provider ≠ []
  externalId : r.externalId ≠ []
  hiringCompany : Text.Filled r.hiringCompany
  postingCompany : Text.Filled r.postingCompany
  title : Text.Filled r.title

namespace Resolution

/-- What is known about a posting besides the layout of its provider is nowhere empty. -/
structure Context.Filled (c : Context) : Prop where
  segments : ∀ s ∈ c.url.segments, s ≠ []
  referral : Text.Filled c.referral
  agency : Text.Filled c.agencyName

theorem Context.filled_ofUrl {t : Text} {u : PostingUrl} (h : PostingUrl.read? t = some u) :
    (Context.ofUrl u).Filled where
  segments := PostingUrl.segments_ne_nil h
  referral := Referral.filled_ofUrl? u
  agency := by
    intro name hn
    obtain ⟨a, ha, rfl⟩ := Option.map_eq_some_iff.1 hn
    exact Agency.name_ne_nil ha

variable {c : Context}

theorem Context.filled_hostEmployer (c : Context) : Text.Filled c.hostEmployer := by
  unfold hostEmployer
  split
  · exact Text.filled_none
  · exact Text.filled_nonEmpty? _

theorem foundOn_ne_nil {referral : Option Text} (h : Text.Filled referral) {provider : Text} (hp : provider ≠ []) :
    foundOn referral provider ≠ [] := by
  refine h.getD ?_
  split
  · exact ownSite_ne_nil
  · exact hp

/-- The record is filled, whatever the layout of the provider says. -/
theorem matched_filled (h : c.Filled) (x : Extraction) : (matched c x).Filled := by
  have hp : (matched c x).provider ≠ [] :=
    (((Text.filled_given _).or (Text.filled_given _)).map fun _ => Text.lowercase_ne_nil).getD ownSite_ne_nil
  have hlast := (PostingUrl.filled_lastSegment? h.segments).filter (!isPathWord ·)
  exact {
    foundOn := foundOn_ne_nil h.referral hp
    provider := hp
    externalId := ((Text.filled_given _).or hlast).getD (fingerprint_ne_nil _)
    hiringCompany := (Text.filled_given _).or c.filled_hostEmployer
    postingCompany := (Text.filled_given _).or h.agency
    title := Text.filled_given _ }

/-- The record of a posting on an unknown site is filled. -/
theorem unmatched_filled (h : c.Filled) : (unmatched c).Filled := by
  have hlast := (PostingUrl.filled_lastSegment? h.segments).filter (!isStopWord ·)
  exact {
    foundOn := h.referral.getD ownSite_ne_nil
    provider := (Text.filled_nonEmpty? _).getD ownSite_ne_nil
    externalId := ((PostingUrl.filled_segmentAfter? h.segments _).or hlast).getD (fingerprint_ne_nil _)
    hiringCompany := c.filled_hostEmployer
    postingCompany := h.agency
    title := Text.filled_none }

end Resolution

theorem deduceWith_filled {u : PostingUrl} (h : (Resolution.Context.ofUrl u).Filled) (registry : Registry) :
    (deduceWith registry u).Filled := by
  unfold deduceWith
  split
  · exact Resolution.matched_filled h _
  · exact Resolution.unmatched_filled h

/-- Every record of a posting URL is filled: by any registry, for anything that a provider could say about the URL, and
if no provider says anything. So is every record that is deduced from a text. -/
theorem deduced_filled (t : Text) :
    (∀ u, PostingUrl.read? t = some u → (∀ registry : Registry, (deduceWith registry u).Filled) ∧
      (∀ x : Extraction, (Resolution.matched (.ofUrl u) x).Filled) ∧ (Resolution.unmatched (.ofUrl u)).Filled) ∧
    ∀ r, deduce t = some r → r.Filled := by
  constructor
  · intro u h
    have hc := Resolution.Context.filled_ofUrl h
    exact ⟨deduceWith_filled hc, Resolution.matched_filled hc, Resolution.unmatched_filled hc⟩
  · intro r hr
    obtain ⟨u, h, rfl⟩ := Option.map_eq_some_iff.1 hr
    exact deduceWith_filled (Resolution.Context.filled_ofUrl h) knownProviders

/-- Even a URL whose host is empty without `www`, and one whose host is only dots, have filled records. -/
theorem deduced_filled_dots :
    (∀ registry : Registry, (deduceWith registry ⟨"", [], [], "http://www./"⟩).Filled) ∧
      ∃ r, deduce "http://.../" = some r ∧ r.Filled := by
  have hwww : PostingUrl.read? "http://www./" = some ⟨"", [], [], "http://www./"⟩ := by decide +kernel
  have hdots : (deduce "http://.../").isSome = true := by decide +kernel
  obtain ⟨r, hr⟩ := Option.isSome_iff_exists.1 hdots
  exact ⟨((deduced_filled "http://www./").1 _ hwww).1, r, hr, (deduced_filled "http://.../").2 r hr⟩

end JobPosting
